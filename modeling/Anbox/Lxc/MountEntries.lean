import Anbox.Lxc.StartEntries
import Anbox.Lxc.ManagementApi

/-!
# Mount entries

`LxcContainer::start` puts the source and the target of a bind mount into a
line as they are.  A blank in one of them moves the fields of the line, and two
dots in the target can lead out of the root file system.
-/

namespace Anbox.Lxc.MountEntries

open Anbox.Foundation.SeparatedText
open Anbox.Foundation.PathResolution
open Anbox.Lxc.EntryLines
open Anbox.Lxc.StartEntries
open Anbox.Lxc.LxcContainer
open Anbox.Lxc.ManagementApi (StartContainer)

/-! ## The line of a bind mount -/

/--
The line mounts the source at the place of the target in the root file system,
and creates what it is mounted on.
-/
def MeansMount (settings : Settings) (environment : Environment)
    (mount : String × String) (line : String) : Prop :=
  ∃ path, fields line =
      mount.1 :: path :: entryOptions (createType environment mount.1) ∧
    resolve path.toList =
      resolve mount.2.toList ++ resolve settings.rootfsPath.toList

/-- Nothing in the two paths changes what the line means. -/
structure PlainMount (settings : Settings) (mount : String × String) :
    Prop where
  source : Whole isBlank mount.1.toList
  target : Unbroken mount.2.toList
  root : PlainRoot settings.rootfsPath.toList
  /-- The target does not climb out of the root file system. -/
  inside :
    StaysBelow mount.2.toList ∨ resolve settings.rootfsPath.toList = []

section

variable {settings : Settings} {environment : Environment}

theorem createType_cases (source : String) :
    createType environment source = "file" ∨
      createType environment source = "dir" := by
  unfold createType
  split
  · exact Or.inr rfl
  · exact Or.inl rfl

theorem toList_targetPath (target : String) :
    (targetPath settings target).toList =
      settings.rootfsPath.toList ++ '/' :: belowRoot target.toList := by
  rw [targetPath, String.toList_append, List.append_cancel_left_eq]
  rcases startsWith_slash_cases target with
    ⟨slash, whole⟩ | ⟨noSlash, whole⟩
  · rw [slash, if_pos rfl, ← whole]
  · rw [noSlash, if_neg Bool.false_ne_true, String.toList_append, ← whole]
    rfl

/-- The entry of a mount is what is asked for if the mount is plain. -/
theorem meansMount_iff (mount : String × String) :
    MeansMount settings environment mount
        (mountEntry settings environment mount) ↔
      PlainMount settings mount := by
  have place := exists_field_iff settings.rootfsPath.toList
    (belowRoot mount.2.toList)
  rw [resolve_belowRoot, unbroken_belowRoot, staysBelow_belowRoot,
    ← toList_targetPath] at place
  constructor
  · rintro ⟨path, read, reached⟩
    rcases (fields_entryLine_eq_iff (createType_cases mount.1)).mp read with
      ⟨whole, single⟩
    rcases place.mp ⟨path.toList, single, reached⟩ with
      ⟨root, target, inside⟩
    exact ⟨whole, target, root, inside⟩
  · rintro ⟨whole, target, root, inside⟩
    rcases place.mpr ⟨root, target, inside⟩ with ⟨path, single, reached⟩
    refine ⟨String.ofList path, ?_, ?_⟩
    · apply (fields_entryLine_eq_iff (createType_cases mount.1)).mpr
      rw [String.toList_ofList]
      exact ⟨whole, single⟩
    · rw [String.toList_ofList]
      exact reached

end

/-! ## The mounts of a request -/

/--
If the start is accepted, every mount of the request has a line in the
configuration, and the line means the mount.
-/
def MountsAsAsked (settings : Settings) (environment : Environment)
    (request : StartContainer) (container : Container) : Prop :=
  (start settings environment request.configuration container).1 =
      .ok () →
    ∃ config,
      (start settings environment request.configuration container).2.config =
          some config ∧
        ∀ mount ∈ request.bindMounts,
          mount ∈ request.configuration.bindMounts ∧
            mountEntry settings environment mount ∈
              config "lxc.mount.entry" ∧
            MeansMount settings environment mount
              (mountEntry settings environment mount)

/-- The mount is the first of its source in the request, and it is plain. -/
def PlainInRequest (settings : Settings) (request : StartContainer)
    (mount : String × String) : Prop :=
  request.bindMounts.find? (·.1 = mount.1) = some mount ∧
    PlainMount settings mount

theorem mem_configuration_bindMounts_iff (request : StartContainer)
    (mount : String × String) :
    mount ∈ request.configuration.bindMounts ↔
      request.bindMounts.find? (·.1 = mount.1) = some mount := by
  have kept := @mem_foldl_insertNew_iff _ request.bindMounts [] mount
  rw [StartContainer.configuration]
  simpa using kept

/-- A request to mount the data of the host outside of the container. -/
def climbingRequest : StartContainer :=
  { bindMounts := [("/srv", "../../etc")]
    devices := []
    extraProperties := [] }

end Anbox.Lxc.MountEntries
