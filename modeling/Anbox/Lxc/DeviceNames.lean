import Anbox.Lxc.ManagementApi
import Anbox.Lxc.PathNames
import Anbox.Lxc.StartEntries
import Mathlib.Data.List.Nodup

/-!
# The names of device nodes

`LxcContainer::add_device` names the node of a device after the last component
of its path without the extension.  Devices in different directories, or with
different extensions, may get the same node.
-/

namespace Anbox.Lxc.DeviceNames

open Anbox.Foundation.SeparatedText
open Anbox.Foundation.PathResolution
open Anbox.Lxc.EntryLines
open Anbox.Lxc.PathNames
open Anbox.Lxc.StartEntries
open Anbox.Lxc.LxcContainer
open Anbox.Lxc.ManagementApi (StartContainer)

/-! ## Nodes -/

section

variable (library : PathLibrary) (devicesDir : String)

/-- The path of the node that is made for a device. -/
def newDevicePath (device : String) : String :=
  String.ofList
    (library.append devicesDir.toList (library.basename device.toList))

/-- The settings with the directory `container_devices_dir`. -/
def withDevicesDir (settings : Settings) : Settings :=
  { settings with
    system :=
      { settings.system with
        deviceNode := newDevicePath library devicesDir } }

/-- The place of the node. -/
def nodePlace (device : String) : List Path :=
  resolve (newDevicePath library devicesDir device).toList

/-- The node is in the directory of devices. -/
def InDevicesDir (device : String) : Prop :=
  ∃ below, below ≠ [] ∧
    nodePlace library devicesDir device =
      below ++ resolve devicesDir.toList

end

/--
The line mounts the node of the device at the path of the device.  LXC takes
the path from the root file system on if it does not begin with a slash.
-/
def MountsNode (settings : Settings) (device line : String) : Prop :=
  fields line = settings.system.deviceNode device ::
      deviceTarget device :: entryOptions "file" ∧
    ¬['/'] <+: (deviceTarget device).toList ∧
    resolve
        (settings.rootfsPath.toList ++ '/' ::
          (deviceTarget device).toList) =
      resolve device.toList ++ resolve settings.rootfsPath.toList

/-- The path of the device has no blanks and ends in a name. -/
structure WellNamed (settings : Settings) (device : String) : Prop where
  unbroken : Unbroken device.toList
  single : ¬['/', '/'] <+: device.toList
  named : IsName (stem (filename device.toList))
  /-- The path does not climb out of the root file system. -/
  inside :
    StaysBelow device.toList ∨ resolve settings.rootfsPath.toList = []

section

variable {library : PathLibrary} {devicesDir : String}

theorem nodePlace_eq (device : String) :
    nodePlace library devicesDir device =
      (follow (stem (filename device.toList))).within
        (resolve devicesDir.toList) := by
  rw [nodePlace, newDevicePath, String.toList_ofList, library.append_eq,
    resolve_joined, library.basename_eq]

theorem inDevicesDir_iff {device : String}
    (single : ¬['/', '/'] <+: device.toList) :
    InDevicesDir library devicesDir device ↔
      IsName (stem (filename device.toList)) := by
  rw [InDevicesDir, nodePlace_eq]
  exact within_follow_iff (stem_filename_simple single) _

theorem toList_deviceTarget (device : String) :
    (deviceTarget device).toList = belowRoot device.toList := by
  unfold deviceTarget
  rcases startsWith_slash_cases device with
    ⟨slash, whole⟩ | ⟨noSlash, whole⟩
  · have dropped : (device.drop 1).toString.toList =
        device.toList.drop 1 :=
      String.toList_copy_drop
    rw [slash, if_pos rfl, dropped]
    nth_rewrite 1 [whole]
    rfl
  · rw [noSlash, if_neg Bool.false_ne_true]
    exact whole

/-- A second slash is one that LXC does not take. -/
theorem slash_belowRoot_iff (path : Path) :
    ['/'] <+: belowRoot path ↔ ['/', '/'] <+: path := by
  cases path with
  | nil => simp [belowRoot]
  | cons character path =>
      rw [belowRoot]
      split
      · rename_i slash
        rw [of_decide_eq_true slash, List.cons_prefix_cons]
        simp
      · rename_i other
        have different : '/' ≠ character := by
          rintro rfl
          exact other rfl
        simp [List.cons_prefix_cons, different]

theorem belowRoot_ne_nil {path : Path}
    (named : IsName (stem (filename path))) : belowRoot path ≠ [] := by
  intro empty
  rcases belowRoot_cases path with slash | same
  · rw [slash, empty] at named
    revert named
    decide
  · rw [same, empty] at named
    revert named
    decide

theorem unbroken_newDevicePath (device : String) :
    Unbroken (newDevicePath library devicesDir device).toList ↔
      Unbroken devicesDir.toList ∧
        Unbroken (stem (filename device.toList)) := by
  rw [newDevicePath, String.toList_ofList, library.append_eq,
    library.basename_eq]
  exact forall_mem_joined (by decide) _ _

/-- A device has a node and its entry the right fields if it is well named. -/
theorem inDevicesDir_and_mountsNode_iff (settings : Settings)
    (device : String) :
    InDevicesDir library devicesDir device ∧
        MountsNode (withDevicesDir library devicesDir settings) device
          (deviceEntry (withDevicesDir library devicesDir settings)
            device) ↔
      Unbroken devicesDir.toList ∧ WellNamed settings device := by
  have own : resolve (settings.rootfsPath.toList ++ '/' ::
        (deviceTarget device).toList) =
      resolve device.toList ++ resolve settings.rootfsPath.toList ↔
      StaysBelow device.toList ∨
        resolve settings.rootfsPath.toList = [] := by
    rw [toList_deviceTarget, ← resolve_belowRoot device.toList,
      resolve_append_eq_iff, staysBelow_belowRoot]
  have relative : ¬['/'] <+: (deviceTarget device).toList ↔
      ¬['/', '/'] <+: device.toList := by
    rw [toList_deviceTarget, slash_belowRoot_iff]
  rw [deviceEntry, MountsNode,
    fields_entryLine_eq_iff (Or.inl rfl), relative]
  constructor
  · rintro ⟨inDir, ⟨node, target⟩, single, place⟩
    have targetWhole : Whole isBlank (deviceTarget device).toList :=
      whole_of_mem_pieces (by rw [target]; exact List.mem_singleton_self _)
    have unbroken : Unbroken (deviceTarget device).toList := targetWhole.2
    rw [toList_deviceTarget, unbroken_belowRoot] at unbroken
    exact ⟨((unbroken_newDevicePath device).mp node.2).1, unbroken, single,
      (inDevicesDir_iff single).mp inDir, own.mp place⟩
  · rintro ⟨dirUnbroken, unbroken, single, named, inside⟩
    have inDir : InDevicesDir library devicesDir device :=
      (inDevicesDir_iff single).mpr named
    refine ⟨inDir, ⟨⟨?_, ?_⟩, ?_⟩, single, own.mpr inside⟩
    · intro empty
      rcases inDir with ⟨below, nonempty, reached⟩
      change (newDevicePath library devicesDir device).toList = [] at empty
      rw [nodePlace, empty] at reached
      exact nonempty (List.append_eq_nil_iff.mp reached.symm).1
    · refine (unbroken_newDevicePath device).mpr ⟨dirUnbroken, ?_⟩
      intro character member
      rcases mem_stem_filename single member with old | rfl | rfl
      · exact unbroken character old
      · decide
      · decide
    · rw [toList_deviceTarget]
      exact pieces_of_whole ⟨belowRoot_ne_nil named,
        (unbroken_belowRoot _).mpr unbroken⟩

end

/-! ## The devices of a request -/

/-- The devices of the request and those that every container gets. -/
def devicePaths (environment : Environment) (request : StartContainer) :
    List String :=
  request.devices.map Prod.fst ++
      (if environment.binderfs then [] else ["/dev/binder"]) ++
    additionalDevices.map Prod.fst

theorem exists_mem_allDevices {environment : Environment}
    {request : StartContainer} {device : String}
    (member : device ∈ devicePaths environment request) :
    ∃ spec, (device, spec) ∈
      allDevices environment request.configuration := by
  have requested : ∀ {key : String}, key ∈ request.devices.map Prod.fst →
      ∃ spec, (key, spec) ∈ request.configuration.devices := by
    intro key asked
    let specification (permission : UInt32) : DeviceSpecification :=
      ⟨permission, ""⟩
    exact (exists_mem_foldl_insertNew_iff specification).mpr
      (Or.inr asked)
  apply (exists_mem_foldl_insertNew_iff id).mpr
  rcases List.mem_append.mp member with early | additional
  · left
    split
    · rename_i binderfs
      rw [if_pos binderfs, List.append_nil] at early
      exact requested early
    · rename_i noBinderfs
      rw [if_neg noBinderfs] at early
      apply exists_mem_insertNew_iff.mpr
      rcases List.mem_append.mp early with asked | binder
      · exact Or.inl (requested asked)
      · exact Or.inr (List.mem_singleton.mp binder)
  · exact Or.inr additional

section

variable (library : PathLibrary) (devicesDir : String)
variable (settings : Settings) (environment : Environment)
variable (request : StartContainer) (container : Container)

/-- The handle that an accepted start leaves has the entry of the device. -/
def EntryKept (device : String) : Prop :=
  (start settings environment request.configuration container).1 =
      .ok () →
    ∃ config,
      (start settings environment request.configuration container).2.config =
          some config ∧
        deviceEntry settings device ∈ config "lxc.mount.entry"

/--
Different devices have different nodes in the directory of devices, and the
entry of each mounts its node at its path.
-/
def DevicesServed : Prop :=
  let devices := devicePaths environment request
  let settings := withDevicesDir library devicesDir settings
  (∀ first ∈ devices, ∀ second ∈ devices, first ≠ second →
      nodePlace library devicesDir first ≠
        nodePlace library devicesDir second) ∧
    ∀ device ∈ devices,
      InDevicesDir library devicesDir device ∧
        MountsNode settings device (deviceEntry settings device) ∧
        EntryKept settings environment request container device

/-- No two devices have the same name without the extension. -/
def NamesDiffer (devices : List String) : Prop :=
  ∀ first ∈ devices, ∀ second ∈ devices, first ≠ second →
    stem (filename first.toList) ≠ stem (filename second.toList)

theorem namesDiffer_of_nodup {devices : List String}
    (nodup : (devices.map fun device =>
      stem (filename device.toList)).Nodup) : NamesDiffer devices := by
  intro first inFirst second inSecond different same
  exact different (List.inj_on_of_nodup_map nodup inFirst inSecond same)

/-- The devices that every container gets are no obstacle. -/
theorem builtIn_wellNamed_and_namesDiffer :
    (∀ device ∈ "/dev/binder" :: additionalDevices.map Prod.fst,
        WellNamed settings device) ∧
      NamesDiffer ("/dev/binder" :: additionalDevices.map Prod.fst) := by
  constructor
  · have checked :
        ∀ device ∈ "/dev/binder" :: additionalDevices.map Prod.fst,
          Unbroken device.toList ∧ ¬['/', '/'] <+: device.toList ∧
            IsName (stem (filename device.toList)) ∧
            StaysBelow device.toList := by
      decide
    intro device member
    rcases checked device member with ⟨unbroken, single, named, stays⟩
    exact ⟨unbroken, single, named, Or.inl stays⟩
  · apply namesDiffer_of_nodup
    decide

end

/-- A request for a device that every container has at another path. -/
def tunRequest : StartContainer :=
  { bindMounts := []
    devices := [("/dev/net/tun", 0o660)]
    extraProperties := [] }

end Anbox.Lxc.DeviceNames
