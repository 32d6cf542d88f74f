import Anbox.Lxc.EntryLines
import Anbox.Lxc.LxcContainer

/-!
# The mount entries of a start

`LxcContainer::start` sets one mount entry for each bind mount and one for each
device.  If the start is accepted, the handle has all of them.
-/

namespace Anbox.Lxc.StartEntries

open Anbox.Foundation.Interruptible
open Anbox.Lxc.EntryLines
open Anbox.Lxc.LxcContainer

/-! ## Entries of maps -/

section

variable {Value Added : Type}

theorem mem_insertNew_of_mem {entries : List (String × Value)}
    {entry : String × Value} (member : entry ∈ entries) (key : String)
    (value : Value) :
    entry ∈ insertNew entries key value := by
  unfold insertNew
  split
  · exact member
  · exact List.mem_append_left _ member

/-- Of the entries with one key only the first is kept. -/
theorem mem_foldl_insertNew_iff {added entries : List (String × Value)}
    {entry : String × Value} :
    entry ∈ added.foldl (fun entries other =>
        insertNew entries other.1 other.2) entries ↔
      entry ∈ entries ∨ entries.any (·.1 = entry.1) = false ∧
        added.find? (·.1 = entry.1) = some entry := by
  induction added generalizing entries with
  | nil => simp
  | cons first added inductionHypothesis =>
      rw [List.foldl_cons, inductionHypothesis, insertNew]
      by_cases same : first.1 = entry.1
      · rw [List.find?_cons_of_pos (by simpa using same), same]
        cases present : entries.any (·.1 = entry.1) with
        | true => simp [present]
        | false =>
            have pair : (entry.1, first.2) = first :=
              Prod.ext same.symm rfl
            rw [if_neg (by simp), pair]
            simp [same, eq_comm]
      · rw [List.find?_cons_of_neg (by simpa using same)]
        cases present : entries.any (·.1 = first.1) with
        | true => rw [if_pos rfl]
        | false =>
            have notFirst : entry ≠ first := by
              rintro rfl
              exact same rfl
            rw [if_neg (by simp), List.any_append]
            simp [same, notFirst]

theorem exists_mem_insertNew_iff {entries : List (String × Value)}
    {key added : String} {value : Value} :
    (∃ kept, (key, kept) ∈ insertNew entries added value) ↔
      (∃ kept, (key, kept) ∈ entries) ∨ key = added := by
  unfold insertNew
  split
  · rename_i present
    rw [List.any_eq_true] at present
    rcases present with ⟨entry, member, same⟩
    constructor
    · exact Or.inl
    · rintro (old | rfl)
      · exact old
      · exact ⟨entry.2, (of_decide_eq_true same) ▸ member⟩
  · simp [exists_or, or_comm, and_comm]

/-- No key that is added gets lost. -/
theorem exists_mem_foldl_insertNew_iff {added : List (String × Added)}
    (toValue : Added → Value) {entries : List (String × Value)}
    {key : String} :
    (∃ kept, (key, kept) ∈ added.foldl (fun entries other =>
        insertNew entries other.1 (toValue other.2)) entries) ↔
      (∃ kept, (key, kept) ∈ entries) ∨ key ∈ added.map Prod.fst := by
  induction added generalizing entries with
  | nil => simp
  | cons first added inductionHypothesis =>
      rw [List.foldl_cons, inductionHypothesis, exists_mem_insertNew_iff,
        List.map_cons, List.mem_cons, or_assoc]

end

/-! ## The lines -/

def createType (environment : Environment) (source : String) : String :=
  if environment.isDirectory source then "dir" else "file"

/-- The path of a target in the root file system. -/
def targetPath (settings : Settings) (target : String) : String :=
  settings.rootfsPath ++
    if target.startsWith "/" then target else "/" ++ target

def mountEntry (settings : Settings) (environment : Environment)
    (mount : String × String) : String :=
  entryLine mount.1 (targetPath settings mount.2)
    (createType environment mount.1)

theorem addBindMount_eq (settings : Settings) (environment : Environment)
    (mount : String × String) :
    addBindMount settings environment mount.1 mount.2 =
      setConfigItem settings environment "lxc.mount.entry"
        (mountEntry settings environment mount) :=
  rfl

/-- The path of a device in the container, without a leading slash. -/
def deviceTarget (device : String) : String :=
  if device.startsWith "/" then (device.drop 1).toString else device

def deviceEntry (settings : Settings) (device : String) : String :=
  entryLine (settings.system.deviceNode device) (deviceTarget device) "file"

/-- All devices that a start gets besides the binder device. -/
def withAdditional (devices : List (String × DeviceSpecification)) :
    List (String × DeviceSpecification) :=
  additionalDevices.foldl
    (fun devices device => insertNew devices device.1 device.2) devices

/-- The devices of a start, with those that every container gets. -/
def allDevices (environment : Environment) (configuration : Configuration) :
    List (String × DeviceSpecification) :=
  withAdditional
    (if environment.binderfs then configuration.devices
      else insertNew configuration.devices "/dev/binder" ⟨0o666, ""⟩)

/-! ## What an accepted start writes -/

section

variable (settings : Settings) (environment : Environment)

/-- The program, unless it fails, sets the item among others. -/
def Writes (program : Program) (item : ConfigItem) : Prop :=
  ∃ items, Sets settings environment program items ∧ item ∈ items

/-- The program has no other effect than to set items. -/
def SetsItems (program : Program) : Prop :=
  ∃ items, Sets settings environment program items

variable {settings environment}
variable {program next : Program} {item : ConfigItem}

theorem Writes.setsItems (writes : Writes settings environment program item) :
    SetsItems settings environment program := by
  rcases writes with ⟨items, sets, -⟩
  exact ⟨items, sets⟩

theorem SetsItems.andThen (first : SetsItems settings environment program)
    (later : SetsItems settings environment next) :
    SetsItems settings environment (program >>= fun _ => next) := by
  rcases first with ⟨items, sets⟩
  rcases later with ⟨more, setsMore⟩
  exact ⟨items ++ more, sets.bind fun _ => setsMore⟩

theorem Writes.andThen (writes : Writes settings environment program item)
    (later : SetsItems settings environment next) :
    Writes settings environment (program >>= fun _ => next) item := by
  rcases writes with ⟨items, sets, member⟩
  rcases later with ⟨more, setsMore⟩
  exact ⟨items ++ more, sets.bind fun _ => setsMore,
    List.mem_append_left more member⟩

theorem Writes.after (writes : Writes settings environment next item)
    (earlier : SetsItems settings environment program) :
    Writes settings environment (program >>= fun _ => next) item := by
  rcases writes with ⟨items, sets, member⟩
  rcases earlier with ⟨before, setsBefore⟩
  exact ⟨before ++ items, setsBefore.bind fun _ => sets,
    List.mem_append_right before member⟩

theorem Writes.forM {Element : Type} {each : Element → Program}
    {itemOf : Element → ConfigItem} {elements : List Element}
    {element : Element}
    (writes : ∀ other,
      Writes settings environment (each other) (itemOf other))
    (member : element ∈ elements) :
    Writes settings environment (elements.forM each) (itemOf element) := by
  choose items sets inside using writes
  exact ⟨elements.flatMap items, Performs.forM sets,
    List.mem_flatMap.mpr ⟨element, member, inside element⟩⟩

theorem setConfigItem_writes (key value : String) :
    Writes settings environment
      (setConfigItem settings environment key value) (key, value) :=
  ⟨[(key, value)], setConfigItem_sets key value, List.mem_singleton_self _⟩

theorem take_setsItems (step : Step) (message : String → String) :
    SetsItems settings environment (take environment step message) :=
  ⟨[], take_sets step message⟩

/-- What is written with the mounts is written by the start. -/
theorem Writes.configure {configuration : Configuration}
    (writes : Writes settings environment
      (addBinderAndMounts settings environment configuration) item) :
    Writes settings environment
      (LxcContainer.configure settings environment configuration) item :=
  (((((writes.after mapIds_sets).after
    ⟨_, setConfigItems_sets _⟩).after setupNetwork_sets).after
    ⟨_, setConfigItems_sets _⟩).after ⟨_, setConfigItems_sets _⟩).after
    ⟨_, setConfigItems_sets _⟩

variable {configuration : Configuration} {container : Container}

theorem exists_configure_of_start
    (accepted :
      (start settings environment configuration container).1 = .ok ()) :
    ∃ old value config,
      LxcContainer.configure settings environment configuration old =
          .ok value config ∧
        (start settings environment configuration container).2.config =
          some config := by
  by_cases root : environment.uid ≠ 0
  · rw [start, if_pos root] at accepted
    cases accepted
  · rw [start, if_neg root] at accepted ⊢
    cases opened : openHandle environment container with
    | none =>
        rw [opened] at accepted
        cases accepted
    | some old =>
        rw [opened] at accepted
        dsimp only at accepted ⊢
        cases ended :
            LxcContainer.configure settings environment configuration old with
        | error error next =>
            rw [ended] at accepted
            cases accepted
        | ok value config =>
            refine ⟨old, value, config, ended, ?_⟩
            dsimp only
            split
            · rfl
            · split
              · rfl
              · rfl

theorem listValued_mountEntry :
    listValued settings.build "lxc.mount.entry" = true := by
  simp [listValued]

/-- The lists of the handle have what an accepted start has written. -/
theorem Writes.mem_config {key value : String}
    (isList : listValued settings.build key = true)
    (writes : Writes settings environment
      (LxcContainer.configure settings environment configuration)
      (key, value))
    (accepted :
      (start settings environment configuration container).1 = .ok ()) :
    ∃ config,
      (start settings environment configuration container).2.config =
          some config ∧ value ∈ config key := by
  rcases exists_configure_of_start accepted with
    ⟨old, result, config, ended, kept⟩
  rcases writes with ⟨items, sets, member⟩
  have reached := (sets.ok ended).2 old
  rw [ended] at reached
  cases reached
  refine ⟨_, kept, ?_⟩
  rw [foldl_setItem_of_listValued isList]
  apply List.mem_append_right
  exact List.mem_map.mpr ⟨(key, value), by simpa using member, rfl⟩

/-! ## The mounts and devices of a start -/

theorem addDevice_writes (device : String) (spec : DeviceSpecification) :
    Writes settings environment (addDevice settings environment device spec)
      ("lxc.mount.entry", deviceEntry settings device) := by
  have line : deviceEntry settings device =
      settings.system.deviceNode device ++ " " ++ deviceTarget device ++
        " none bind,create=file,optional 0 0" := by
    rw [deviceEntry, entryLine, String.append_assoc, String.append_assoc]
    rfl
  rw [line]
  exact ((((setConfigItem_writes _ _).after (take_setsItems _ _)).after
    (take_setsItems _ _)).after (take_setsItems _ _)).after
      (take_setsItems _ _)

theorem addBindMount_writes (mount : String × String) :
    Writes settings environment
      (addBindMount settings environment mount.1 mount.2)
      ("lxc.mount.entry", mountEntry settings environment mount) := by
  rw [addBindMount_eq]
  exact setConfigItem_writes _ _

theorem forM_addDevice_setsItems
    (devices : List (String × DeviceSpecification)) :
    SetsItems settings environment
      (devices.forM fun device =>
        addDevice settings environment device.1 device.2) :=
  ⟨_, Performs.forM fun device =>
    (addDevice_writes device.1 device.2).setsItems.choose_spec⟩

theorem forM_addBindMount_setsItems (mounts : List (String × String)) :
    SetsItems settings environment
      (mounts.forM fun mount =>
        addBindMount settings environment mount.1 mount.2) :=
  ⟨_, Performs.forM fun _ => setConfigItem_sets _ _⟩

theorem addMounts_writes_mount {bindMounts : List (String × String)}
    {mount : String × String} (member : mount ∈ bindMounts)
    (devices : List (String × DeviceSpecification))
    (extraProperties : List String) :
    Writes settings environment
      (addMounts settings environment bindMounts devices extraProperties)
      ("lxc.mount.entry", mountEntry settings environment mount) := by
  have ordered : mount ∈ environment.mountOrder bindMounts :=
    (environment.mountOrder_perm bindMounts).mem_iff.mpr member
  have mountsWrite :=
    Writes.forM (@addBindMount_writes settings environment) ordered
  exact mountsWrite.andThen ((take_setsItems _ _).andThen
    ((forM_addDevice_setsItems _).andThen (addExtraProperties_sets _)))

theorem addMounts_writes_device {bindMounts : List (String × String)}
    {devices : List (String × DeviceSpecification)}
    {device : String × DeviceSpecification}
    (member : device ∈ withAdditional devices)
    (extraProperties : List String) :
    Writes settings environment
      (addMounts settings environment bindMounts devices extraProperties)
      ("lxc.mount.entry", deviceEntry settings device.1) := by
  have ordered :
      device ∈ environment.deviceOrder (withAdditional devices) :=
    (environment.deviceOrder_perm _).mem_iff.mpr member
  have devicesWrite := Writes.forM
    (fun other : String × DeviceSpecification =>
      @addDevice_writes settings environment other.1 other.2) ordered
  exact ((devicesWrite.andThen (addExtraProperties_sets _)).after
    (take_setsItems _ _)).after (forM_addBindMount_setsItems _)

/-- Every mount of the configuration gets its line. -/
theorem configure_writes_mount {mount : String × String}
    (member : mount ∈ configuration.bindMounts) :
    Writes settings environment
      (LxcContainer.configure settings environment configuration)
      ("lxc.mount.entry", mountEntry settings environment mount) := by
  apply Writes.configure
  unfold addBinderAndMounts
  split
  · split
    · exact ⟨_, performs_of_error (fun _ => rfl) _,
        List.mem_singleton_self _⟩
    · exact addMounts_writes_mount (mem_insertNew_of_mem member _ _) _ _
  · exact addMounts_writes_mount member _ _

/-- Every device gets its line. -/
theorem configure_writes_device {device : String × DeviceSpecification}
    (member : device ∈ allDevices environment configuration) :
    Writes settings environment
      (LxcContainer.configure settings environment configuration)
      ("lxc.mount.entry", deviceEntry settings device.1) := by
  apply Writes.configure
  unfold addBinderAndMounts
  unfold allDevices at member
  split
  · rename_i binderfs
    rw [if_pos binderfs] at member
    split
    · exact ⟨_, performs_of_error (fun _ => rfl) _,
        List.mem_singleton_self _⟩
    · exact addMounts_writes_device member _
  · rename_i noBinderfs
    rw [if_neg noBinderfs] at member
    exact addMounts_writes_device member _

end

end Anbox.Lxc.StartEntries
