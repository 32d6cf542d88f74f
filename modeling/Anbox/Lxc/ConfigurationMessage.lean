import Anbox.Lxc.ManagementApi

/-!
# The configuration in a request to start the container

`ManagementApiStub::start_container` flattens the maps of a configuration to
repeated fields, in the order in which a traversal meets the entries.
`ManagementApiSkeleton::start_container` inserts the entries into new maps.
The message has a path and a permission for each device and no place for the
name `old_device_name` under which the host knows it.
-/

namespace Anbox.Lxc.ConfigurationMessage

open Anbox.Lxc.LxcContainer
open Anbox.Lxc.ManagementApi

/-! ## Maps -/

section Maps

variable {Value Other : Type}

/-- The entries of an `unordered_map` in the order of a traversal. -/
def DistinctKeys (entries : List (String × Value)) : Prop :=
  (entries.map Prod.fst).Nodup

/-- `operator==` of maps: equal values under equal keys. -/
def SameMap (left right : List (String × Value)) : Prop :=
  ∀ key, left.lookup key = right.lookup key

/-- Insertion of new keys, one after the other, keeps all entries. -/
theorem foldl_insertNew_eq_append (change : Other → Value)
    (entries : List (String × Other)) (present : List (String × Value))
    (distinct : DistinctKeys entries)
    (new : ∀ entry ∈ entries, entry.1 ∉ present.map Prod.fst) :
    entries.foldl
        (fun map entry => insertNew map entry.1 (change entry.2)) present =
      present ++ entries.map fun entry => (entry.1, change entry.2) := by
  induction entries generalizing present with
  | nil => simp
  | cons entry rest inductionHypothesis =>
      rcases List.nodup_cons.mp distinct with ⟨fresh, restDistinct⟩
      have inserted :
          insertNew present entry.1 (change entry.2) =
            present ++ [(entry.1, change entry.2)] := by
        have absent := new entry List.mem_cons_self
        unfold insertNew
        rw [if_neg]
        simpa using absent
      have restNew :
          ∀ other ∈ rest,
            other.1 ∉
              (present ++ [(entry.1, change entry.2)]).map Prod.fst := by
        intro other member
        rw [List.map_append, List.mem_append, not_or]
        refine ⟨new other (List.mem_cons_of_mem entry member), ?_⟩
        intro same
        have key : other.1 = entry.1 := by simpa using same
        exact fresh (key ▸ List.mem_map_of_mem member)
      rw [List.foldl_cons, inserted,
        inductionHypothesis _ restDistinct restNew]
      simp

theorem lookup_map (change : Other → Value)
    (entries : List (String × Other)) (key : String) :
    (entries.map fun entry => (entry.1, change entry.2)).lookup key =
      (entries.lookup key).map change := by
  induction entries with
  | nil => rfl
  | cons entry rest inductionHypothesis =>
      rcases entry with ⟨name, value⟩
      by_cases same : key = name
      · simp [same]
      · have differs : (key == name) = false := by simpa using same
        simp [List.lookup_cons, differs, inductionHypothesis]

theorem lookup_eq_of_mem {entries : List (String × Value)}
    (distinct : DistinctKeys entries) {entry : String × Value}
    (member : entry ∈ entries) :
    entries.lookup entry.1 = some entry.2 := by
  induction entries with
  | nil => cases member
  | cons first rest inductionHypothesis =>
      rcases first with ⟨name, value⟩
      rcases List.nodup_cons.mp distinct with ⟨fresh, restDistinct⟩
      rcases List.mem_cons.mp member with rfl | later
      · exact List.lookup_cons_self
      · have differs : (entry.1 == name) = false := by
          rw [beq_eq_false_iff_ne]
          intro same
          apply fresh
          exact List.mem_map.mpr ⟨entry, later, same⟩
        rw [List.lookup_cons, differs]
        exact inductionHypothesis restDistinct later

/-- Changed values make the same map only if no value was changed. -/
theorem sameMap_map_iff {change : Value → Value}
    {entries : List (String × Value)} (distinct : DistinctKeys entries) :
    SameMap (entries.map fun entry => (entry.1, change entry.2)) entries ↔
      ∀ entry ∈ entries, change entry.2 = entry.2 := by
  constructor
  · intro same entry member
    have equal := same entry.1
    rw [lookup_map, lookup_eq_of_mem distinct member] at equal
    exact Option.some.inj equal
  · intro unchanged key
    have whole :
        (entries.map fun entry => (entry.1, change entry.2)) =
          entries.map id := by
      apply List.map_congr_left
      intro entry member
      rw [unchanged entry member]
      rfl
    rw [whole, List.map_id]

end Maps

/-! ## The message -/

/-- A configuration whose maps have one entry for each key. -/
structure MapConfiguration extends Configuration where
  distinctMounts : DistinctKeys bindMounts
  distinctDevices : DistinctKeys devices

/-- The message of `ManagementApiStub::start_container`. -/
def startContainerMessage (configuration : MapConfiguration) :
    StartContainer :=
  { bindMounts := configuration.bindMounts
    devices := configuration.devices.map fun device =>
      (device.1, device.2.permission)
    extraProperties := configuration.extraProperties }

/-- Equality of all members of two configurations. -/
def SameConfiguration (left right : Configuration) : Prop :=
  SameMap left.bindMounts right.bindMounts ∧
    SameMap left.devices right.devices ∧
    left.extraProperties = right.extraProperties

/-- A device as it is after the way through a message. -/
def carried (device : DeviceSpecification) : DeviceSpecification :=
  ⟨device.permission, ""⟩

/-- The configuration that the skeleton hands to `Container::start`. -/
theorem configuration_startContainerMessage
    (configuration : MapConfiguration) :
    (startContainerMessage configuration).configuration =
      { configuration.toConfiguration with
        devices := configuration.devices.map fun device =>
          (device.1, carried device.2) } := by
  have mounts :
      configuration.bindMounts.foldl
          (fun map mount => insertNew map mount.1 mount.2) [] =
        configuration.bindMounts := by
    have kept :=
      foldl_insertNew_eq_append id configuration.bindMounts []
        configuration.distinctMounts (by simp)
    simpa using kept
  have devices :
      configuration.devices.foldl
          (fun map device =>
            insertNew map device.1 (carried device.2)) [] =
        configuration.devices.map fun device =>
          (device.1, carried device.2) := by
    have kept :=
      foldl_insertNew_eq_append carried configuration.devices []
        configuration.distinctDevices (by simp)
    simpa using kept
  unfold StartContainer.configuration startContainerMessage
  rw [mounts, List.foldl_map]
  exact congrArg
    (fun devices => { configuration.toConfiguration with devices }) devices

/--
A configuration reaches the container as it was given exactly if no device is
known to the host under another name.
-/
theorem configuration_kept_iff_no_oldDeviceName
    (configuration : MapConfiguration) :
    SameConfiguration (startContainerMessage configuration).configuration
        configuration.toConfiguration ↔
      ∀ device ∈ configuration.devices, device.2.oldDeviceName = "" := by
  rw [configuration_startContainerMessage]
  unfold SameConfiguration
  rw [sameMap_map_iff configuration.distinctDevices]
  constructor
  · rintro ⟨_, unchanged, _⟩ device member
    exact (congrArg DeviceSpecification.oldDeviceName
      (unchanged device member)).symm
  · intro unnamed
    refine ⟨fun _ => rfl, ?_, rfl⟩
    intro device member
    rw [carried, ← unnamed device member]

/-- The device for which the name was introduced loses it. -/
theorem oldDeviceName_lost :
    ∃ configuration : MapConfiguration,
      configuration.devices = [("/dev/tun", ⟨0o660, "/dev/net/tun"⟩)] ∧
      (startContainerMessage configuration).configuration.devices =
        [("/dev/tun", ⟨0o660, ""⟩)] ∧
      ¬ SameConfiguration
        (startContainerMessage configuration).configuration
        configuration.toConfiguration := by
  refine
    ⟨{ bindMounts := []
       devices := [("/dev/tun", ⟨0o660, "/dev/net/tun"⟩)]
       extraProperties := []
       distinctMounts := by simp [DistinctKeys]
       distinctDevices := by simp [DistinctKeys] },
      rfl, rfl, ?_⟩
  rintro ⟨_, devices, _⟩
  have lost := devices "/dev/tun"
  simp [startContainerMessage, StartContainer.configuration, insertNew]
    at lost

end Anbox.Lxc.ConfigurationMessage
