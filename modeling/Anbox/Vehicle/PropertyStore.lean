import Mathlib.Logic.Function.Basic
import Anbox.Vehicle.PropertyValue

/-!
# The store of property values

The store keeps one record for each property and area.  All areas of a global
property share one record.  The properties of the HAL are registered without a
token function, so the token of every record is zero and is left out.
-/

namespace Anbox.Vehicle.PropertyStore

open Anbox.Vehicle.PropertyValue

structure RecordId where
  prop : Int
  area : Int
deriving DecidableEq, Repr

/-- The record of a property and an area. -/
def recordId (numbers : PropertyNumbers) (prop area : Int) : RecordId :=
  ⟨prop, if numbers.isGlobalProp prop then 0 else area⟩

def getRecordId {Single : Type} (numbers : PropertyNumbers)
    (propValue : VehiclePropValue Single) : RecordId :=
  recordId numbers propValue.prop propValue.areaId

/-- A record is kept under its own property, which is registered. -/
structure VehiclePropertyStore (numbers : PropertyNumbers)
    (Single : Type) where
  /-- The properties with a configuration. -/
  configs : List Int
  propertyValues : RecordId → Option (VehiclePropValue Single)
  keyed :
    ∀ id record, propertyValues id = some record →
      getRecordId numbers record = id
  registered :
    ∀ id record, propertyValues id = some record → record.prop ∈ configs

namespace VehiclePropertyStore

variable {numbers : PropertyNumbers} {Single : Type}
  (store : VehiclePropertyStore numbers Single)

theorem ext_records {store other : VehiclePropertyStore numbers Single}
    (sameConfigs : store.configs = other.configs)
    (sameValues : ∀ id, store.propertyValues id = other.propertyValues id) :
    store = other := by
  cases store
  cases other
  simp only at sameConfigs
  subst sameConfigs
  obtain rfl := funext sameValues
  rfl

/-- A store without records in which these properties are registered. -/
def empty (configs : List Int) : VehiclePropertyStore numbers Single where
  configs := configs
  propertyValues := fun _ => none
  keyed := by
    rintro id record ⟨⟩
  registered := by
    rintro id record ⟨⟩

/-- Keep a record under its own property, which is registered. -/
def setRecord (id : RecordId) (record : VehiclePropValue Single)
    (own : getRecordId numbers record = id)
    (member : record.prop ∈ store.configs) :
    VehiclePropertyStore numbers Single where
  configs := store.configs
  propertyValues := Function.update store.propertyValues id (some record)
  keyed := by
    intro other kept found
    by_cases same : other = id
    · subst same
      rw [Function.update_self, Option.some.injEq] at found
      rw [← found]
      exact own
    · rw [Function.update_of_ne same] at found
      exact store.keyed other kept found
  registered := by
    intro other kept found
    by_cases same : other = id
    · subst same
      rw [Function.update_self, Option.some.injEq] at found
      rwa [← found]
    · rw [Function.update_of_ne same] at found
      exact store.registered other kept found

def readValueOrNull (prop area : Int) : Option (VehiclePropValue Single) :=
  store.propertyValues (recordId numbers prop area)

/-- What a write leaves under the record of a value. -/
def written (propValue : VehiclePropValue Single) (updateStatus : Bool) :
    VehiclePropValue Single :=
  match store.propertyValues (getRecordId numbers propValue) with
  | none => propValue
  | some record =>
      { record with
        timestamp := propValue.timestamp
        value := propValue.value
        status := if updateStatus then propValue.status else record.status }

theorem getRecordId_written (propValue : VehiclePropValue Single)
    (updateStatus : Bool) :
    getRecordId numbers (store.written propValue updateStatus) =
      getRecordId numbers propValue := by
  unfold written
  split
  · rfl
  · next record found => exact store.keyed _ record found

theorem written_prop (propValue : VehiclePropValue Single)
    (updateStatus : Bool) :
    (store.written propValue updateStatus).prop = propValue.prop :=
  congrArg RecordId.prop (store.getRecordId_written propValue updateStatus)

theorem written_value (propValue : VehiclePropValue Single)
    (updateStatus : Bool) :
    (store.written propValue updateStatus).value = propValue.value := by
  unfold written
  split
  · rfl
  · rfl

/-- The flag says whether the property is registered. -/
def writeValue (propValue : VehiclePropValue Single) (updateStatus : Bool) :
    Bool × VehiclePropertyStore numbers Single :=
  if member : propValue.prop ∈ store.configs then
    (true,
      store.setRecord (getRecordId numbers propValue)
        (store.written propValue updateStatus)
        (store.getRecordId_written propValue updateStatus)
        ((store.written_prop propValue updateStatus).symm ▸ member))
  else (false, store)

theorem writeValue_of_registered {propValue : VehiclePropValue Single}
    (member : propValue.prop ∈ store.configs) (updateStatus : Bool) :
    (store.writeValue propValue updateStatus).1 = true ∧
      (store.writeValue propValue updateStatus).2.configs = store.configs ∧
      (store.writeValue propValue updateStatus).2.propertyValues =
        Function.update store.propertyValues (getRecordId numbers propValue)
          (some (store.written propValue updateStatus)) := by
  unfold writeValue
  rw [dif_pos member]
  exact ⟨rfl, rfl, rfl⟩

theorem writeValue_of_unregistered {propValue : VehiclePropValue Single}
    (absent : propValue.prop ∉ store.configs) (updateStatus : Bool) :
    store.writeValue propValue updateStatus = (false, store) := by
  unfold writeValue
  rw [dif_neg absent]

/-- Writing a record back with another value changes just this. -/
theorem writeValue_of_read {id : RecordId}
    {record : VehiclePropValue Single}
    (found : store.propertyValues id = some record)
    (value : RawValue Single) (updateStatus : Bool) :
    (store.writeValue { record with value := value } updateStatus).2.configs =
        store.configs ∧
      (store.writeValue { record with value := value }
          updateStatus).2.propertyValues =
        Function.update store.propertyValues id
          (some { record with value := value }) := by
  have own : getRecordId numbers { record with value := value } = id :=
    store.keyed id record found
  have same :
      store.written { record with value := value } updateStatus =
        { record with value := value } := by
    simp only [written, own, found]
    cases updateStatus with
    | true => rfl
    | false => rfl
  rcases @writeValue_of_registered _ _ store { record with value := value }
      (store.registered id record found) updateStatus with
    ⟨-, configs, values⟩
  rw [own, same] at values
  exact ⟨configs, values⟩

end VehiclePropertyStore

end Anbox.Vehicle.PropertyStore
