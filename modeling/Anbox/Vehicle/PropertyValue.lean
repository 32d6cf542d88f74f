import Mathlib.Data.List.Forall2
import Anbox.Foundation.Fallible
import Anbox.Json.Value

/-!
# Values of vehicle properties

A property value has one field for each kind of contents, and the number of the
property says which of them is in use.  `jsonToVehicle` puts a JSON value into
the field that is in use.

The numbers of the property types and areas come from the interface definition
of the vehicle HAL, and conversions to `float` from the processor.  Both are
parameters.
-/

namespace Anbox.Vehicle.PropertyValue

open Anbox.Foundation.Fallible
open Anbox.Json (Fault Value)

inductive VehiclePropertyType where
  | string
  | boolean
  | int32
  | int32Vec
  | int64
  | int64Vec
  | float
  | floatVec
  | bytes
  | mixed
  /-- Bits that are none of the types. -/
  | invalid
deriving DecidableEq, Repr

/-- What the bits of a property number mean. -/
structure PropertyNumbers where
  getPropType : Int → VehiclePropertyType
  isGlobalProp : Int → Bool

/-- The numbers of the interface definition. -/
def interfaceNumbers : PropertyNumbers where
  getPropType prop :=
    match (prop % 2 ^ 32).toNat &&& 0x00ff0000 with
    | 0x00100000 => .string
    | 0x00200000 => .boolean
    | 0x00400000 => .int32
    | 0x00410000 => .int32Vec
    | 0x00500000 => .int64
    | 0x00510000 => .int64Vec
    | 0x00600000 => .float
    | 0x00610000 => .floatVec
    | 0x00700000 => .bytes
    | 0x00e00000 => .mixed
    | _ => .invalid
  isGlobalProp prop := (prop % 2 ^ 32).toNat &&& 0x0f000000 = 0x01000000

structure RawValue (Single : Type) where
  int32Values : List Int
  floatValues : List Single
  int64Values : List Int
  bytes : List UInt8
  stringValue : List UInt8
deriving DecidableEq, Repr

structure VehiclePropValue (Single : Type) where
  timestamp : Int
  areaId : Int
  prop : Int
  status : Int
  value : RawValue Single
deriving DecidableEq, Repr

variable {Single : Type}

/-! ## Values of the pool -/

def RawValue.empty : RawValue Single := ⟨[], [], [], [], []⟩

/-- The value of `obtainInt32`; the other fields of pool values are empty. -/
def obtainInt32 (value : Int) : RawValue Single :=
  { (RawValue.empty : RawValue Single) with int32Values := [value] }

def obtainInt64 (value : Int) : RawValue Single :=
  { (RawValue.empty : RawValue Single) with int64Values := [value] }

def obtainFloat (value : Single) : RawValue Single :=
  { (RawValue.empty : RawValue Single) with floatValues := [value] }

def obtainBoolean (value : Bool) : RawValue Single :=
  obtainInt32 (if value then 1 else 0)

/-! ## From JSON -/

/--
The loop over the elements of a JSON array: what is beyond the size of the
vector is not looked at, and the rest of a longer vector stays.
-/
def writeElements {Element : Type}
    (convert : Value → Except Fault Element) :
    List Element → List Value → Except Fault (List Element)
  | vector, [] => .ok vector
  | [], _ :: _ => .ok []
  | _ :: vector, value :: values => do
      let element ← convert value
      let vector ← writeElements convert vector values
      return element :: vector

/-- Convert an array whose first element `accepts`; the flag is the result. -/
def writeVector {Element : Type} (accepts : Value → Bool)
    (convert : Value → Except Fault Element) (vector : List Element) :
    Value → Except Fault (Bool × List Element)
  | .array values =>
      if accepts (values.getD 0 .null) then do
        let vector ← writeElements convert vector values
        return (true, vector)
      else .ok (false, vector)
  | _ => .ok (false, vector)

variable (numbers : PropertyNumbers) (toFloat : Value → Single)

/-- The flag is the result of the function. -/
def jsonToVehicle (jval : Value) (val : VehiclePropValue Single) :
    Except Fault (Bool × VehiclePropValue Single) :=
  match numbers.getPropType val.prop with
  | .string =>
      match jval with
      | .string text =>
          .ok (true, { val with value.stringValue := text })
      | _ => .ok (false, val)
  | .float => do
      if jval.isConvertibleToReal then
        let number ← jval.asFloat toFloat
        return (true, { val with value := obtainFloat number })
      else return (false, val)
  | .int32 => do
      if jval.isInt then
        let number ← jval.asInt
        return (true, { val with value := obtainInt32 number })
      else return (false, val)
  | .int64 => do
      if jval.isInt64 then
        let number ← jval.asInt64
        return (true, { val with value := obtainInt64 number })
      else return (false, val)
  | .boolean => do
      if jval.isBool then
        return (true, { val with value := obtainBoolean jval.asBool })
      else if jval.isInt then
        let number ← jval.asInt
        return (true, { val with value := obtainBoolean (number ≠ 0) })
      else if jval.isInt64 then
        let number ← jval.asInt64
        return (true, { val with value := obtainBoolean (number ≠ 0) })
      else return (false, val)
  | .int32Vec => do
      let (done, vector) ←
        writeVector Value.isInt Value.asInt val.value.int32Values jval
      return (done, { val with value.int32Values := vector })
  | .int64Vec => do
      let (done, vector) ←
        writeVector Value.isInt64 Value.asInt64 val.value.int64Values jval
      return (done, { val with value.int64Values := vector })
  | .floatVec => do
      let (done, vector) ←
        writeVector Value.isConvertibleToReal (Value.asFloat toFloat)
          val.value.floatValues jval
      return (done, { val with value.floatValues := vector })
  | .bytes | .mixed | .invalid => .ok (false, val)

/-! ## Vectors -/

section

variable {Element : Type} {convert : Value → Except Fault Element}

theorem writeElements_length {vector next : List Element}
    {values : List Value}
    (written : writeElements convert vector values = .ok next) :
    next.length = vector.length := by
  induction vector generalizing values next with
  | nil =>
      cases values with
      | nil | cons =>
          cases written
          rfl
  | cons first vector inductionHypothesis =>
      cases values with
      | nil =>
          cases written
          rfl
      | cons value values =>
          rcases ok_of_bind written with ⟨element, -, continued⟩
          rcases ok_of_bind continued with ⟨rest, writtenRest, returned⟩
          cases returned
          simp [inductionHypothesis writtenRest]

/-- An array of the same size is converted element by element. -/
theorem writeElements_of_length {vector next : List Element}
    {values : List Value} (sameSize : values.length = vector.length) :
    writeElements convert vector values = .ok next ↔
      List.Forall₂ (fun value element => convert value = .ok element)
        values next := by
  induction values generalizing vector next with
  | nil =>
      rw [List.length_eq_zero_iff.mp sameSize.symm, List.forall₂_nil_left_iff]
      simp [writeElements, eq_comm]
  | cons value values inductionHypothesis =>
      cases vector with
      | nil => cases sameSize
      | cons first vector =>
          have sameRest : values.length = vector.length :=
            Nat.succ.inj sameSize
          constructor
          · intro written
            rcases ok_of_bind written with ⟨element, converted, continued⟩
            rcases ok_of_bind continued with ⟨rest, writtenRest, returned⟩
            cases returned
            exact .cons converted
              ((inductionHypothesis sameRest).mp writtenRest)
          · intro converted
            cases converted with
            | cons head tail =>
                have written := (inductionHypothesis sameRest).mpr tail
                simp [writeElements, head, written, bind, Except.bind, pure,
                  Except.pure]

end

/-! ## What a conversion keeps -/

section

variable {Element : Type} {accepts : Value → Bool}
  {convert : Value → Except Fault Element}

theorem writeVector_keeps {vector next : List Element} {jval : Value}
    {done : Bool}
    (written : writeVector accepts convert vector jval = .ok (done, next)) :
    next.length = vector.length ∧ (done = false → next = vector) := by
  unfold writeVector at written
  split at written
  · split at written
    · rcases ok_of_bind written with ⟨elements, writtenAll, ⟨⟩⟩
      exact ⟨writeElements_length writtenAll, fun impossible => by
        cases impossible⟩
    · cases written
      exact ⟨rfl, fun _ => rfl⟩
  · cases written
    exact ⟨rfl, fun _ => rfl⟩

/-- Elements that have been written once can be written again. -/
theorem writeElements_again {vector next : List Element}
    {values : List Value}
    (written : writeElements convert vector values = .ok next) :
    writeElements convert next values = .ok next := by
  induction vector generalizing values next with
  | nil =>
      cases values with
      | nil | cons =>
          cases written
          rfl
  | cons first vector inductionHypothesis =>
      cases values with
      | nil =>
          cases written
          rfl
      | cons value values =>
          rcases ok_of_bind written with ⟨element, converted, continued⟩
          rcases ok_of_bind continued with ⟨rest, writtenRest, ⟨⟩⟩
          simp only [writeElements, converted,
            inductionHypothesis writtenRest]
          rfl

theorem writeVector_again {vector next : List Element} {jval : Value}
    {done : Bool}
    (written : writeVector accepts convert vector jval = .ok (done, next)) :
    writeVector accepts convert next jval = .ok (done, next) := by
  cases jval with
  | array values =>
      by_cases accepted : accepts (values.getD 0 .null) = true
      · simp only [writeVector, accepted, if_true] at written ⊢
        rcases ok_of_bind written with ⟨elements, writtenAll, ⟨⟩⟩
        rw [writeElements_again writtenAll]
        rfl
      · simp only [writeVector, accepted, if_neg, Bool.false_eq_true,
          not_false_eq_true] at written ⊢
        cases written
        rfl
  | _ =>
      cases written
      rfl

/-- Whether elements can be written depends on the size of the vector only. -/
theorem writeElements_returns_iff {vector : List Element}
    {values : List Value} :
    (∃ next, writeElements convert vector values = .ok next) ↔
      ∀ value ∈ values.take vector.length,
        ∃ element, convert value = .ok element := by
  induction vector generalizing values with
  | nil =>
      refine iff_of_true ⟨[], ?_⟩ (by simp)
      cases values with
      | nil => rfl
      | cons value values => rfl
  | cons first vector inductionHypothesis =>
      cases values with
      | nil => exact iff_of_true ⟨first :: vector, rfl⟩ (by simp)
      | cons value values =>
          constructor
          · rintro ⟨next, written⟩ other member
            rcases ok_of_bind written with ⟨element, converted, continued⟩
            rcases ok_of_bind continued with ⟨rest, writtenRest, -⟩
            rcases List.mem_cons.mp member with rfl | later
            · exact ⟨element, converted⟩
            · exact inductionHypothesis.mp ⟨rest, writtenRest⟩ other later
          · intro convertible
            rcases convertible value List.mem_cons_self with
              ⟨element, converted⟩
            rcases inductionHypothesis.mpr fun other member =>
                convertible other (List.mem_cons_of_mem value member) with
              ⟨rest, writtenRest⟩
            refine ⟨element :: rest, ?_⟩
            simp only [writeElements, converted, writtenRest]
            rfl

theorem writeVector_returns_of_length {vector other : List Element}
    {jval : Value} (sameSize : other.length = vector.length)
    (returns :
      ∃ outcome, writeVector accepts convert vector jval = .ok outcome) :
    ∃ outcome, writeVector accepts convert other jval = .ok outcome := by
  cases jval with
  | array values =>
      by_cases accepted : accepts (values.getD 0 .null) = true
      · simp only [writeVector, accepted, if_true] at returns ⊢
        rcases returns with ⟨outcome, returned⟩
        rcases ok_of_bind returned with ⟨next, written, -⟩
        have convertible := writeElements_returns_iff.mp ⟨next, written⟩
        rw [← sameSize] at convertible
        rcases writeElements_returns_iff.mpr convertible with
          ⟨otherNext, otherWritten⟩
        refine ⟨(true, otherNext), ?_⟩
        rw [otherWritten]
        rfl
      · exact ⟨(false, other), by simp only [writeVector, accepted, if_neg,
          Bool.false_eq_true, not_false_eq_true]⟩
  | _ => exact ⟨_, rfl⟩

end

/-- The size of the vector of a property with a vector. -/
def vectorSize (val : VehiclePropValue Single) : Nat :=
  match numbers.getPropType val.prop with
  | .int32Vec => val.value.int32Values.length
  | .int64Vec => val.value.int64Values.length
  | .floatVec => val.value.floatValues.length
  | _ => 0

/-- A conversion leaves all but the value alone, and the size of a vector. -/
structure KeepsShape (val next : VehiclePropValue Single) : Prop where
  others : next = { val with value := next.value }
  size : vectorSize numbers next = vectorSize numbers val

theorem KeepsShape.refl (val : VehiclePropValue Single) :
    KeepsShape numbers val val :=
  ⟨rfl, rfl⟩

theorem jsonToVehicle_keeps {jval : Value}
    {val next : VehiclePropValue Single} {done : Bool}
    (returned :
      jsonToVehicle numbers toFloat jval val = .ok (done, next)) :
    KeepsShape numbers val next ∧ (done = false → next = val) := by
  have unchanged : KeepsShape numbers val val ∧ (false = false → val = val) :=
    ⟨.refl numbers val, fun _ => rfl⟩
  cases type : numbers.getPropType val.prop with
  | string =>
      simp only [jsonToVehicle, type] at returned
      split at returned
      · cases returned
        exact ⟨⟨rfl, by simp [vectorSize, type]⟩, fun no => by cases no⟩
      · cases returned
        exact unchanged
  | float | int32 | int64 =>
      simp only [jsonToVehicle, type] at returned
      split at returned
      · rcases ok_of_bind returned with ⟨number, -, ⟨⟩⟩
        exact ⟨⟨rfl, by simp [vectorSize, type]⟩, fun no => by cases no⟩
      · cases returned
        exact unchanged
  | boolean =>
      simp only [jsonToVehicle, type] at returned
      split at returned
      · cases returned
        exact ⟨⟨rfl, by simp [vectorSize, type]⟩, fun no => by cases no⟩
      · split at returned
        · rcases ok_of_bind returned with ⟨number, -, ⟨⟩⟩
          exact ⟨⟨rfl, by simp [vectorSize, type]⟩, fun no => by cases no⟩
        · split at returned
          · rcases ok_of_bind returned with ⟨number, -, ⟨⟩⟩
            exact ⟨⟨rfl, by simp [vectorSize, type]⟩, fun no => by cases no⟩
          · cases returned
            exact unchanged
  | int32Vec | int64Vec | floatVec =>
      simp only [jsonToVehicle, type] at returned
      rcases ok_of_bind returned with ⟨⟨flag, vector⟩, written, ⟨⟩⟩
      have keeps := writeVector_keeps written
      refine ⟨⟨rfl, ?_⟩, fun refused => ?_⟩
      · simpa [vectorSize, type] using keeps.1
      · rw [keeps.2 refused]
  | bytes | mixed | invalid =>
      simp only [jsonToVehicle, type] at returned
      cases returned
      exact unchanged

/-- A conversion that is made twice has the result of the first time. -/
theorem jsonToVehicle_again {jval : Value}
    {val next : VehiclePropValue Single} {done : Bool}
    (returned :
      jsonToVehicle numbers toFloat jval val = .ok (done, next)) :
    jsonToVehicle numbers toFloat jval next = .ok (done, next) := by
  have sameProp : next.prop = val.prop := by
    rw [(jsonToVehicle_keeps numbers toFloat returned).1.others]
  cases type : numbers.getPropType val.prop with
  | string =>
      simp only [jsonToVehicle, sameProp, type] at returned ⊢
      split at returned
      · cases returned
        rfl
      · cases returned
        rfl
  | float | int32 | int64 =>
      simp only [jsonToVehicle, sameProp, type] at returned ⊢
      split at returned
      · next fits =>
        rcases ok_of_bind returned with ⟨number, read, ⟨⟩⟩
        rw [if_pos fits, read]
        rfl
      · next unfit =>
        cases returned
        rw [if_neg unfit]
        rfl
  | boolean =>
      simp only [jsonToVehicle, sameProp, type] at returned ⊢
      split at returned
      · next fits =>
        cases returned
        rw [if_pos fits]
        rfl
      · next notBool =>
        rw [if_neg notBool]
        split at returned
        · next fits =>
          rcases ok_of_bind returned with ⟨number, read, ⟨⟩⟩
          rw [if_pos fits, read]
          rfl
        · next notInt =>
          rw [if_neg notInt]
          split at returned
          · next fits =>
            rcases ok_of_bind returned with ⟨number, read, ⟨⟩⟩
            rw [if_pos fits, read]
            rfl
          · next unfit =>
            cases returned
            rw [if_neg unfit]
            rfl
  | int32Vec | int64Vec | floatVec =>
      simp only [jsonToVehicle, sameProp, type] at returned ⊢
      rcases ok_of_bind returned with ⟨⟨flag, vector⟩, written, ⟨⟩⟩
      simp only [writeVector_again written]
      rfl
  | bytes | mixed | invalid =>
      simp only [jsonToVehicle, sameProp, type] at returned ⊢
      cases returned
      rfl

/-- Whether a value can be read depends on the shape of the property only. -/
theorem jsonToVehicle_returns_of_shape {jval : Value}
    {val other : VehiclePropValue Single} (sameProp : other.prop = val.prop)
    (sameSize : vectorSize numbers other = vectorSize numbers val)
    (returns :
      ∃ outcome, jsonToVehicle numbers toFloat jval val = .ok outcome) :
    ∃ outcome, jsonToVehicle numbers toFloat jval other = .ok outcome := by
  cases type : numbers.getPropType val.prop with
  | string =>
      simp only [jsonToVehicle, sameProp, type]
      split
      · exact ⟨_, rfl⟩
      · exact ⟨_, rfl⟩
  | float | int32 | int64 =>
      simp only [jsonToVehicle, sameProp, type] at returns ⊢
      split
      · next fits =>
        rw [if_pos fits] at returns
        rcases returns with ⟨outcome, returned⟩
        rcases ok_of_bind returned with ⟨number, read, -⟩
        rw [read]
        exact ⟨_, rfl⟩
      · exact ⟨_, rfl⟩
  | boolean =>
      simp only [jsonToVehicle, sameProp, type] at returns ⊢
      split
      · exact ⟨_, rfl⟩
      · next notBool =>
        rw [if_neg notBool] at returns
        split
        · next fits =>
          rw [if_pos fits] at returns
          rcases returns with ⟨outcome, returned⟩
          rcases ok_of_bind returned with ⟨number, read, -⟩
          rw [read]
          exact ⟨_, rfl⟩
        · next notInt =>
          rw [if_neg notInt] at returns
          split
          · next fits =>
            rw [if_pos fits] at returns
            rcases returns with ⟨outcome, returned⟩
            rcases ok_of_bind returned with ⟨number, read, -⟩
            rw [read]
            exact ⟨_, rfl⟩
          · exact ⟨_, rfl⟩
  | int32Vec | int64Vec | floatVec =>
      simp only [vectorSize, sameProp, type] at sameSize
      simp only [jsonToVehicle, sameProp, type] at returns ⊢
      rcases returns with ⟨outcome, returned⟩
      rcases ok_of_bind returned with ⟨wrote, written, -⟩
      rcases writeVector_returns_of_length sameSize ⟨wrote, written⟩ with
        ⟨otherWrote, otherWritten⟩
      rw [otherWritten]
      exact ⟨_, rfl⟩
  | bytes | mixed | invalid =>
      simp only [jsonToVehicle, sameProp, type]
      exact ⟨_, rfl⟩

/-- The elements of an array are these integers. -/
def Elements (jval : Value) (integers : List Int) : Prop :=
  ∃ values, jval = .array values ∧
    values.map Value.integer = integers.map some

/--
The array is refused at its first element, or it has the size of the vector
and consists of integers between the bounds.
-/
def Fits (low high : Int) (size : Nat) (jval : Value) : Prop :=
  ∀ values, jval = .array values →
    (values.getD 0 .null).isIntegerIn low high = true →
      values.length = size ∧
        ∀ value ∈ values, value.isIntegerIn low high = true

/-- Integers between the bounds convert to themselves. -/
theorem forall₂_asInteger_iff {low high : Int} {values : List Value}
    {integers : List Int}
    (converted :
      List.Forall₂
        (fun value integer => value.asInteger low high = .ok integer)
        values integers) :
    values.map Value.integer = integers.map some ↔
      ∀ value ∈ values, value.isIntegerIn low high = true := by
  induction converted with
  | nil => simp
  | @cons value integer values integers converted _ inductionHypothesis =>
      have head :
          value.integer = some integer ↔
            value.isIntegerIn low high = true := by
        constructor
        · exact Value.isIntegerIn_of_asInteger converted
        · intro fits
          rcases Value.asInteger_of_isIntegerIn fits with
            ⟨other, same, also⟩
          rw [converted] at also
          cases also
          exact same
      simp [head, inductionHypothesis]

theorem exists_forall₂_asInteger {low high : Int} {values : List Value}
    (fit : ∀ value ∈ values, value.isIntegerIn low high = true) :
    ∃ integers,
      List.Forall₂
        (fun value integer => value.asInteger low high = .ok integer)
        values integers := by
  induction values with
  | nil => exact ⟨[], .nil⟩
  | cons value values inductionHypothesis =>
      rcases Value.asInteger_of_isIntegerIn (fit value List.mem_cons_self)
        with ⟨integer, -, converted⟩
      rcases inductionHypothesis fun other member =>
          fit other (List.mem_cons_of_mem value member) with
        ⟨integers, rest⟩
      exact ⟨integer :: integers, .cons converted rest⟩

/-- A vector of integers is replaced as a whole, or left alone. -/
theorem writeVector_whole_iff {low high : Int} (vector : List Int)
    (jval : Value) :
    ((∃ next,
          writeVector (Value.isIntegerIn low high) (Value.asInteger low high)
              vector jval = .ok (true, next) ∧
            Elements jval next) ∨
        writeVector (Value.isIntegerIn low high) (Value.asInteger low high)
          vector jval = .ok (false, vector)) ↔
      Fits low high vector.length jval := by
  cases jval with
  | array values =>
      by_cases accepted :
          (values.getD 0 .null).isIntegerIn low high = true
      · constructor
        · rintro (⟨next, written, others, ⟨⟩, same⟩ | refused)
          · simp only [writeVector, accepted, if_true] at written
            rcases ok_of_bind written with ⟨written, writtenAll, returned⟩
            cases returned
            have size : values.length = vector.length := by
              have sizes := congrArg List.length same
              rw [List.length_map, List.length_map] at sizes
              rw [sizes, writeElements_length writtenAll]
            have converted := (writeElements_of_length size).mp writtenAll
            rintro others ⟨⟩ -
            exact ⟨size, (forall₂_asInteger_iff converted).mp same⟩
          · simp only [writeVector, accepted, if_true] at refused
            rcases ok_of_bind refused with ⟨written, -, returned⟩
            cases returned
        · intro fits
          rcases fits values rfl accepted with ⟨size, fit⟩
          rcases exists_forall₂_asInteger fit with ⟨integers, converted⟩
          have written := (writeElements_of_length size).mpr converted
          refine Or.inl ⟨integers, ?_, values, rfl,
            (forall₂_asInteger_iff converted).mpr fit⟩
          simp only [writeVector, accepted, if_true, written]
          rfl
      · refine iff_of_true (Or.inr ?_) ?_
        · simp only [writeVector, accepted, if_neg, Bool.false_eq_true,
            not_false_eq_true]
        · rintro others ⟨⟩ first
          exact absurd first accepted
  | _ =>
      refine iff_of_true (Or.inr rfl) ?_
      rintro values ⟨⟩

/-! ## Updates of vector properties -/

section

/-- The bounds and the contents of a vector of integers. -/
def integerVector (val : VehiclePropValue Single) : List Int :=
  match numbers.getPropType val.prop with
  | .int32Vec => val.value.int32Values
  | .int64Vec => val.value.int64Values
  | _ => []

/-- `jsonToVehicle` takes the array as a whole, or returns with no change. -/
def AllOrNothing (jval : Value) (val : VehiclePropValue Single) : Prop :=
  (∃ next,
      jsonToVehicle numbers toFloat jval val = .ok (true, next) ∧
        Elements jval (integerVector numbers next)) ∨
    jsonToVehicle numbers toFloat jval val = .ok (false, val)

/-- The bounds of the elements of a property of this type. -/
def elementBounds (val : VehiclePropValue Single) : Int × Int :=
  match numbers.getPropType val.prop with
  | .int32Vec => (Json.minInt, Json.maxInt)
  | _ => (Json.minInt64, Json.maxInt64)

/-- Storing the vector that was written adds nothing to the question. -/
theorem allOrNothing_iff_write {jval : Value} {val : VehiclePropValue Single}
    {write : Except Fault (Bool × List Int)}
    {store : List Int → VehiclePropValue Single}
    (stored :
      jsonToVehicle numbers toFloat jval val =
        (do
          let (done, vector) ← write
          return (done, store vector)))
    (read : ∀ vector, integerVector numbers (store vector) = vector)
    (unchanged : store (integerVector numbers val) = val) :
    AllOrNothing numbers toFloat jval val ↔
      (∃ next, write = .ok (true, next) ∧ Elements jval next) ∨
        write = .ok (false, integerVector numbers val) := by
  unfold AllOrNothing
  rw [stored]
  constructor
  · rintro (⟨next, returned, elements⟩ | returned)
    · rcases ok_of_bind returned with ⟨⟨done, vector⟩, written, ⟨⟩⟩
      rw [read] at elements
      exact Or.inl ⟨vector, written, elements⟩
    · rcases ok_of_bind returned with ⟨⟨done, vector⟩, written, continued⟩
      have parts := Prod.mk.inj (Except.ok.inj continued)
      have same : integerVector numbers val = vector := by
        rw [← parts.2, read]
      rw [same, ← parts.1]
      exact Or.inr written
  · rintro (⟨next, written, elements⟩ | written)
    · refine Or.inl ⟨store next, ?_, by rwa [read]⟩
      rw [written]
      rfl
    · refine Or.inr ?_
      rw [written]
      exact congrArg (fun val => Except.ok (false, val)) unchanged

/-- An update of a vector of integers is all or nothing if the array fits. -/
theorem vector_update_whole_iff (jval : Value)
    (val : VehiclePropValue Single)
    (vector :
      numbers.getPropType val.prop = .int32Vec ∨
        numbers.getPropType val.prop = .int64Vec) :
    AllOrNothing numbers toFloat jval val ↔
      Fits (elementBounds numbers val).1 (elementBounds numbers val).2
        (integerVector numbers val).length jval := by
  rcases vector with int32Vec | int64Vec
  · have bounds : elementBounds numbers val = (Json.minInt, Json.maxInt) := by
      simp only [elementBounds, int32Vec]
    rw [bounds, ← writeVector_whole_iff]
    apply @allOrNothing_iff_write _ numbers toFloat jval val _
      fun vector => { val with value.int32Values := vector }
    · simp only [jsonToVehicle, integerVector, int32Vec]
      rfl
    · intro vector
      simp only [integerVector, int32Vec]
    · simp only [integerVector, int32Vec]
  · have bounds :
        elementBounds numbers val = (Json.minInt64, Json.maxInt64) := by
      simp only [elementBounds, int64Vec]
    rw [bounds, ← writeVector_whole_iff]
    apply @allOrNothing_iff_write _ numbers toFloat jval val _
      fun vector => { val with value.int64Values := vector }
    · simp only [jsonToVehicle, integerVector, int64Vec]
      rfl
    · intro vector
      simp only [integerVector, int64Vec]
    · simp only [integerVector, int64Vec]

end

/-- A global property with a vector of integers, `HW_KEY_INPUT`. -/
def keyInput : VehiclePropValue Unit :=
  ⟨0, 0, 0x11410a10, 0, { RawValue.empty with int32Values := [1, 2, 3] }⟩

theorem vector_update_whole_iff_keyInput :
    AllOrNothing interfaceNumbers (fun _ => ())
        (.array [.int 7, .int 8, .int 9]) keyInput ↔
      Fits (elementBounds interfaceNumbers keyInput).1
        (elementBounds interfaceNumbers keyInput).2
        (integerVector interfaceNumbers keyInput).length
        (.array [.int 7, .int 8, .int 9]) :=
  vector_update_whole_iff interfaceNumbers (fun _ => ())
    (.array [.int 7, .int 8, .int 9]) keyInput (Or.inl (by decide))

/-- A shorter array replaces only the first elements of the vector. -/
theorem shorter_array_accepted :
    ¬ AllOrNothing interfaceNumbers (fun _ => ()) (.array [.int 7])
      keyInput := by
  have updated :
      jsonToVehicle interfaceNumbers (fun _ => ()) (.array [.int 7])
          keyInput =
        .ok (true,
          { keyInput with value.int32Values := [7, 2, 3] }) :=
    rfl
  rintro (⟨next, returned, values, ⟨⟩, same⟩ | returned)
  · rw [updated] at returned
    cases returned
    exact absurd (congrArg List.length same) (by decide)
  · rw [updated] at returned
    cases returned

end Anbox.Vehicle.PropertyValue
