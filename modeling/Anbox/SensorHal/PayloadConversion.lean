import Mathlib.Data.List.TakeWhile
import Anbox.Foundation.Fallible
import Anbox.Json.Value
import Anbox.SensorHal.Activation

/-!
# Payloads of sensors

`convertJsonToSensorPayload` puts the value of a VIS property into the payload
of a sensor.  Some sensor types check all elements of the value before they
write any, others write each element when they have checked it.  None of them
checks that the value has elements at all.

Conversions to `float` are left to the processor.  Null, which a missing
element is, and booleans can be converted too, although they are no numbers.
-/

namespace Anbox.SensorHal.PayloadConversion

open Anbox.Foundation.Fallible
open Anbox.Json (Fault Value)
open Anbox.SensorHal.Activation (SensorType)

/--
The union of payloads.  The members `vec3`, `vec4`, `uncal`, `scalar`,
`heartRate` and `pose6DOF` begin with the same floats as `data`.  The status
and the counter are not in use together with the floats they overlap.
-/
structure EventPayload (Single : Type) where
  data : Nat → Single
  /-- The status of `vec3` or `heartRate`. -/
  status : Int
  stepCount : Nat

/-! ## SensorStatus -/

def noContact : Int := -1
def unreliable : Int := 0
def accuracyHigh : Int := 3

def sensorStatus (status : Int) : Int :=
  if accuracyHigh < status ∨ status < noContact then unreliable else status

section

variable {Single : Type} (toFloat : Value → Single)

def EventPayload.setData (payload : EventPayload Single) (index : Nat)
    (number : Single) : EventPayload Single :=
  { payload with data := Function.update payload.data index number }

/-! ## Loops over elements -/

/-- Look whether these elements are numbers. -/
def checkFloats (jval : Value) : List Nat → Except Fault Bool
  | [] => .ok true
  | index :: indices => do
      let element ← jval.element index
      if element.isConvertibleToReal then checkFloats jval indices
      else return false

/-- Write these elements, which have been checked. -/
def copyFloats (jval : Value) :
    List Nat → EventPayload Single → Except Fault (EventPayload Single)
  | [], payload => .ok payload
  | index :: indices, payload => do
      let element ← jval.element index
      let number ← element.asFloat toFloat
      copyFloats jval indices (payload.setData index number)

/-- Check and write one element after another. -/
def convertFloats (jval : Value) :
    List Nat → EventPayload Single →
      Except Fault (Bool × EventPayload Single)
  | [], payload => .ok (true, payload)
  | index :: indices, payload => do
      let element ← jval.element index
      if element.isConvertibleToReal then
        let number ← element.asFloat toFloat
        convertFloats jval indices (payload.setData index number)
      else return (false, payload)

/-! ## Sensor types -/

/-- `vec3` and `heartRate`: the status is behind the floats. -/
def convertWithStatus (count : Nat) (payload : EventPayload Single)
    (jval : Value) : Except Fault (Bool × EventPayload Single) := do
  if ← checkFloats jval (List.range count) then
    let last ← jval.element count
    if last.isConvertibleToInt then
      let written ← copyFloats toFloat jval (List.range count) payload
      let last ← jval.element count
      let status ← last.asInt
      return (true, { written with status := sensorStatus status })
    else return (false, payload)
  else return (false, payload)

def convertVec4 (payload : EventPayload Single) (jval : Value) :
    Except Fault (Bool × EventPayload Single) := do
  if ← checkFloats jval (List.range 4) then
    let written ← copyFloats toFloat jval (List.range 4) payload
    return (true, written)
  else return (false, payload)

/-- The members of `uncal` are written again, over the same floats. -/
def convertUncal (payload : EventPayload Single) (jval : Value) :
    Except Fault (Bool × EventPayload Single) := do
  let (done, written) ← convertFloats toFloat jval (List.range 6) payload
  if done then
    let again ← copyFloats toFloat jval (List.range 6) written
    return (true, again)
  else return (false, written)

def convertScalar (payload : EventPayload Single) (jval : Value) :
    Except Fault (Bool × EventPayload Single) := do
  if jval.isConvertibleToReal then
    let number ← jval.asFloat toFloat
    return (true, payload.setData 0 number)
  else return (false, payload)

/-- What is stored is the result of the check. -/
def convertStepCount (payload : EventPayload Single) (jval : Value) :
    Except Fault (Bool × EventPayload Single) :=
  if jval.isUInt64 then
    .ok (true, { payload with stepCount := jval.isUInt64.toNat })
  else .ok (false, payload)

def convertJsonToSensorPayload (type : SensorType)
    (payload : EventPayload Single) (jval : Value) :
    Except Fault (Bool × EventPayload Single) :=
  match type with
  | .accelerometer | .magneticField | .orientation | .gyroscope | .gravity
  | .linearAcceleration => convertWithStatus toFloat 3 payload jval
  | .gameRotationVector => convertVec4 toFloat payload jval
  | .rotationVector | .geomagneticRotationVector =>
      convertFloats toFloat jval (List.range 5) payload
  | .magneticFieldUncalibrated | .gyroscopeUncalibrated
  | .accelerometerUncalibrated => convertUncal toFloat payload jval
  | .deviceOrientation | .light | .pressure | .temperature | .proximity
  | .relativeHumidity | .ambientTemperature | .significantMotion
  | .stepDetector | .tiltDetector | .wakeGesture | .glanceGesture
  | .pickUpGesture | .wristTiltGesture | .stationaryDetect | .motionDetect
  | .heartBeat | .lowLatencyOffbodyDetect =>
      convertScalar toFloat payload jval
  | .stepCounter => convertStepCount payload jval
  | .heartRate => convertWithStatus toFloat 1 payload jval
  | .pose6Dof => convertFloats toFloat jval (List.range 15) payload
  | .metaData | .other _ => .ok (false, payload)

/-! ## What the loops do -/

/-- The elements with these indices can be converted to `float`. -/
def AllFloats (jval : Value) (indices : List Nat) : Prop :=
  ∀ index ∈ indices, (jval.elementAt index).isConvertibleToReal = true

instance (jval : Value) (indices : List Nat) :
    Decidable (AllFloats jval indices) :=
  decidable_of_iff
    (indices.all (fun index =>
      (jval.elementAt index).isConvertibleToReal) = true) List.all_eq_true

/-- The elements with these indices are numbers of the document. -/
def AllNumbers (jval : Value) (indices : List Nat) : Prop :=
  ∀ index ∈ indices, (jval.elementAt index).isNumeric = true

theorem AllNumbers.allFloats {jval : Value} {indices : List Nat}
    (numbers : AllNumbers jval indices) : AllFloats jval indices :=
  fun index member =>
    Value.isConvertibleToReal_of_isNumeric (numbers index member)

theorem decide_allFloats_cons (jval : Value) (index : Nat)
    (indices : List Nat) :
    decide (AllFloats jval (index :: indices)) =
      ((jval.elementAt index).isConvertibleToReal &&
        decide (AllFloats jval indices)) := by
  have split : AllFloats jval (index :: indices) ↔
      (jval.elementAt index).isConvertibleToReal = true ∧
        AllFloats jval indices :=
    List.forall_mem_cons
  rw [decide_eq_decide.mpr split, Bool.decide_and, Bool.decide_eq_true]

/-- The payload with the numbers of these elements. -/
def EventPayload.withFloats (payload : EventPayload Single) (jval : Value)
    (indices : List Nat) : EventPayload Single :=
  { payload with
    data := fun index =>
      if index ∈ indices then toFloat (jval.elementAt index)
      else payload.data index }

variable {toFloat} {jval : Value} {indices : List Nat}

theorem withFloats_cons (payload : EventPayload Single) (index : Nat) :
    (payload.setData index (toFloat (jval.elementAt index))).withFloats
        toFloat jval indices =
      payload.withFloats toFloat jval (index :: indices) := by
  simp only [EventPayload.withFloats, EventPayload.setData,
    EventPayload.mk.injEq, and_self, and_true]
  funext other
  by_cases member : other ∈ indices
  · simp [member]
  · by_cases same : other = index
    · simp [same]
    · simp [member, same]

theorem withFloats_again (payload : EventPayload Single) :
    (payload.withFloats toFloat jval indices).withFloats toFloat jval
        indices =
      payload.withFloats toFloat jval indices := by
  simp only [EventPayload.withFloats, EventPayload.mk.injEq, and_self,
    and_true]
  funext other
  split
  · rfl
  · rfl

theorem checkFloats_eq (indexable : jval.isIndexable = true) :
    checkFloats jval indices = .ok (decide (AllFloats jval indices)) := by
  induction indices with
  | nil => rfl
  | cons index indices inductionHypothesis =>
      simp only [checkFloats, Value.element_of_isIndexable indexable, bind,
        Except.bind, decide_allFloats_cons]
      split
      · next first => simp only [first, Bool.true_and, inductionHypothesis]
      · next first => simp only [first, Bool.false_and]; rfl

theorem copyFloats_eq (indexable : jval.isIndexable = true)
    (all : AllFloats jval indices) (payload : EventPayload Single) :
    copyFloats toFloat jval indices payload =
      .ok (payload.withFloats toFloat jval indices) := by
  induction indices generalizing payload with
  | nil => rfl
  | cons index indices inductionHypothesis =>
      rcases List.forall_mem_cons.mp all with ⟨first, later⟩
      have continued := inductionHypothesis later
        (payload.setData index (toFloat (jval.elementAt index)))
      rw [withFloats_cons] at continued
      simp only [copyFloats, Value.element_of_isIndexable indexable,
        Value.asFloat, bind, Except.bind, first, if_true]
      exact continued

/-- The elements before the first one that is no number are written. -/
theorem convertFloats_eq (indexable : jval.isIndexable = true)
    (payload : EventPayload Single) :
    convertFloats toFloat jval indices payload =
      .ok (decide (AllFloats jval indices),
        payload.withFloats toFloat jval
          (indices.takeWhile fun index =>
            (jval.elementAt index).isConvertibleToReal)) := by
  induction indices generalizing payload with
  | nil => rfl
  | cons index indices inductionHypothesis =>
      have continued := inductionHypothesis
        (payload.setData index (toFloat (jval.elementAt index)))
      rw [withFloats_cons] at continued
      simp only [convertFloats, Value.element_of_isIndexable indexable,
        Value.asFloat, bind, Except.bind, decide_allFloats_cons,
        List.takeWhile_cons]
      split
      · next first =>
        simp only [first, Bool.true_and]
        exact continued
      · next first => simp only [first, Bool.false_and]; rfl

/-- A value without elements ends the first loop over elements. -/
theorem checkFloats_of_scalar (scalar : jval.isIndexable = false)
    (nonempty : indices ≠ []) :
    checkFloats jval indices = .error .assertion := by
  cases indices with
  | nil => exact absurd rfl nonempty
  | cons index indices =>
      simp only [checkFloats, Value.element_of_not_isIndexable scalar]
      rfl

theorem convertFloats_of_scalar (scalar : jval.isIndexable = false)
    (nonempty : indices ≠ []) (payload : EventPayload Single) :
    convertFloats toFloat jval indices payload = .error .assertion := by
  cases indices with
  | nil => exact absurd rfl nonempty
  | cons index indices =>
      simp only [convertFloats, Value.element_of_not_isIndexable scalar]
      rfl

theorem range_ne_nil {count : Nat} (positive : 0 < count) :
    List.range count ≠ [] :=
  List.ne_nil_of_length_pos (by rwa [List.length_range])

/-- The checks of the floats and of the status. -/
def CheckedWithStatus (jval : Value) (count : Nat) : Prop :=
  AllFloats jval (List.range count) ∧
    (jval.elementAt count).isConvertibleToInt = true

/-- The conversion with a status checks everything before it writes. -/
theorem convertWithStatus_eq {count : Nat} (positive : 0 < count)
    (payload : EventPayload Single) :
    (jval.isIndexable = false ∧
        convertWithStatus toFloat count payload jval =
          .error .assertion) ∨
      jval.isIndexable = true ∧
        (¬ CheckedWithStatus jval count ∧
            convertWithStatus toFloat count payload jval =
              .ok (false, payload) ∨
          CheckedWithStatus jval count ∧
            ∃ status, (jval.elementAt count).asInt = .ok status ∧
              convertWithStatus toFloat count payload jval =
                .ok (true,
                  { payload.withFloats toFloat jval (List.range count) with
                    status := sensorStatus status })) := by
  cases indexable : jval.isIndexable with
  | false =>
      refine Or.inl ⟨rfl, ?_⟩
      rw [convertWithStatus,
        checkFloats_of_scalar indexable (range_ne_nil positive)]
      rfl
  | true =>
      refine Or.inr ⟨rfl, ?_⟩
      simp only [convertWithStatus, checkFloats_eq indexable,
        Value.element_of_isIndexable indexable, bind, Except.bind,
        decide_eq_true_eq]
      split
      · next all =>
        split
        · next convertible =>
          rcases Value.asInt_of_isConvertibleToInt convertible with
            ⟨status, converted⟩
          refine Or.inr ⟨⟨all, convertible⟩, status, converted, ?_⟩
          simp only [copyFloats_eq indexable all, converted]
          rfl
        · next unconvertible =>
          exact Or.inl ⟨fun checked => unconvertible checked.2, rfl⟩
      · next notAll => exact Or.inl ⟨fun checked => notAll checked.1, rfl⟩

theorem convertVec4_eq (payload : EventPayload Single) :
    (jval.isIndexable = false ∧
        convertVec4 toFloat payload jval = .error .assertion) ∨
      jval.isIndexable = true ∧
        (¬ AllFloats jval (List.range 4) ∧
            convertVec4 toFloat payload jval = .ok (false, payload) ∨
          AllFloats jval (List.range 4) ∧
            convertVec4 toFloat payload jval =
              .ok (true,
                payload.withFloats toFloat jval (List.range 4))) := by
  cases indexable : jval.isIndexable with
  | false =>
      refine Or.inl ⟨rfl, ?_⟩
      rw [convertVec4,
        checkFloats_of_scalar indexable (range_ne_nil (by decide))]
      rfl
  | true =>
      refine Or.inr ⟨rfl, ?_⟩
      simp only [convertVec4, checkFloats_eq indexable, bind, Except.bind,
        decide_eq_true_eq]
      split
      · next all =>
        refine Or.inr ⟨all, ?_⟩
        simp only [copyFloats_eq indexable all]
        rfl
      · next notAll => exact Or.inl ⟨notAll, rfl⟩

theorem withFloats_takeWhile (all : AllFloats jval indices)
    (payload : EventPayload Single) :
    payload.withFloats toFloat jval
        (indices.takeWhile fun index =>
          (jval.elementAt index).isConvertibleToReal) =
      payload.withFloats toFloat jval indices := by
  rw [List.takeWhile_eq_self_iff.mpr all]

/-- Writing the floats a second time changes nothing. -/
theorem convertUncal_eq (payload : EventPayload Single) :
    convertUncal toFloat payload jval =
      convertFloats toFloat jval (List.range 6) payload := by
  cases indexable : jval.isIndexable with
  | false =>
      rw [convertUncal,
        convertFloats_of_scalar indexable (range_ne_nil (by decide))]
      rfl
  | true =>
      rw [convertUncal, convertFloats_eq indexable]
      by_cases all : AllFloats jval (List.range 6)
      · simp only [bind, Except.bind, all, decide_true, if_true,
          withFloats_takeWhile all, copyFloats_eq indexable all,
          withFloats_again]
        rfl
      · simp only [bind, Except.bind, all, decide_false, Bool.false_eq_true,
          if_false]
        rfl

end

/-! ## Faithful conversions -/

/-- How the conversion of a sensor type goes about the value. -/
inductive Layout where
  /-- Floats and a status, which are all checked first. -/
  | withStatus (count : Nat)
  /-- Floats that are all checked first. -/
  | atOnce (count : Nat)
  /-- Floats that are checked and written one by one. -/
  | oneByOne (count : Nat)
  | scalar
  | counter
  /-- The type has no conversion. -/
  | none
deriving DecidableEq, Repr

def layout : SensorType → Layout
  | .accelerometer | .magneticField | .orientation | .gyroscope | .gravity
  | .linearAcceleration => .withStatus 3
  | .heartRate => .withStatus 1
  | .gameRotationVector => .atOnce 4
  | .rotationVector | .geomagneticRotationVector => .oneByOne 5
  | .magneticFieldUncalibrated | .gyroscopeUncalibrated
  | .accelerometerUncalibrated => .oneByOne 6
  | .pose6Dof => .oneByOne 15
  | .deviceOrientation | .light | .pressure | .temperature | .proximity
  | .relativeHumidity | .ambientTemperature | .significantMotion
  | .stepDetector | .tiltDetector | .wakeGesture | .glanceGesture
  | .pickUpGesture | .wristTiltGesture | .stationaryDetect | .motionDetect
  | .heartBeat | .lowLatencyOffbodyDetect => .scalar
  | .stepCounter => .counter
  | .metaData | .other _ => .none

section

variable {Single : Type} (toFloat : Value → Single) (type : SensorType)
  (jval : Value) (payload : EventPayload Single)

/-- The payload holds the value in the fields of the sensor type. -/
def Holds (next : EventPayload Single) : Prop :=
  match layout type with
  | .withStatus count =>
      ∃ status, (jval.elementAt count).asInt = .ok status ∧
        next =
          { payload.withFloats toFloat jval (List.range count) with
            status := sensorStatus status }
  | .atOnce count | .oneByOne count =>
      next = payload.withFloats toFloat jval (List.range count)
  | .scalar => next = payload.setData 0 (toFloat jval)
  | .counter =>
      jval.integer = some (next.stepCount : Int) ∧
        next = { payload with stepCount := next.stepCount }
  | .none => False

/-- What the sensor type reads of the value is numbers. -/
def ReadsNumbers : Prop :=
  match layout type with
  | .withStatus count => AllNumbers jval (List.range (count + 1))
  | .atOnce count | .oneByOne count => AllNumbers jval (List.range count)
  | .scalar | .counter => jval.isNumeric = true
  | .none => True

/-- The payload takes the numbers as a whole, or stays as it is. -/
def Faithful : Prop :=
  (∃ next,
      convertJsonToSensorPayload toFloat type payload jval =
          .ok (true, next) ∧
        ReadsNumbers type jval ∧ Holds toFloat type jval payload next) ∨
    convertJsonToSensorPayload toFloat type payload jval =
      .ok (false, payload)

/-- The elements before the first that is not converted are in the payload. -/
def PartlyThere (indices : List Nat) : Prop :=
  ∀ index ∈ indices.takeWhile fun index =>
      (jval.elementAt index).isConvertibleToReal,
    toFloat (jval.elementAt index) = payload.data index

/-- The value has elements where they are looked for, and so on. -/
def Fits : Prop :=
  match layout type with
  | .withStatus count =>
      jval.isIndexable = true ∧
        (CheckedWithStatus jval count →
          AllNumbers jval (List.range (count + 1)))
  | .atOnce count =>
      jval.isIndexable = true ∧
        (AllFloats jval (List.range count) →
          AllNumbers jval (List.range count))
  | .oneByOne count =>
      jval.isIndexable = true ∧
        (AllNumbers jval (List.range count) ∨
          ¬ AllFloats jval (List.range count) ∧
            PartlyThere toFloat jval payload (List.range count))
  | .scalar => jval.isConvertibleToReal = true → jval.isNumeric = true
  | .counter => jval.isUInt64 = true → jval.integer = some 1
  | .none => True

variable {toFloat type jval payload}

theorem withFloats_eq_self_iff {indices : List Nat} :
    payload.withFloats toFloat jval indices = payload ↔
      ∀ index ∈ indices,
        toFloat (jval.elementAt index) = payload.data index := by
  constructor
  · intro same index member
    have data := congrArg (fun payload => payload.data index) same
    simpa [EventPayload.withFloats, member] using data
  · intro there
    unfold EventPayload.withFloats
    have data :
        (fun index =>
          if index ∈ indices then toFloat (jval.elementAt index)
          else payload.data index) = payload.data := by
      funext index
      split
      · next member => exact there index member
      · rfl
    rw [data]

theorem not_faithful_of_error {fault : Fault}
    (failed :
      convertJsonToSensorPayload toFloat type payload jval =
        .error fault) : ¬ Faithful toFloat type jval payload := by
  rintro (⟨next, returned, -⟩ | returned)
  · rw [failed] at returned
    cases returned
  · rw [failed] at returned
    cases returned

/-- A conversion that returns true is faithful to numbers only. -/
theorem faithful_iff_readsNumbers {next : EventPayload Single}
    (written :
      convertJsonToSensorPayload toFloat type payload jval =
        .ok (true, next))
    (holds : Holds toFloat type jval payload next) :
    Faithful toFloat type jval payload ↔ ReadsNumbers type jval := by
  constructor
  · rintro (⟨-, -, numbers, -⟩ | refused)
    · exact numbers
    · rw [written] at refused
      cases refused
  · intro numbers
    exact Or.inl ⟨next, written, numbers, holds⟩

theorem faithful_withStatus {count : Nat} (positive : 0 < count)
    (kind : layout type = .withStatus count)
    (same :
      convertJsonToSensorPayload toFloat type payload jval =
        convertWithStatus toFloat count payload jval) :
    Faithful toFloat type jval payload ↔
      jval.isIndexable = true ∧
        (CheckedWithStatus jval count →
          AllNumbers jval (List.range (count + 1))) := by
  rcases @convertWithStatus_eq _ toFloat jval _ positive payload with
    ⟨scalar, failed⟩ |
      ⟨indexable, ⟨unchecked, refused⟩ |
        ⟨checked, status, converted, written⟩⟩
  · exact iff_of_false (not_faithful_of_error (same.trans failed))
      (by simp [scalar])
  · exact iff_of_true (Or.inr (same.trans refused))
      ⟨indexable, fun checked => absurd checked unchecked⟩
  · rw [and_iff_right indexable, imp_iff_right checked,
      faithful_iff_readsNumbers (same.trans written)]
    · simp only [ReadsNumbers, kind]
    · simp only [Holds, kind]
      exact ⟨status, converted, rfl⟩

theorem faithful_oneByOne {count : Nat} (positive : 0 < count)
    (kind : layout type = .oneByOne count)
    (same :
      convertJsonToSensorPayload toFloat type payload jval =
        convertFloats toFloat jval (List.range count) payload) :
    Faithful toFloat type jval payload ↔
      jval.isIndexable = true ∧
        (AllNumbers jval (List.range count) ∨
          ¬ AllFloats jval (List.range count) ∧
            PartlyThere toFloat jval payload (List.range count)) := by
  cases indexable : jval.isIndexable with
  | false =>
      refine iff_of_false (not_faithful_of_error (same.trans
        (convertFloats_of_scalar indexable (range_ne_nil positive)
          payload))) ?_
      simp
  | true =>
      rw [convertFloats_eq indexable] at same
      rw [and_iff_right rfl]
      by_cases all : AllFloats jval (List.range count)
      · have written :
            convertJsonToSensorPayload toFloat type payload jval =
              .ok (true,
                payload.withFloats toFloat jval (List.range count)) := by
          rw [same, withFloats_takeWhile all, decide_eq_true all]
        rw [or_iff_left fun part => part.1 all,
          faithful_iff_readsNumbers written]
        · simp only [ReadsNumbers, kind]
        · simp only [Holds, kind]
      · rw [decide_eq_false all] at same
        rw [or_iff_right fun numbers => all numbers.allFloats,
          and_iff_right all, PartlyThere, ← withFloats_eq_self_iff]
        constructor
        · rintro (⟨next, returned, -⟩ | returned)
          · rw [same] at returned
            cases returned
          · rw [same] at returned
            exact congrArg Prod.snd (Except.ok.inj returned)
        · intro there
          rw [there] at same
          exact Or.inr same

theorem faithful_vec4 (kind : layout type = .atOnce 4)
    (same :
      convertJsonToSensorPayload toFloat type payload jval =
        convertVec4 toFloat payload jval) :
    Faithful toFloat type jval payload ↔
      jval.isIndexable = true ∧
        (AllFloats jval (List.range 4) →
          AllNumbers jval (List.range 4)) := by
  rcases @convertVec4_eq _ toFloat jval payload with
    ⟨scalar, failed⟩ | ⟨indexable, ⟨notAll, refused⟩ | ⟨all, written⟩⟩
  · exact iff_of_false (not_faithful_of_error (same.trans failed))
      (by simp [scalar])
  · exact iff_of_true (Or.inr (same.trans refused))
      ⟨indexable, fun all => absurd all notAll⟩
  · rw [and_iff_right indexable, imp_iff_right all,
      faithful_iff_readsNumbers (same.trans written)]
    · simp only [ReadsNumbers, kind]
    · simp only [Holds, kind]

theorem faithful_scalar (kind : layout type = .scalar)
    (same :
      convertJsonToSensorPayload toFloat type payload jval =
        convertScalar toFloat payload jval) :
    Faithful toFloat type jval payload ↔
      (jval.isConvertibleToReal = true → jval.isNumeric = true) := by
  cases convertible : jval.isConvertibleToReal with
  | false =>
      refine iff_of_true (Or.inr ?_) (fun impossible => by cases impossible)
      rw [same]
      simp only [convertScalar, convertible, Bool.false_eq_true, if_false]
      rfl
  | true =>
      have written :
          convertJsonToSensorPayload toFloat type payload jval =
            .ok (true, payload.setData 0 (toFloat jval)) := by
        rw [same]
        simp only [convertScalar, convertible, if_true, Value.asFloat]
        rfl
      rw [imp_iff_right rfl, faithful_iff_readsNumbers written]
      · simp only [ReadsNumbers, kind]
      · simp only [Holds, kind]

/-- What is stored for every number of steps is one. -/
theorem faithful_stepCounter :
    Faithful toFloat .stepCounter jval payload ↔
      (jval.isUInt64 = true → jval.integer = some 1) := by
  cases fits : jval.isUInt64 with
  | false =>
      refine iff_of_true (Or.inr ?_) (fun impossible => by cases impossible)
      simp only [convertJsonToSensorPayload, convertStepCount, fits,
        Bool.false_eq_true, if_false]
  | true =>
      have stored :
          convertJsonToSensorPayload toFloat .stepCounter payload jval =
            .ok (true, { payload with stepCount := 1 }) := by
        simp only [convertJsonToSensorPayload, convertStepCount, fits,
          if_true]
        rfl
      constructor
      · rintro (⟨next, returned, -, holds, -⟩ | returned) -
        · rw [stored] at returned
          cases returned
          exact holds
        · rw [stored] at returned
          cases returned
      · intro one
        exact Or.inl ⟨_, stored, Value.isNumeric_of_integer (one rfl),
          one rfl, rfl⟩

end

/-! ## Accepted values -/

/-- A sensor of this type takes the value, whatever its payload is. -/
def Accepted (type : SensorType) (jval : Value) : Prop :=
  match layout type with
  | .withStatus count =>
      jval.isIndexable = true ∧ CheckedWithStatus jval count
  | .atOnce count | .oneByOne count =>
      jval.isIndexable = true ∧ AllFloats jval (List.range count)
  | .scalar => jval.isConvertibleToReal = true
  | .counter => jval.isUInt64 = true
  | .none => False

section

variable {Single : Type} (toFloat : Value → Single)

/-- What becomes of the payload when the value is accepted. -/
def stored (type : SensorType) (jval : Value)
    (payload : EventPayload Single) : EventPayload Single :=
  match layout type with
  | .withStatus count =>
      { payload.withFloats toFloat jval (List.range count) with
        status :=
          sensorStatus ((jval.elementAt count).asInt.toOption.getD 0) }
  | .atOnce count | .oneByOne count =>
      payload.withFloats toFloat jval (List.range count)
  | .scalar => payload.setData 0 (toFloat jval)
  | .counter => { payload with stepCount := 1 }
  | .none => payload

variable {toFloat} {type : SensorType} {jval : Value}
  {payload next : EventPayload Single}

theorem stored_stored :
    stored toFloat type jval (stored toFloat type jval payload) =
      stored toFloat type jval payload := by
  unfold stored
  cases layout type with
  | withStatus count =>
      simp only [EventPayload.withFloats, EventPayload.mk.injEq, and_self,
        and_true]
      funext other
      split
      · rfl
      · rfl
  | atOnce count | oneByOne count => exact withFloats_again payload
  | scalar => simp [EventPayload.setData]
  | counter => rfl
  | none => rfl

theorem withStatus_true_iff {count : Nat} (positive : 0 < count) :
    convertWithStatus toFloat count payload jval = .ok (true, next) ↔
      (jval.isIndexable = true ∧ CheckedWithStatus jval count) ∧
        next =
          { payload.withFloats toFloat jval (List.range count) with
            status :=
              sensorStatus
                ((jval.elementAt count).asInt.toOption.getD 0) } := by
  rcases @convertWithStatus_eq _ toFloat jval _ positive payload with
    ⟨scalar, failed⟩ |
      ⟨indexable, ⟨unchecked, refused⟩ |
        ⟨checked, status, converted, written⟩⟩
  · rw [failed]
    simp [scalar]
  · rw [refused]
    simp [unchecked]
  · rw [written, converted]
    simp [indexable, checked, Except.toOption, eq_comm]

theorem vec4_true_iff :
    convertVec4 toFloat payload jval = .ok (true, next) ↔
      (jval.isIndexable = true ∧ AllFloats jval (List.range 4)) ∧
        next = payload.withFloats toFloat jval (List.range 4) := by
  rcases @convertVec4_eq _ toFloat jval payload with
    ⟨scalar, failed⟩ | ⟨indexable, ⟨notAll, refused⟩ | ⟨all, written⟩⟩
  · rw [failed]
    simp [scalar]
  · rw [refused]
    simp [notAll]
  · rw [written]
    simp [indexable, all, eq_comm]

theorem floats_true_iff {count : Nat} (positive : 0 < count) :
    convertFloats toFloat jval (List.range count) payload =
        .ok (true, next) ↔
      (jval.isIndexable = true ∧ AllFloats jval (List.range count)) ∧
        next = payload.withFloats toFloat jval (List.range count) := by
  cases indexable : jval.isIndexable with
  | false =>
      rw [convertFloats_of_scalar indexable (range_ne_nil positive)]
      simp
  | true =>
      rw [convertFloats_eq indexable]
      by_cases all : AllFloats jval (List.range count)
      · rw [withFloats_takeWhile all]
        simp [all, eq_comm]
      · simp [all]

theorem scalar_true_iff :
    convertScalar toFloat payload jval = .ok (true, next) ↔
      jval.isConvertibleToReal = true ∧
        next = payload.setData 0 (toFloat jval) := by
  cases convertible : jval.isConvertibleToReal with
  | false =>
      simp [convertScalar, convertible, pure, Except.pure]
  | true =>
      simp [convertScalar, convertible, Value.asFloat, bind, Except.bind,
        pure, Except.pure, eq_comm]

theorem stepCount_true_iff :
    convertStepCount payload jval = .ok (true, next) ↔
      jval.isUInt64 = true ∧ next = { payload with stepCount := 1 } := by
  cases fits : jval.isUInt64 with
  | false => simp [convertStepCount, fits]
  | true => simp [convertStepCount, fits, eq_comm]

theorem convert_true_iff :
    convertJsonToSensorPayload toFloat type payload jval =
        .ok (true, next) ↔
      Accepted type jval ∧ next = stored toFloat type jval payload := by
  cases type with
  | accelerometer | magneticField | orientation | gyroscope | gravity
  | linearAcceleration | heartRate => exact withStatus_true_iff (by decide)
  | gameRotationVector => exact vec4_true_iff
  | rotationVector | geomagneticRotationVector | pose6Dof =>
      exact floats_true_iff (by decide)
  | magneticFieldUncalibrated | gyroscopeUncalibrated
  | accelerometerUncalibrated =>
      simp only [convertJsonToSensorPayload, convertUncal_eq]
      exact floats_true_iff (by decide)
  | deviceOrientation | light | pressure | temperature | proximity
  | relativeHumidity | ambientTemperature | significantMotion
  | stepDetector | tiltDetector | wakeGesture | glanceGesture
  | pickUpGesture | wristTiltGesture | stationaryDetect | motionDetect
  | heartBeat | lowLatencyOffbodyDetect => exact scalar_true_iff
  | stepCounter => exact stepCount_true_iff
  | metaData | other value =>
      simp [convertJsonToSensorPayload, Accepted, layout]

/-! ## Values that suit a sensor type -/

/-- The value has elements if the sensor type looks for them. -/
def Readable (type : SensorType) (jval : Value) : Prop :=
  match layout type with
  | .withStatus _ | .atOnce _ | .oneByOne _ => jval.isIndexable = true
  | .scalar | .counter | .none => True

/-- The only number of steps that is stored as it is. -/
def CountsOne (type : SensorType) (jval : Value) : Prop :=
  layout type = .counter → jval.integer = some 1

theorem convert_returns_iff :
    (∃ outcome,
        convertJsonToSensorPayload toFloat type payload jval =
          .ok outcome) ↔ Readable type jval := by
  have withStatus {count : Nat} (positive : 0 < count) :
      (∃ outcome, convertWithStatus toFloat count payload jval =
          .ok outcome) ↔ jval.isIndexable = true := by
    rcases @convertWithStatus_eq _ toFloat jval _ positive payload with
      ⟨scalar, failed⟩ | ⟨indexable, ⟨-, refused⟩ | ⟨-, _, -, written⟩⟩
    · simp [failed, scalar]
    · simp [refused, indexable]
    · simp [written, indexable]
  have floats {count : Nat} (positive : 0 < count) :
      (∃ outcome, convertFloats toFloat jval (List.range count) payload =
          .ok outcome) ↔ jval.isIndexable = true := by
    cases indexable : jval.isIndexable with
    | false =>
        simp [convertFloats_of_scalar indexable (range_ne_nil positive)]
    | true => simp [convertFloats_eq indexable]
  cases type with
  | accelerometer | magneticField | orientation | gyroscope | gravity
  | linearAcceleration | heartRate => exact withStatus (by decide)
  | gameRotationVector =>
      simp only [convertJsonToSensorPayload, Readable, layout]
      rcases @convertVec4_eq _ toFloat jval payload with
        ⟨scalar, failed⟩ | ⟨indexable, ⟨-, refused⟩ | ⟨-, written⟩⟩
      · simp [failed, scalar]
      · simp [refused, indexable]
      · simp [written, indexable]
  | rotationVector | geomagneticRotationVector | pose6Dof =>
      exact floats (by decide)
  | magneticFieldUncalibrated | gyroscopeUncalibrated
  | accelerometerUncalibrated =>
      simp only [convertJsonToSensorPayload, convertUncal_eq]
      exact floats (by decide)
  | deviceOrientation | light | pressure | temperature | proximity
  | relativeHumidity | ambientTemperature | significantMotion
  | stepDetector | tiltDetector | wakeGesture | glanceGesture
  | pickUpGesture | wristTiltGesture | stationaryDetect | motionDetect
  | heartBeat | lowLatencyOffbodyDetect =>
      refine iff_of_true ?_ trivial
      simp only [convertJsonToSensorPayload, convertScalar]
      cases convertible : jval.isConvertibleToReal with
      | false => exact ⟨_, rfl⟩
      | true => exact ⟨_, by simp [Value.asFloat, convertible]; rfl⟩
  | stepCounter =>
      refine iff_of_true ?_ trivial
      simp only [convertJsonToSensorPayload, convertStepCount]
      split
      · exact ⟨_, rfl⟩
      · exact ⟨_, rfl⟩
  | metaData | other value => exact iff_of_true ⟨_, rfl⟩ trivial

theorem holds_iff_of_stored (accepted : Accepted type jval)
    (same : stored toFloat type jval next = next) :
    Holds toFloat type jval next next ↔ CountsOne type jval := by
  unfold Holds CountsOne
  unfold stored at same
  unfold Accepted at accepted
  cases kind : layout type with
  | withStatus count =>
      simp only [kind] at accepted same
      rcases Value.asInt_of_isConvertibleToInt accepted.2.2 with
        ⟨status, converted⟩
      rw [converted] at same
      exact iff_of_true ⟨status, converted, same.symm⟩ (by simp)
  | atOnce count | oneByOne count | scalar =>
      simp only [kind] at same
      exact iff_of_true same.symm (by simp)
  | counter =>
      simp only [kind] at same
      rw [← same]
      simp
  | none => simp only [kind] at accepted

/-- What a sensor needs to hold a value after it has received it. -/
theorem convert_holds_iff :
    (∃ outcome,
        convertJsonToSensorPayload toFloat type payload jval =
            .ok outcome ∧
          (Accepted type jval →
            Holds toFloat type jval outcome.2 outcome.2)) ↔
      Readable type jval ∧ (Accepted type jval → CountsOne type jval) := by
  have taken (accepted : Accepted type jval) :
      convertJsonToSensorPayload toFloat type payload jval =
        .ok (true, stored toFloat type jval payload) :=
    convert_true_iff.mpr ⟨accepted, rfl⟩
  constructor
  · rintro ⟨outcome, returned, holds⟩
    refine ⟨convert_returns_iff.mp ⟨outcome, returned⟩, ?_⟩
    intro accepted
    have same := returned.symm.trans (taken accepted)
    cases same
    exact (holds_iff_of_stored accepted stored_stored).mp (holds accepted)
  · rintro ⟨readable, one⟩
    rcases convert_returns_iff.mpr readable with ⟨outcome, returned⟩
    refine ⟨outcome, returned, ?_⟩
    intro accepted
    have same := returned.symm.trans (taken accepted)
    cases same
    exact (holds_iff_of_stored accepted stored_stored).mpr (one accepted)

end

section

variable {Single : Type}

/--
The conversion is faithful and atomic exactly for values that fit the sensor
type: for numbers where it returns true.
-/
theorem conversion_faithful_iff (toFloat : Value → Single)
    (type : SensorType) (jval : Value) (payload : EventPayload Single) :
    Faithful toFloat type jval payload ↔ Fits toFloat type jval payload := by
  cases type with
  | accelerometer | magneticField | orientation | gyroscope | gravity
  | linearAcceleration | heartRate =>
      exact faithful_withStatus (by decide) rfl rfl
  | gameRotationVector => exact faithful_vec4 rfl rfl
  | rotationVector | geomagneticRotationVector | pose6Dof =>
      exact faithful_oneByOne (by decide) rfl rfl
  | magneticFieldUncalibrated | gyroscopeUncalibrated
  | accelerometerUncalibrated =>
      exact faithful_oneByOne (by decide) rfl (convertUncal_eq payload)
  | deviceOrientation | light | pressure | temperature | proximity
  | relativeHumidity | ambientTemperature | significantMotion
  | stepDetector | tiltDetector | wakeGesture | glanceGesture
  | pickUpGesture | wristTiltGesture | stationaryDetect | motionDetect
  | heartBeat | lowLatencyOffbodyDetect =>
      exact faithful_scalar rfl rfl
  | stepCounter => exact faithful_stepCounter
  | metaData | other value => exact iff_of_true (Or.inr rfl) trivial

/-- Five steps are counted as one. -/
theorem five_steps_counted_as_one :
    ¬ Faithful (fun _ => ()) .stepCounter (.int 5)
      ⟨fun _ => (), 0, 0⟩ := by
  rw [faithful_stepCounter]
  intro one
  exact absurd (one (by decide)) (by decide)

end

end Anbox.SensorHal.PayloadConversion
