import Anbox.Foundation.Counting
import Anbox.Foundation.OrderedMap
import Anbox.Foundation.Runs
import Std.Data.TreeMap.Lemmas
import Mathlib.Algebra.Order.Ring.Nat
import Mathlib.Data.List.Basic

/-!
# Activation and sampling of sensors

The sensors HAL keeps its sensors in a list and takes the handles of its calls
as indices.  `activate` and `batch` run under one lock.  They count the
sensors that are enabled and keep the recurrent timer, which has one entry for
each sensor that is to be sampled.

Nothing checks a handle, and an interval of zero is a division by zero when an
entry is registered.
-/

namespace Anbox.SensorHal.Activation

open Std
open Anbox.Foundation.Counting
open Anbox.Foundation.OrderedMap
open Anbox.Foundation.Runs

/-! ## Sensors -/

/-- `SensorType`. -/
inductive SensorType where
  | metaData
  | accelerometer
  | magneticField
  | orientation
  | gyroscope
  | light
  | pressure
  | temperature
  | proximity
  | gravity
  | linearAcceleration
  | rotationVector
  | relativeHumidity
  | ambientTemperature
  | magneticFieldUncalibrated
  | gameRotationVector
  | gyroscopeUncalibrated
  | significantMotion
  | stepDetector
  | stepCounter
  | geomagneticRotationVector
  | heartRate
  | tiltDetector
  | wakeGesture
  | glanceGesture
  | pickUpGesture
  | wristTiltGesture
  | deviceOrientation
  | pose6Dof
  | stationaryDetect
  | motionDetect
  | heartBeat
  | lowLatencyOffbodyDetect
  | accelerometerUncalibrated
  /-- The configuration may give any number. -/
  | other (value : Int32)
deriving DecidableEq, Repr

def isContiniousSensor : SensorType → Bool
  | .accelerometer | .magneticField | .orientation | .gyroscope
  | .pressure | .gravity | .linearAcceleration | .rotationVector
  | .magneticFieldUncalibrated | .gameRotationVector
  | .gyroscopeUncalibrated | .geomagneticRotationVector | .pose6Dof
  | .heartBeat | .accelerometerUncalibrated => true
  | _ => false

def isOnChangeSensor : SensorType → Bool
  | .light | .proximity | .relativeHumidity | .ambientTemperature
  | .stepCounter | .heartRate | .deviceOrientation
  | .lowLatencyOffbodyDetect => true
  | _ => false

def isRecurrentEventNeeded (type : SensorType) : Bool :=
  isContiniousSensor type || isOnChangeSensor type

/-- The members of `ExtendedSensorInfo` that the calls look at. -/
structure ExtendedSensorInfo (Payload : Type) where
  type : SensorType
  enabled : Bool
  samplingPeriodNs : Int64
  maxReportLatencyNs : Int64
  eventPayload : Payload

/-- A sensor as `buildSensorsFromConfig` puts it into the list. -/
def ExtendedSensorInfo.configured {Payload : Type} (type : SensorType)
    (payload : Payload) : ExtendedSensorInfo Payload :=
  ⟨type, false, 0, 0, payload⟩

/-! ## The recurrent timer -/

structure RecurrentEvent where
  interval : Int64
  cookie : Int32
  absoluteTime : Int64
deriving DecidableEq

abbrev RecurrentTimer := TreeMap Int32 RecurrentEvent

/-- Undefined behaviour that a call may run into. -/
inductive Fault where
  | outOfRange
  | divisionByZero
deriving DecidableEq, Repr

def registerRecurrentEvent (interval : Int64) (cookie : Int32)
    (now : Int64) (timer : RecurrentTimer) : Except Fault RecurrentTimer :=
  if interval = 0 then .error .divisionByZero
  else .ok (timer.insert cookie ⟨interval, cookie, now - now % interval⟩)

def unregisterRecurrentEvent (cookie : Int32) (timer : RecurrentTimer) :
    RecurrentTimer :=
  timer.erase cookie

/-! ## The calls -/

/-- The members of `Sensors` that are guarded by `mLock`. -/
structure Sensors (Payload : Type) where
  sensorList : List (ExtendedSensorInfo Payload)
  activeSensors : UInt32
  recurrentTimer : RecurrentTimer

/-- `Result`. -/
inductive Result where
  | ok
  | invalidOperation
deriving DecidableEq, Repr

variable {Payload : Type}

/-- The index that a handle is. -/
def index (handle : Int32) : Nat := handle.toInt.toNat

/-- The sensor of a handle, if the handle is in range. -/
def Sensors.sensorAt (sensors : Sensors Payload) (handle : Int32) :
    Option (ExtendedSensorInfo Payload) :=
  if handle < 0 then none else sensors.sensorList[index handle]?

/-- Assignments to members of the sensor of a handle. -/
def Sensors.setSensor (sensors : Sensors Payload) (handle : Int32)
    (change : ExtendedSensorInfo Payload → ExtendedSensorInfo Payload) :
    Sensors Payload :=
  { sensors with
    sensorList := sensors.sensorList.modify (index handle) change }

def activate (handle : Int32) (enabled : Bool) (now : Int64)
    (sensors : Sensors Payload) : Except Fault (Result × Sensors Payload) :=
  match sensors.sensorAt handle with
  | none => .error .outOfRange
  | some sensor =>
      if sensor.enabled ≠ enabled then
        let changed :=
          { sensors.setSensor handle ({ · with enabled := enabled }) with
            activeSensors :=
              if enabled then sensors.activeSensors + 1
              else sensors.activeSensors - 1 }
        if isRecurrentEventNeeded sensor.type &&
            sensor.samplingPeriodNs ≠ 0 then
          if enabled then do
            let timer ←
              registerRecurrentEvent sensor.samplingPeriodNs handle now
                sensors.recurrentTimer
            return (.ok, { changed with recurrentTimer := timer })
          else
            .ok (.ok,
              { changed with
                recurrentTimer :=
                  unregisterRecurrentEvent handle
                    sensors.recurrentTimer })
        else .ok (.ok, changed)
      else .ok (.ok, sensors)

def batch (handle : Int32) (samplingPeriodNs maxReportLatencyNs : Int64)
    (now : Int64) (sensors : Sensors Payload) :
    Except Fault (Result × Sensors Payload) :=
  match sensors.sensorAt handle with
  | none => .error .outOfRange
  | some sensor =>
      if isRecurrentEventNeeded sensor.type then do
        let timer ←
          if sensor.enabled then
            registerRecurrentEvent samplingPeriodNs handle now
              (if sensor.samplingPeriodNs ≠ 0 then
                unregisterRecurrentEvent handle sensors.recurrentTimer
              else sensors.recurrentTimer)
          else .ok sensors.recurrentTimer
        return (.ok,
          { sensors.setSensor handle fun sensor =>
              { sensor with
                samplingPeriodNs := samplingPeriodNs
                maxReportLatencyNs := maxReportLatencyNs } with
            recurrentTimer := timer })
      else .ok (.invalidOperation, sensors)

/-! ## Runs -/

/-- The calls of the framework, each with the time at which it runs. -/
inductive Call where
  | activate (handle : Int32) (enabled : Bool) (now : Int64)
  | batch (handle : Int32) (samplingPeriodNs maxReportLatencyNs now : Int64)
deriving DecidableEq

def call (sensors : Sensors Payload) :
    Call → Except Fault (Result × Sensors Payload)
  | .activate handle enabled now => activate handle enabled now sensors
  | .batch handle samplingPeriodNs maxReportLatencyNs now =>
      batch handle samplingPeriodNs maxReportLatencyNs now sensors

/-- Nothing can be said of a HAL after a fault. -/
def step (state : Except Fault (Sensors Payload)) (made : Call) :
    Except Fault (Sensors Payload) := do
  let sensors ← state
  let result ← call sensors made
  return result.2

/-- The HAL as it is constructed from a configuration. -/
def Sensors.configured (types : List (SensorType × Payload)) :
    Sensors Payload :=
  { sensorList := types.map fun sensor => .configured sensor.1 sensor.2
    activeSensors := 0
    recurrentTimer := ∅ }

def reached (types : List (SensorType × Payload)) (calls : List Call) :
    Except Fault (Sensors Payload) :=
  runFrom step (.ok (Sensors.configured types)) calls

/-! ## What is kept -/

/-- The interval at which a sensor is to be sampled, if it is. -/
def ExtendedSensorInfo.wanted (sensor : ExtendedSensorInfo Payload) :
    Option Int64 :=
  if sensor.enabled && isRecurrentEventNeeded sensor.type &&
      sensor.samplingPeriodNs ≠ 0 then
    some sensor.samplingPeriodNs
  else none

/-- The enabled sensors are counted and the timer has the wanted entries. -/
structure Agreeing (sensors : Sensors Payload) : Prop where
  active :
    sensors.activeSensors.toNat =
      sensors.sensorList.countP fun sensor => sensor.enabled
  timer :
    ∀ handle,
      sensors.recurrentTimer[handle]?.map RecurrentEvent.interval =
        (sensors.sensorAt handle).bind ExtendedSensorInfo.wanted

/-- No call has been at fault, and the members agree. -/
def Consistent : Except Fault (Sensors Payload) → Prop
  | .ok sensors => Agreeing sensors
  | .error _ => False

/--
Handles are in range, and a sensor that is sampled is not given a period of
zero.
-/
def CallsSensibly (sensors : Sensors Payload) : Call → Prop
  | .activate handle _ _ => (sensors.sensorAt handle).isSome = true
  | .batch handle samplingPeriodNs _ _ =>
      ∃ sensor, sensors.sensorAt handle = some sensor ∧
        (samplingPeriodNs = 0 →
          ¬(sensor.enabled = true ∧
            isRecurrentEventNeeded sensor.type = true))

/-- The same of a HAL that may have been at fault. -/
def Sensible : Except Fault (Sensors Payload) → Call → Prop
  | .ok sensors, made => CallsSensibly sensors made
  | .error _, _ => True

/-! ## Changes to one sensor -/

section Changes

variable {sensors result : Sensors Payload} {handle : Int32}
variable {sensor : ExtendedSensorInfo Payload}
variable {change : ExtendedSensorInfo Payload → ExtendedSensorInfo Payload}

theorem index_lt (handle : Int32) : index handle < 2 ^ 31 := by
  have below := handle.toInt_lt
  unfold index
  omega

theorem nonneg_of_sensorAt (found : sensors.sensorAt handle = some sensor) :
    0 ≤ handle.toInt ∧ sensors.sensorList[index handle]? = some sensor := by
  unfold Sensors.sensorAt at found
  split at found
  · cases found
  · rename_i notNegative
    refine ⟨?_, found⟩
    have comparison : ¬handle.toInt < (0 : Int32).toInt := fun less =>
      notNegative (Int32.lt_iff_toInt_lt.mpr less)
    simpa using comparison

/-- Handles of sensors are different indices. -/
theorem index_ne {other : Int32} (first : 0 ≤ handle.toInt)
    (second : 0 ≤ other.toInt) (different : other ≠ handle) :
    index other ≠ index handle := by
  intro same
  apply different
  apply Int32.toInt_inj.mp
  unfold index at same
  omega

/-- A change is seen under its own handle only. -/
theorem sensorAt_setSensor (found : sensors.sensorAt handle = some sensor)
    (changed :
      result.sensorList = sensors.sensorList.modify (index handle) change)
    (other : Int32) :
    result.sensorAt other =
      if other = handle then some (change sensor)
      else sensors.sensorAt other := by
  rcases nonneg_of_sensorAt found with ⟨nonneg, stored⟩
  by_cases same : other = handle
  · subst same
    rw [if_pos rfl]
    unfold Sensors.sensorAt at found ⊢
    split at found
    · cases found
    · rename_i notNegative
      rw [if_neg notNegative, changed, List.getElem?_modify, stored]
      simp
  · rw [if_neg same]
    unfold Sensors.sensorAt
    split
    · rfl
    · rename_i notNegative
      have otherNonneg : 0 ≤ other.toInt := by
        have comparison : ¬other.toInt < (0 : Int32).toInt := fun less =>
          notNegative (Int32.lt_iff_toInt_lt.mpr less)
        simpa using comparison
      have apart := index_ne nonneg otherNonneg same
      rw [changed, List.getElem?_modify_ne _ _ (Ne.symm apart)]

/-- Sensors are enabled by their handles, of which there are not too many. -/
def EnabledLow (sensors : Sensors Payload) : Prop :=
  ∀ position sensor, sensors.sensorList[position]? = some sensor →
    sensor.enabled = true → position < 2 ^ 31

theorem EnabledLow.changed (low : EnabledLow sensors)
    (changed :
      result.sensorList =
        sensors.sensorList.modify (index handle) change) :
    EnabledLow result := by
  intro position sensor found enabled
  by_cases same : position = index handle
  · rw [same]
    exact index_lt handle
  · rw [changed, List.getElem?_modify_ne _ _ (Ne.symm same)] at found
    exact low position sensor found enabled

/--
The members agree after a change to one sensor if the count follows the
change, and the timer too, under the handle of the sensor only.
-/
theorem Agreeing.changed (agreeing : Agreeing sensors)
    (found : sensors.sensorAt handle = some sensor)
    (changed :
      result.sensorList =
        sensors.sensorList.modify (index handle) change)
    (counted :
      result.activeSensors.toNat + (if sensor.enabled then 1 else 0) =
        sensors.activeSensors.toNat +
          if (change sensor).enabled then 1 else 0)
    (own :
      result.recurrentTimer[handle]?.map RecurrentEvent.interval =
        (change sensor).wanted)
    (others :
      ∀ other, other ≠ handle →
        result.recurrentTimer[other]? = sensors.recurrentTimer[other]?) :
    Agreeing result := by
  constructor
  case active =>
    have moved :=
      countP_modify (nonneg_of_sensorAt found).2 change
        fun sensor => sensor.enabled
    have before := agreeing.active
    rw [changed]
    omega
  case timer =>
    intro other
    rw [sensorAt_setSensor found changed other]
    by_cases same : other = handle
    · rw [if_pos same, same]
      exact own
    · rw [if_neg same, others other same]
      exact agreeing.timer other

/-- One more or one less enabled sensor does not wrap the counter. -/
theorem counted_toggle (agreeing : Agreeing sensors)
    (low : EnabledLow sensors)
    (found : sensors.sensorAt handle = some sensor) {enabled : Bool}
    (toggled : sensor.enabled ≠ enabled) :
    (if enabled then sensors.activeSensors + 1
        else sensors.activeSensors - 1).toNat +
        (if sensor.enabled then 1 else 0) =
      sensors.activeSensors.toNat + if enabled then 1 else 0 := by
  have few : sensors.activeSensors.toNat ≤ 2 ^ 31 := by
    rw [agreeing.active]
    exact countP_le_of_index_lt low
  cases enabled with
  | true =>
      have off : sensor.enabled = false := by simpa using toggled
      rw [off]
      simp [UInt32.toNat_add]
      omega
  | false =>
      have on : sensor.enabled = true := by simpa using toggled
      have some : 0 < sensors.activeSensors.toNat := by
        rw [agreeing.active]
        exact List.countP_pos_iff.mpr
          ⟨sensor, List.mem_of_getElem? (nonneg_of_sensorAt found).2, on⟩
      have least : (1 : UInt32) ≤ sensors.activeSensors :=
        UInt32.le_iff_toNat_le.mpr some
      rw [on]
      simp [UInt32.toNat_sub_of_le _ _ least]
      omega

/-- What the timer has for the sensor of a handle is what is wanted. -/
theorem Agreeing.timerAt (agreeing : Agreeing sensors)
    (found : sensors.sensorAt handle = some sensor) :
    sensors.recurrentTimer[handle]?.map RecurrentEvent.interval =
      sensor.wanted := by
  rw [agreeing.timer handle, found]
  rfl

end Changes

/-! ## The calls keep the agreement -/

section Calls

variable {sensors : Sensors Payload} {handle : Int32}
variable {sensor : ExtendedSensorInfo Payload}

/-- A registered entry has its interval and leaves the others alone. -/
theorem registerRecurrentEvent_ok {interval now : Int64}
    (nonzero : interval ≠ 0) (cookie : Int32) (timer : RecurrentTimer) :
    ∃ registered,
      registerRecurrentEvent interval cookie now timer = .ok registered ∧
      registered[cookie]?.map RecurrentEvent.interval = some interval ∧
      ∀ other, other ≠ cookie → registered[other]? = timer[other]? := by
  refine ⟨_, if_neg nonzero, ?_, ?_⟩
  · rw [getElem?_insert_eq, if_pos rfl]
    rfl
  · intro other different
    rw [getElem?_insert_eq, if_neg different]

/-- The result of a call that is in range, with what it changes. -/
theorem activate_ok (agreeing : Agreeing sensors) (low : EnabledLow sensors)
    (found : sensors.sensorAt handle = some sensor) (enabled : Bool)
    (now : Int64) :
    ∃ result, activate handle enabled now sensors = .ok (.ok, result) ∧
      Agreeing result ∧ EnabledLow result := by
  unfold activate
  rw [found]
  dsimp only
  by_cases toggled : sensor.enabled = enabled
  · rw [if_neg (by simpa using toggled)]
    exact ⟨sensors, rfl, agreeing, low⟩
  · rw [if_pos toggled]
    have counted := counted_toggle agreeing low found toggled
    have before := agreeing.timerAt found
    by_cases needed :
        (isRecurrentEventNeeded sensor.type &&
          sensor.samplingPeriodNs ≠ 0) = true
    · rw [if_pos needed]
      rcases Bool.and_eq_true_iff.mp needed with ⟨recurrent, nonzero⟩
      cases enabled with
      | true =>
          rcases @registerRecurrentEvent_ok sensor.samplingPeriodNs now
              (by simpa using nonzero) handle sensors.recurrentTimer with
            ⟨timer, registered, own, others⟩
          rw [if_pos rfl, registered]
          refine ⟨_, rfl, ?_, low.changed rfl⟩
          refine agreeing.changed found rfl counted ?_ others
          rw [own]
          simp [ExtendedSensorInfo.wanted, recurrent]
          simpa using nonzero
      | false =>
          rw [if_neg (by simp)]
          refine ⟨_, rfl, ?_, low.changed rfl⟩
          refine agreeing.changed found rfl counted ?_ ?_
          · simp [unregisterRecurrentEvent, ExtendedSensorInfo.wanted]
          · intro other different
            exact getElem?_erase_of_ne different
    · rw [if_neg needed]
      refine ⟨_, rfl, ?_, low.changed rfl⟩
      refine agreeing.changed found rfl counted ?_ fun _ _ => rfl
      have unwanted : ∀ flag,
          ({ sensor with enabled := flag } :
            ExtendedSensorInfo Payload).wanted = none := by
        intro flag
        unfold ExtendedSensorInfo.wanted
        rw [if_neg]
        intro wanted
        apply needed
        simp only [Bool.and_assoc, Bool.and_eq_true] at wanted ⊢
        exact wanted.2
      rw [unwanted enabled]
      have none : sensor.wanted = none := unwanted sensor.enabled
      exact before.trans none

/-- A call with a period that can be registered changes it. -/
theorem batch_ok (agreeing : Agreeing sensors) (low : EnabledLow sensors)
    (found : sensors.sensorAt handle = some sensor)
    {samplingPeriodNs : Int64}
    (sampled :
      samplingPeriodNs = 0 →
        ¬(sensor.enabled = true ∧
          isRecurrentEventNeeded sensor.type = true))
    (maxReportLatencyNs now : Int64) :
    ∃ answer result,
      batch handle samplingPeriodNs maxReportLatencyNs now sensors =
        .ok (answer, result) ∧
      Agreeing result ∧ EnabledLow result := by
  unfold batch
  rw [found]
  dsimp only
  have before := agreeing.timerAt found
  by_cases recurrent : isRecurrentEventNeeded sensor.type = true
  · rw [if_pos recurrent]
    by_cases enabled : sensor.enabled = true
    · have nonzero : samplingPeriodNs ≠ 0 := fun zero =>
        sampled zero ⟨enabled, recurrent⟩
      rcases @registerRecurrentEvent_ok samplingPeriodNs now nonzero handle
          (if sensor.samplingPeriodNs ≠ 0 then
            unregisterRecurrentEvent handle sensors.recurrentTimer
          else sensors.recurrentTimer) with
        ⟨timer, registered, own, others⟩
      rw [if_pos enabled, registered]
      refine ⟨_, _, rfl, ?_, low.changed rfl⟩
      refine agreeing.changed found rfl rfl ?_ ?_
      · rw [own]
        simp [ExtendedSensorInfo.wanted, recurrent, enabled, nonzero]
      · intro other different
        rw [others other different]
        split
        · exact getElem?_erase_of_ne different
        · rfl
    · rw [if_neg enabled]
      refine ⟨_, _, rfl, ?_, low.changed rfl⟩
      refine agreeing.changed found rfl rfl ?_ fun _ _ => rfl
      rw [before]
      simp [ExtendedSensorInfo.wanted, enabled]
  · rw [if_neg recurrent]
    exact ⟨_, _, rfl, agreeing, low⟩

/-- Other calls are at fault. -/
theorem callsSensibly_of_ok {made : Call} {result : Result × Sensors Payload}
    (returned : call sensors made = .ok result) :
    CallsSensibly sensors made := by
  cases made with
  | activate handle enabled now =>
      cases found : sensors.sensorAt handle with
      | none => simp [call, activate, found] at returned
      | some sensor => simp [CallsSensibly, found]
  | batch handle samplingPeriodNs maxReportLatencyNs now =>
      cases found : sensors.sensorAt handle with
      | none => simp [call, batch, found] at returned
      | some sensor =>
          refine ⟨sensor, found, ?_⟩
          rintro rfl ⟨enabled, recurrent⟩
          simp [call, batch, found, enabled, recurrent,
            registerRecurrentEvent, bind, Except.bind] at returned

end Calls

/-! ## Whole runs -/

/-- The members agree, and few sensors are enabled. -/
def Sound : Except Fault (Sensors Payload) → Prop
  | .ok sensors => Agreeing sensors ∧ EnabledLow sensors
  | .error _ => False

theorem sound_configured (types : List (SensorType × Payload)) :
    Sound (.ok (Sensors.configured types)) := by
  have disabled :
      ∀ sensor ∈ (Sensors.configured types).sensorList,
        sensor.enabled = false := by
    intro sensor member
    rcases List.mem_map.mp member with ⟨type, _, rfl⟩
    rfl
  refine ⟨⟨?_, ?_⟩, ?_⟩
  · symm
    apply List.countP_eq_zero.mpr
    intro sensor member enabled
    rw [disabled sensor member] at enabled
    cases enabled
  · intro handle
    cases found : (Sensors.configured types).sensorAt handle with
    | none => simp [Sensors.configured]
    | some sensor =>
        have off :=
          disabled sensor
            (List.mem_of_getElem? (nonneg_of_sensorAt found).2)
        simp [Sensors.configured, ExtendedSensorInfo.wanted, off]
  · intro position sensor found enabled
    rw [disabled sensor (List.mem_of_getElem? found)] at enabled
    cases enabled

theorem Sound.step {state : Except Fault (Sensors Payload)}
    (sound : Sound state) (made : Call) (sensible : Sensible state made) :
    Sound (step state made) := by
  cases state with
  | error fault => exact sound
  | ok sensors =>
      rcases sound with ⟨agreeing, low⟩
      cases made with
      | activate handle enabled now =>
          rcases Option.isSome_iff_exists.mp sensible with ⟨sensor, found⟩
          rcases activate_ok agreeing low found enabled now with
            ⟨result, returned, kept⟩
          simp only [Activation.step, call, bind, Except.bind, returned]
          exact kept
      | batch handle samplingPeriodNs maxReportLatencyNs now =>
          rcases sensible with ⟨sensor, found, sampled⟩
          rcases batch_ok agreeing low found sampled maxReportLatencyNs
              now with
            ⟨answer, result, returned, kept⟩
          simp only [Activation.step, call, bind, Except.bind, returned]
          exact kept

/--
No call is at fault and the count and the timer agree with the sensors, all
through a run, if and only if every handle is in range and no enabled sensor
that is sampled is given a period of zero.
-/
theorem consistent_always_iff_sensible (types : List (SensorType × Payload))
    (calls : List Call) :
    (∀ earlier, earlier <+: calls → Consistent (reached types earlier)) ↔
      Admitted step Sensible (.ok (Sensors.configured types)) calls := by
  refine @always_iff_admitted (Except Fault (Sensors Payload)) Call step
    Sensible Sound Consistent ?_ (fun _ made sound => sound.step made) ?_
    (.ok (Sensors.configured types)) (sound_configured types) calls
  · intro state sound
    cases state with
    | ok sensors => exact sound.1
    | error fault => exact sound
  · intro state made sound consistent
    cases state with
    | error fault => exact sound.elim
    | ok sensors =>
        cases returned : call sensors made with
        | ok result => exact callsSensibly_of_ok returned
        | error fault =>
            simp only [step, bind, Except.bind, returned] at consistent
            exact consistent.elim

/--
A handle out of range is an access out of range, and a period of zero for an
enabled sensor is a division by zero.
-/
theorem handle_and_period_unchecked :
    reached [(.light, ())] [.activate (-1) true 0] =
      .error .outOfRange ∧
    reached [(.light, ())] [.activate 0 true 0, .batch 0 0 0 0] =
      .error .divisionByZero ∧
    ¬Consistent (reached [(.light, ())] [.activate (-1) true 0]) := by
  have outside :
      reached [(.light, ())] [.activate (-1) true 0] =
        .error .outOfRange := by
    rfl
  refine ⟨outside, rfl, ?_⟩
  rw [outside]
  exact id

end Anbox.SensorHal.Activation
