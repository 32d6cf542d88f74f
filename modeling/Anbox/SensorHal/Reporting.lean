import Anbox.Foundation.Fallible
import Anbox.SensorHal.Activation
import Anbox.SensorHal.EventQueue

/-!
# Who reports events

Events come from three places.  A notification of VIS is an event of a sensor
that is not continuous, the recurrent timer makes events of the continuous
sensors, and `flush` makes an event that says that it is complete.

The threads meet at locks only.  `activate` holds `mLock`, and sets the flag of
a sensor before it looks after the timer.  The timer's thread collects the
cookies that are due under a lock of its own and makes the events afterwards.
The threads of VIS convert a value before they insert its event.  So an event
may be on its way when its sensor is deactivated, and `subscriptionHandler`
does not look at the flag at all.
-/

namespace Anbox.SensorHal.Reporting

open Std
open Anbox.Foundation.Fallible
open Anbox.Foundation.OrderedMap
open Anbox.Foundation.Runs
open Anbox.SensorHal.Activation
open Anbox.SensorHal.EventQueue (insertEventUnlocked)

variable {Payload Json : Type}

/-! ## The two halves of an activation -/

/--
The first half of `activate`.  The flag of the result says whether the timer
is to be looked after.
-/
def activateFlag (handle : Int32) (enabled : Bool)
    (sensors : Sensors Payload) : Except Fault (Bool × Sensors Payload) :=
  match sensors.sensorAt handle with
  | none => .error .outOfRange
  | some sensor =>
      if sensor.enabled ≠ enabled then
        .ok
          (isRecurrentEventNeeded sensor.type &&
              sensor.samplingPeriodNs ≠ 0,
            { sensors.setSensor handle ({ · with enabled := enabled }) with
              activeSensors :=
                if enabled then sensors.activeSensors + 1
                else sensors.activeSensors - 1 })
      else .ok (false, sensors)

/-- The second half of `activate`. -/
def activateTimer (handle : Int32) (enabled : Bool) (now : Int64)
    (sensors : Sensors Payload) : Except Fault (Sensors Payload) :=
  match sensors.sensorAt handle with
  | none => .error .outOfRange
  | some sensor =>
      if enabled then do
        let timer ←
          registerRecurrentEvent sensor.samplingPeriodNs handle now
            sensors.recurrentTimer
        return { sensors with recurrentTimer := timer }
      else
        .ok
          { sensors with
            recurrentTimer :=
              unregisterRecurrentEvent handle sensors.recurrentTimer }

/-- The two halves make up `activate`. -/
theorem activate_eq_halves (handle : Int32) (enabled : Bool) (now : Int64)
    (sensors : Sensors Payload) :
    activate handle enabled now sensors = do
      let first ← activateFlag handle enabled sensors
      if first.1 then
        let last ← activateTimer handle enabled now first.2
        return (.ok, last)
      else return (.ok, first.2) := by
  unfold activate activateFlag
  cases found : sensors.sensorAt handle with
  | none => rfl
  | some sensor =>
      dsimp only
      by_cases toggled : sensor.enabled = enabled
      · rw [if_neg (not_not_intro toggled), if_neg (not_not_intro toggled)]
        rfl
      · rw [if_pos toggled, if_pos toggled]
        simp only [bind, Except.bind]
        by_cases needed :
            (isRecurrentEventNeeded sensor.type &&
              sensor.samplingPeriodNs ≠ 0) = true
        · rw [if_pos needed, if_pos needed, activateTimer,
            sensorAt_setSensor found rfl handle, if_pos rfl]
          cases enabled with
          | true =>
              simp only [if_true, Sensors.setSensor, bind, Except.bind]
              cases registerRecurrentEvent sensor.samplingPeriodNs handle
                  now sensors.recurrentTimer with
              | ok timer => rfl
              | error fault => rfl
          | false => rfl
        · rw [if_neg needed, if_neg needed]
          rfl

/-! ## Events -/

/-- The payload of an event. -/
inductive EventPayload (Payload : Type) where
  | sensor (payload : Payload)
  /-- `META_DATA_FLUSH_COMPLETE`. -/
  | flushComplete

structure Event (Payload : Type) where
  sensorHandle : Int32
  sensorType : SensorType
  timestamp : Int64
  payload : EventPayload Payload

/-- An event that was inserted, and whether its sensor was enabled then. -/
structure Report (Payload : Type) where
  event : Event Payload
  enabled : Bool

structure Hal (Payload : Type) where
  sensors : Sensors Payload
  /-- A call of `activate` that has set the flag of a sensor. -/
  activation : Option (Int32 × Bool)
  /-- The cookies that the timer's thread has still to deal with. -/
  pending : List Int32
  /-- The sensors whose values the threads of VIS have converted. -/
  converted : List Int32
  eventQueue : List (Event Payload)
  reports : List (Report Payload)

/-- The sensor of a handle is enabled. -/
def Hal.isEnabled (hal : Hal Payload) (handle : Int32) : Bool :=
  (hal.sensors.sensorAt handle).any (·.enabled)

def Hal.insertEvent (hal : Hal Payload) (event : Event Payload) :
    Hal Payload :=
  { hal with
    eventQueue := insertEventUnlocked event hal.eventQueue
    reports := hal.reports ++ [⟨event, hal.isEnabled event.sensorHandle⟩] }

/-! ## The recurrent timer -/

/-- `updateNextEventTime`. -/
def updateNextEventTime (now : Int64) (event : RecurrentEvent) :
    RecurrentEvent :=
  let quotient := ((now - event.absoluteTime) / event.interval).toInt32
  let intervalMultiplier := if quotient ≤ 0 then 1 else quotient
  { event with
    absoluteTime :=
      event.absoluteTime + intervalMultiplier.toInt64 * event.interval }

def isDue (timer : RecurrentTimer) (now : Int64) (cookie : Int32) : Bool :=
  timer[cookie]?.any fun event => event.absoluteTime ≤ now

/-- The entry of a cookie that was collected waits for its next time. -/
def rearm (now : Int64) (timer : RecurrentTimer) (cookie : Int32) :
    RecurrentTimer :=
  match timer[cookie]? with
  | some event => timer.insert cookie (updateNextEventTime now event)
  | none => timer

/-! ## The steps of the threads -/

/-- A sensor of the configuration: its VIS property, type and payload. -/
abbrev Configuration (Payload : Type) := List (String × SensorType × Payload)

/-- `mVisToSensorHandle`: the first sensor with a property. -/
def visToSensorHandle (configuration : Configuration Payload)
    (name : String) : Option Int32 :=
  (configuration.findIdx? fun sensor => sensor.1 = name).map fun position =>
    Int32.ofNat position

def Hal.configured (configuration : Configuration Payload) : Hal Payload :=
  { sensors := .configured (configuration.map Prod.snd)
    activation := none
    pending := []
    converted := []
    eventQueue := []
    reports := [] }

/-- What a thread does between two locks. -/
inductive Step (Json : Type) where
  | activate (handle : Int32) (enabled : Bool)
  | activateTimer (now : Int64)
  | batch (handle : Int32) (samplingPeriodNs maxReportLatencyNs now : Int64)
  | flush (handle : Int32)
  /-- A value of a notification is converted. -/
  | value (name : String) (json : Json)
  /-- The event of a converted value is inserted. -/
  | notify (position : Nat) (timestamp : Int64)
  /-- The timer's thread collects cookies that are due. -/
  | collect (now : Int64) (cookies : List Int32)
  /-- The timer's thread deals with its next cookie. -/
  | expire (timestamp : Int64)

section Steps

-- `convertJsonToSensorPayload`, with the payload that it leaves behind
variable (convert : SensorType → Json → Payload → Bool × Payload)
variable (configuration : Configuration Payload) (hal : Hal Payload)

def Hal.activate (handle : Int32) (enabled : Bool) :
    Except Fault (Hal Payload) :=
  -- another call holds the lock
  if hal.activation.isSome then .ok hal
  else do
    let first ← activateFlag handle enabled hal.sensors
    return { hal with
      sensors := first.2
      activation := if first.1 then some (handle, enabled) else none }

def Hal.activateTimer (now : Int64) : Except Fault (Hal Payload) :=
  match hal.activation with
  | none => .ok hal
  | some (handle, enabled) => do
      let sensors ← Reporting.activateTimer handle enabled now hal.sensors
      return { hal with sensors := sensors, activation := none }

def Hal.batch (handle : Int32)
    (samplingPeriodNs maxReportLatencyNs now : Int64) :
    Except Fault (Hal Payload) :=
  if hal.activation.isSome then .ok hal
  else do
    let result ←
      Activation.batch handle samplingPeriodNs maxReportLatencyNs now
        hal.sensors
    return { hal with sensors := result.2 }

def Hal.flush (handle : Int32) : Hal Payload :=
  hal.insertEvent ⟨handle, .metaData, 0, .flushComplete⟩

/-- The part of `subscriptionHandler` before the event is inserted. -/
def Hal.value (name : String) (json : Json) : Except Fault (Hal Payload) :=
  match visToSensorHandle configuration name with
  | none => .ok hal
  | some handle =>
      match hal.sensors.sensorAt handle with
      | none => .error .outOfRange
      | some sensor =>
          let result := convert sensor.type json sensor.eventPayload
          .ok
            { hal with
              sensors :=
                hal.sensors.setSensor handle
                  ({ · with eventPayload := result.2 })
              converted :=
                if result.1 && !isContiniousSensor sensor.type then
                  hal.converted ++ [handle]
                else hal.converted }

/-- The event of a sensor with its payload. -/
def Hal.report (handle : Int32) (timestamp : Int64)
    (sensor : ExtendedSensorInfo Payload) : Hal Payload :=
  hal.insertEvent
    ⟨handle, sensor.type, timestamp, .sensor sensor.eventPayload⟩

def Hal.notify (position : Nat) (timestamp : Int64) :
    Except Fault (Hal Payload) :=
  match hal.converted[position]? with
  | none => .ok hal
  | some handle =>
      match hal.sensors.sensorAt handle with
      | none => .error .outOfRange
      | some sensor =>
          .ok
            { hal.report handle timestamp sensor with
              converted := hal.converted.eraseIdx position }

/--
The first part of `RecurrentTimer::loop`.  The order of the cookies is that of
an unordered map, and the thread misses an entry that is just being replaced.
-/
def Hal.collect (now : Int64) (cookies : List Int32) : Hal Payload :=
  if hal.pending = [] ∧ cookies.Nodup ∧
      cookies.all (isDue hal.sensors.recurrentTimer now) then
    { hal with
      sensors :=
        { hal.sensors with
          recurrentTimer :=
            cookies.foldl (rearm now) hal.sensors.recurrentTimer }
      pending := cookies }
  else hal

/-- One turn of the loop of `onContinuousPropertyTimer`. -/
def Hal.expire (timestamp : Int64) : Except Fault (Hal Payload) :=
  match hal.pending with
  | [] => .ok hal
  | cookie :: pending =>
      match hal.sensors.sensorAt cookie with
      | none => .error .outOfRange
      | some sensor =>
          if isContiniousSensor sensor.type then
            .ok
              { hal.report cookie timestamp sensor with pending := pending }
          else .ok { hal with pending := pending }

def Hal.step : Step Json → Except Fault (Hal Payload)
  | .activate handle enabled => hal.activate handle enabled
  | .activateTimer now => hal.activateTimer now
  | .batch handle samplingPeriodNs maxReportLatencyNs now =>
      hal.batch handle samplingPeriodNs maxReportLatencyNs now
  | .flush handle => .ok (hal.flush handle)
  | .value name json => hal.value convert configuration name json
  | .notify position timestamp => hal.notify position timestamp
  | .collect now cookies => .ok (hal.collect now cookies)
  | .expire timestamp => hal.expire timestamp

/-- Nothing can be said of a HAL after a fault. -/
def step (state : Except Fault (Hal Payload)) (made : Step Json) :
    Except Fault (Hal Payload) := do
  let hal ← state
  hal.step convert configuration made

def reached (steps : List (Step Json)) : Except Fault (Hal Payload) :=
  runFrom (step convert configuration) (.ok (.configured configuration))
    steps

end Steps

/-! ## Reports of enabled sensors -/

/-- Every event is of a sensor that was enabled, or of a flush. -/
def ReportsEnabled (hal : Hal Payload) : Prop :=
  ∀ report ∈ hal.reports,
    report.enabled = true ∨
      report.event.sensorType = .metaData ∧
        report.event.payload = .flushComplete

/-- The same up to a fault. -/
def OnlyEnabledReport : Except Fault (Hal Payload) → Prop
  | .ok hal => ReportsEnabled hal
  | .error _ => True

/--
Values that become events come while their sensor is enabled.  No sensor is
deactivated while one of its events is on its way, and the timer's thread does
not collect the cookie of a sensor whose deactivation is under way.
-/
def Timely (convert : SensorType → Json → Payload → Bool × Payload)
    (configuration : Configuration Payload) (hal : Hal Payload) :
    Step Json → Prop
  | .activate handle false =>
      handle ∉ hal.converted ∧
        (handle ∈ hal.pending →
          ∀ sensor, hal.sensors.sensorAt handle = some sensor →
            isContiniousSensor sensor.type = false)
  | .value name json =>
      ∀ handle sensor,
        visToSensorHandle configuration name = some handle →
        hal.sensors.sensorAt handle = some sensor →
        isContiniousSensor sensor.type = false →
        (convert sensor.type json sensor.eventPayload).1 = true →
          sensor.enabled = true
  | .collect _ cookies =>
      ∀ cookie ∈ cookies, hal.activation = some (cookie, false) →
        ∀ sensor, hal.sensors.sensorAt cookie = some sensor →
          isContiniousSensor sensor.type = false
  | _ => True

/-- The same of a HAL that may have been at fault. -/
def TimelyOrFaulty (convert : SensorType → Json → Payload → Bool × Payload)
    (configuration : Configuration Payload) :
    Except Fault (Hal Payload) → Step Json → Prop
  | .ok hal, made => Timely convert configuration hal made
  | .error _, _ => True

/-! ## What the steps keep -/

/-- A sensor for which the timer has an entry while it is enabled. -/
def Sampled (sensor : ExtendedSensorInfo Payload) : Prop :=
  isRecurrentEventNeeded sensor.type = true ∧ sensor.samplingPeriodNs ≠ 0

/--
The timer has entries for enabled sensors, but for one that is just being
deactivated, and what is on its way is of enabled sensors.
-/
structure Sound (hal : Hal Payload) : Prop where
  entries :
    ∀ cookie event, hal.sensors.recurrentTimer[cookie]? = some event →
      ∃ sensor, hal.sensors.sensorAt cookie = some sensor ∧
        Sampled sensor ∧
        (sensor.enabled = true ∨ hal.activation = some (cookie, false))
  activating :
    ∀ handle enabled, hal.activation = some (handle, enabled) →
      ∃ sensor, hal.sensors.sensorAt handle = some sensor ∧
        Sampled sensor ∧ sensor.enabled = enabled
  pending :
    ∀ cookie ∈ hal.pending, ∀ sensor,
      hal.sensors.sensorAt cookie = some sensor →
      isContiniousSensor sensor.type = true → sensor.enabled = true
  converted :
    ∀ handle ∈ hal.converted, ∀ sensor,
      hal.sensors.sensorAt handle = some sensor → sensor.enabled = true
  reports : ReportsEnabled hal

theorem sound_configured (configuration : Configuration Payload) :
    Sound (Hal.configured configuration) := by
  constructor
  case entries =>
    intro cookie event found
    simp [Hal.configured, Sensors.configured] at found
  case activating =>
    intro handle enabled active
    cases active
  case pending =>
    intro cookie member
    cases member
  case converted =>
    intro handle member
    cases member
  case reports =>
    intro report member
    cases member

namespace Sound

variable {hal : Hal Payload} {handle : Int32}
variable {sensor : ExtendedSensorInfo Payload}

/-- An event may be inserted if it is of an enabled sensor or of a flush. -/
theorem insertEvent (sound : Sound hal) {event : Event Payload}
    (good :
      hal.isEnabled event.sensorHandle = true ∨
        event.sensorType = .metaData ∧ event.payload = .flushComplete) :
    Sound (hal.insertEvent event) := by
  refine ⟨sound.entries, sound.activating, sound.pending,
    sound.converted, ?_⟩
  intro report member
  rcases List.mem_append.mp member with before | last
  · exact sound.reports report before
  · rw [List.mem_singleton.mp last]
    exact good

theorem report (sound : Sound hal)
    (found : hal.sensors.sensorAt handle = some sensor)
    (enabled : sensor.enabled = true) (timestamp : Int64) :
    Sound (hal.report handle timestamp sensor) := by
  apply sound.insertEvent
  left
  simp [Hal.isEnabled, found, enabled]

/-- While nobody is in `activate`, entries are of enabled sensors. -/
theorem enabled_of_entry (sound : Sound hal)
    (idle : hal.activation = none) {cookie : Int32} {event : RecurrentEvent}
    (entry : hal.sensors.recurrentTimer[cookie]? = some event) :
    ∃ sensor, hal.sensors.sensorAt cookie = some sensor ∧
      Sampled sensor ∧ sensor.enabled = true := by
  rcases sound.entries cookie event entry with
    ⟨sensor, found, sampled, enabled | active⟩
  · exact ⟨sensor, found, sampled, enabled⟩
  · rw [idle] at active
    cases active

section Changes

variable {sensors : Sensors Payload}
variable {change : ExtendedSensorInfo Payload → ExtendedSensorInfo Payload}
variable (found : hal.sensors.sensorAt handle = some sensor)
variable
  (list :
    sensors.sensorList = hal.sensors.sensorList.modify (index handle) change)

include found list

/-- What is found after a change was changed or was there before. -/
theorem sensorAt_before {cookie : Int32} {other : ExtendedSensorInfo Payload}
    (after : sensors.sensorAt cookie = some other) :
    cookie = handle ∧ other = change sensor ∨
      cookie ≠ handle ∧ hal.sensors.sensorAt cookie = some other := by
  rw [sensorAt_setSensor found list cookie] at after
  by_cases same : cookie = handle
  · rw [if_pos same, Option.some.injEq] at after
    exact Or.inl ⟨same, after.symm⟩
  · rw [if_neg same] at after
    exact Or.inr ⟨same, after⟩

/-- A sensor that was there is found after a change. -/
theorem sensorAt_after {Before After : ExtendedSensorInfo Payload → Prop}
    {cookie : Int32}
    (own : cookie = handle → Before sensor → After (change sensor))
    (others : cookie ≠ handle → ∀ other, Before other → After other)
    (before :
      ∃ other, hal.sensors.sensorAt cookie = some other ∧ Before other) :
    ∃ other, sensors.sensorAt cookie = some other ∧ After other := by
  rcases before with ⟨other, otherFound, good⟩
  rw [sensorAt_setSensor found list cookie]
  by_cases same : cookie = handle
  · subst same
    obtain rfl : sensor = other :=
      Option.some.inj (found.symm.trans otherFound)
    exact ⟨change sensor, if_pos rfl, own rfl good⟩
  · exact ⟨other, (if_neg same).trans otherFound, others same other good⟩

/--
A sensor may be changed if what is on its way is of an enabled sensor
afterwards, and the timer and the activation agree with the change.
-/
theorem changed (sound : Sound hal) {activation : Option (Int32 × Bool)}
    (pending :
      handle ∈ hal.pending →
        isContiniousSensor (change sensor).type = true →
          (change sensor).enabled = true)
    (converted : handle ∈ hal.converted → (change sensor).enabled = true)
    (entries :
      ∀ cookie event, sensors.recurrentTimer[cookie]? = some event →
        ∃ sensor, sensors.sensorAt cookie = some sensor ∧
          Sampled sensor ∧
          (sensor.enabled = true ∨ activation = some (cookie, false)))
    (activating :
      ∀ handle enabled, activation = some (handle, enabled) →
        ∃ sensor, sensors.sensorAt handle = some sensor ∧
          Sampled sensor ∧ sensor.enabled = enabled) :
    Sound { hal with sensors := sensors, activation := activation } := by
  refine ⟨entries, activating, ?_, ?_, sound.reports⟩
  · intro cookie member other after continuous
    rcases sensorAt_before found list after with ⟨rfl, rfl⟩ | ⟨_, before⟩
    · exact pending member continuous
    · exact sound.pending cookie member other before continuous
  · intro cookie member other after
    rcases sensorAt_before found list after with ⟨rfl, rfl⟩ | ⟨_, before⟩
    · exact converted member
    · exact sound.converted cookie member other before

end Changes

/-- The flag is set while no event of the sensor is on its way. -/
theorem activateFlag (sound : Sound hal) (idle : hal.activation = none)
    {enabled : Bool} {first : Bool × Sensors Payload}
    (set : activateFlag handle enabled hal.sensors = .ok first)
    (timely :
      enabled = false →
        handle ∉ hal.converted ∧
        (handle ∈ hal.pending →
          ∀ sensor, hal.sensors.sensorAt handle = some sensor →
            isContiniousSensor sensor.type = false)) :
    Sound
      { hal with
        sensors := first.2
        activation :=
          if first.1 then some (handle, enabled) else none } := by
  unfold Reporting.activateFlag at set
  cases found : hal.sensors.sensorAt handle with
  | none =>
      rw [found] at set
      cases set
  | some sensor =>
      rw [found] at set
      dsimp only at set
      split at set
      · cases set
        refine sound.changed found rfl ?_ ?_ ?_ ?_
        · intro member continuous
          cases enabled with
          | true => rfl
          | false =>
              have notContinuous := (timely rfl).2 member sensor found
              exact absurd (continuous.symm.trans notContinuous) (by simp)
        · intro member
          cases enabled with
          | true => rfl
          | false => exact absurd member (timely rfl).1
        · intro cookie event entry
          refine sensorAt_after found rfl ?_ ?_
            (sound.enabled_of_entry idle entry)
          · rintro rfl ⟨sampled, _⟩
            refine ⟨sampled, ?_⟩
            cases enabled with
            | true => exact Or.inl rfl
            | false =>
                right
                exact if_pos (by simpa [Sampled] using sampled)
          · intro _ other good
            exact ⟨good.1, Or.inl good.2⟩
        · intro other flag active
          dsimp only at active
          split at active
          · rename_i needed
            cases active
            refine ⟨_, (sensorAt_setSensor found rfl handle).trans
              (if_pos rfl), ?_, rfl⟩
            simpa [Sampled] using needed
          · cases active
      · cases set
        refine ⟨?_, ?_, sound.pending, sound.converted, sound.reports⟩
        · intro cookie event entry
          rcases sound.enabled_of_entry idle entry with
            ⟨other, otherFound, sampled, on⟩
          exact ⟨other, otherFound, sampled, Or.inl on⟩
        · intro other flag active
          cases active

/-- The timer follows the flag. -/
theorem activateTimer (sound : Sound hal) {enabled : Bool} {now : Int64}
    {sensors : Sensors Payload}
    (active : hal.activation = some (handle, enabled))
    (set : activateTimer handle enabled now hal.sensors = .ok sensors) :
    Sound { hal with sensors := sensors, activation := none } := by
  rcases sound.activating handle enabled active with
    ⟨sensor, found, sampled, flag⟩
  have others :
      ∀ cookie event, cookie ≠ handle →
        hal.sensors.recurrentTimer[cookie]? = some event →
          ∃ sensor, hal.sensors.sensorAt cookie = some sensor ∧
            Sampled sensor ∧ sensor.enabled = true := by
    intro cookie event different entry
    rcases sound.entries cookie event entry with
      ⟨other, otherFound, otherSampled, on | off⟩
    · exact ⟨other, otherFound, otherSampled, on⟩
    · rw [active] at off
      cases off
      exact absurd rfl different
  unfold Reporting.activateTimer at set
  rw [found] at set
  cases enabled with
  | true =>
      simp only [if_true, registerRecurrentEvent, if_neg sampled.2, bind,
        Except.bind] at set
      cases set
      refine ⟨?_, ?_, sound.pending, sound.converted, sound.reports⟩
      · intro cookie event entry
        by_cases same : cookie = handle
        · subst same
          exact ⟨sensor, found, sampled, Or.inl flag⟩
        · dsimp only at entry
          rw [getElem?_insert_eq, if_neg same] at entry
          rcases others cookie event same entry with
            ⟨other, otherFound, otherSampled, on⟩
          exact ⟨other, otherFound, otherSampled, Or.inl on⟩
      · intro other flag none
        cases none
  | false =>
      cases set
      refine ⟨?_, ?_, sound.pending, sound.converted, sound.reports⟩
      · intro cookie event entry
        rcases getElem?_erase_eq_some_iff.mp entry with ⟨same, before⟩
        rcases others cookie event same before with
          ⟨other, otherFound, otherSampled, on⟩
        exact ⟨other, otherFound, otherSampled, Or.inl on⟩
      · intro other flag none
        cases none

/-- A new period is registered at once if the sensor is enabled. -/
theorem batch (sound : Sound hal) (idle : hal.activation = none)
    {samplingPeriodNs maxReportLatencyNs now : Int64}
    {result : Result × Sensors Payload}
    (set :
      Activation.batch handle samplingPeriodNs maxReportLatencyNs now
        hal.sensors = .ok result) :
    Sound { hal with sensors := result.2 } := by
  unfold Activation.batch at set
  cases found : hal.sensors.sensorAt handle with
  | none =>
      rw [found] at set
      cases set
  | some sensor =>
      rw [found] at set
      dsimp only at set
      have inactive :
          ∀ {sensors : Sensors Payload} handle enabled,
            hal.activation = some (handle, enabled) →
              ∃ sensor, sensors.sensorAt handle = some sensor ∧
                Sampled sensor ∧ sensor.enabled = enabled := by
        intro sensors other flag active
        rw [idle] at active
        cases active
      have pending := fun member =>
        sound.pending handle member sensor found
      have converted := fun member =>
        sound.converted handle member sensor found
      split at set
      · rename_i recurrent
        by_cases enabled : sensor.enabled = true
        · rw [if_pos enabled] at set
          rcases ok_of_bind set with ⟨timer, registered, set⟩
          cases set
          by_cases zero : samplingPeriodNs = 0
          · rw [registerRecurrentEvent, if_pos zero] at registered
            cases registered
          · rw [registerRecurrentEvent, if_neg zero] at registered
            cases registered
            refine sound.changed found rfl pending converted ?_ inactive
            intro cookie event entry
            by_cases same : cookie = handle
            · subst same
              exact ⟨_, (sensorAt_setSensor found rfl cookie).trans
                (if_pos rfl), ⟨recurrent, zero⟩, Or.inl enabled⟩
            · dsimp only at entry
              rw [getElem?_insert_eq, if_neg same] at entry
              have before :
                  hal.sensors.recurrentTimer[cookie]? = some event := by
                split at entry
                · exact (getElem?_erase_of_ne same).symm.trans entry
                · exact entry
              exact sensorAt_after found rfl (fun own => absurd own same)
                (fun _ other good => ⟨good.1, Or.inl good.2⟩)
                (sound.enabled_of_entry idle before)
        · rw [if_neg enabled] at set
          cases set
          refine sound.changed found rfl pending converted ?_ inactive
          intro cookie event entry
          exact sensorAt_after found rfl
            (fun _ good => absurd good.2 enabled)
            (fun _ other good => ⟨good.1, Or.inl good.2⟩)
            (sound.enabled_of_entry idle entry)
      · cases set
        exact sound

/-- A payload does not matter, and an enabled sensor may be notified of. -/
theorem value (sound : Sound hal) {payload : Payload} {more : List Int32}
    (found : hal.sensors.sensorAt handle = some sensor)
    (enabled : more = [] ∨ more = [handle] ∧ sensor.enabled = true) :
    Sound
      { hal with
        sensors :=
          hal.sensors.setSensor handle ({ · with eventPayload := payload })
        converted := hal.converted ++ more } := by
  have changed :
      Sound
        { hal with
          sensors :=
            hal.sensors.setSensor handle
              ({ · with eventPayload := payload }) } := by
    refine sound.changed found rfl
      (fun member => sound.pending handle member sensor found)
      (fun member => sound.converted handle member sensor found) ?_ ?_
    · intro cookie event entry
      exact sensorAt_after found rfl (fun _ good => good)
        (fun _ _ good => good) (sound.entries cookie event entry)
    · intro other flag active
      exact sensorAt_after found rfl (fun _ good => good)
        (fun _ _ good => good) (sound.activating other flag active)
  refine ⟨changed.entries, changed.activating, changed.pending, ?_,
    changed.reports⟩
  intro other member otherSensor after
  rcases List.mem_append.mp member with before | new
  · exact changed.converted other before otherSensor after
  · rcases enabled with none | ⟨one, on⟩
    · rw [none] at new
      cases new
    · rw [one] at new
      obtain rfl := List.mem_singleton.mp new
      rcases sensorAt_before found rfl after with
        ⟨_, rfl⟩ | ⟨different, _⟩
      · exact on
      · exact absurd rfl different

theorem entry_of_isDue {timer : RecurrentTimer} {now : Int64}
    {cookie : Int32} (due : isDue timer now cookie = true) :
    ∃ event, timer[cookie]? = some event := by
  unfold isDue at due
  cases entry : timer[cookie]? with
  | none => simp [entry] at due
  | some event => exact ⟨event, rfl⟩

/-- Entries that are rearmed keep their cookies. -/
theorem entry_of_rearm (now : Int64) (cookies : List Int32)
    {timer : RecurrentTimer} {cookie : Int32} {event : RecurrentEvent}
    (entry : (cookies.foldl (rearm now) timer)[cookie]? = some event) :
    ∃ before, timer[cookie]? = some before := by
  induction cookies generalizing timer with
  | nil => exact ⟨event, entry⟩
  | cons first cookies inductionHypothesis =>
      rcases inductionHypothesis entry with ⟨later, found⟩
      unfold rearm at found
      split at found
      · rename_i held present
        rw [getElem?_insert_eq] at found
        split at found
        · rename_i same
          exact ⟨held, same ▸ present⟩
        · exact ⟨later, found⟩
      · exact ⟨later, found⟩

theorem collect (sound : Sound hal) (now : Int64) (cookies : List Int32)
    (timely :
      ∀ cookie ∈ cookies, hal.activation = some (cookie, false) →
        ∀ sensor, hal.sensors.sensorAt cookie = some sensor →
          isContiniousSensor sensor.type = false) :
    Sound (hal.collect now cookies) := by
  unfold Hal.collect
  split
  · rename_i due
    refine ⟨?_, sound.activating, ?_, sound.converted, sound.reports⟩
    · intro cookie event entry
      rcases entry_of_rearm now cookies entry with ⟨before, found⟩
      exact sound.entries cookie before found
    · intro cookie member sensor found continuous
      rcases entry_of_isDue (List.all_eq_true.mp due.2.2 cookie member)
        with ⟨event, entry⟩
      rcases sound.entries cookie event entry with
        ⟨other, otherFound, _, on | off⟩
      · obtain rfl : sensor = other :=
          Option.some.inj (found.symm.trans otherFound)
        exact on
      · have notContinuous := timely cookie member off sensor found
        exact absurd (continuous.symm.trans notContinuous) (by simp)
  · exact sound

theorem notify (sound : Sound hal) {position : Nat} {timestamp : Int64}
    {result : Hal Payload}
    (made : hal.notify position timestamp = .ok result) : Sound result := by
  unfold Hal.notify at made
  split at made
  · cases made
    exact sound
  · rename_i handle taken
    have member : handle ∈ hal.converted := List.mem_of_getElem? taken
    split at made
    · cases made
    · rename_i sensor found
      cases made
      have reported :=
        sound.report found (sound.converted handle member sensor found)
          timestamp
      refine ⟨reported.entries, reported.activating, reported.pending, ?_,
        reported.reports⟩
      intro other left
      exact sound.converted other (List.mem_of_mem_eraseIdx left)

theorem expire (sound : Sound hal) {timestamp : Int64}
    {result : Hal Payload}
    (made : hal.expire timestamp = .ok result) : Sound result := by
  unfold Hal.expire at made
  split at made
  · cases made
    exact sound
  · rename_i cookie pending waiting
    have rest : ∀ other ∈ pending, other ∈ hal.pending := by
      intro other member
      rw [waiting]
      exact List.mem_cons_of_mem cookie member
    split at made
    · cases made
    · rename_i sensor found
      split at made
      · rename_i continuous
        cases made
        have first : cookie ∈ hal.pending := by
          rw [waiting]
          exact List.mem_cons_self
        have reported :=
          sound.report found
            (sound.pending cookie first sensor found continuous) timestamp
        exact ⟨reported.entries, reported.activating,
          fun other member => sound.pending other (rest other member),
          reported.converted, reported.reports⟩
      · cases made
        exact ⟨sound.entries, sound.activating,
          fun other member => sound.pending other (rest other member),
          sound.converted, sound.reports⟩

variable {convert : SensorType → Json → Payload → Bool × Payload}
variable {configuration : Configuration Payload}

theorem step (sound : Sound hal) {made : Step Json}
    (timely : Timely convert configuration hal made) {result : Hal Payload}
    (returned : hal.step convert configuration made = .ok result) :
    Sound result := by
  cases made with
  | activate handle enabled =>
      simp only [Hal.step, Hal.activate] at returned
      split at returned
      · cases returned
        exact sound
      · rename_i free
        have idle : hal.activation = none := by simpa using free
        rcases ok_of_bind returned with ⟨first, set, returned⟩
        cases returned
        apply sound.activateFlag idle set
        rintro rfl
        exact timely
  | activateTimer now =>
      simp only [Hal.step, Hal.activateTimer] at returned
      split at returned
      · cases returned
        exact sound
      · rename_i handle enabled active
        rcases ok_of_bind returned with ⟨sensors, set, returned⟩
        cases returned
        exact sound.activateTimer active set
  | batch handle samplingPeriodNs maxReportLatencyNs now =>
      simp only [Hal.step, Hal.batch] at returned
      split at returned
      · cases returned
        exact sound
      · rename_i free
        have idle : hal.activation = none := by simpa using free
        rcases ok_of_bind returned with ⟨answer, set, returned⟩
        cases returned
        exact sound.batch idle set
  | flush handle =>
      cases returned
      exact sound.insertEvent (Or.inr ⟨rfl, rfl⟩)
  | value name json =>
      simp only [Hal.step, Hal.value] at returned
      split at returned
      · cases returned
        exact sound
      · rename_i handle known
        split at returned
        · cases returned
        · rename_i sensor found
          cases returned
          by_cases event :
              ((convert sensor.type json sensor.eventPayload).1 &&
                !isContiniousSensor sensor.type) = true
          · rw [if_pos event]
            rcases Bool.and_eq_true_iff.mp event with
              ⟨converts, notContinuous⟩
            refine sound.value found (Or.inr ⟨rfl, ?_⟩)
            exact timely handle sensor known found
              (by simpa using notContinuous) converts
          · rw [if_neg event, ← List.append_nil hal.converted]
            exact sound.value found (Or.inl rfl)
  | notify position timestamp => exact sound.notify returned
  | collect now cookies =>
      cases returned
      exact sound.collect now cookies timely
  | expire timestamp => exact sound.expire returned

end Sound

/--
In a run in which every value that becomes an event comes while its sensor is
enabled, and no sensor is deactivated while an event of it is on its way, only
enabled sensors report events.
-/
theorem only_enabled_report_of_timely
    (convert : SensorType → Json → Payload → Bool × Payload)
    (configuration : Configuration Payload) (steps : List (Step Json))
    (timely :
      Admitted (step convert configuration)
        (TimelyOrFaulty convert configuration)
        (.ok (.configured configuration)) steps) :
    ∀ earlier, earlier <+: steps →
      OnlyEnabledReport (reached convert configuration earlier) := by
  let Invariant : Except Fault (Hal Payload) → Prop := fun state =>
    ∀ hal, state = .ok hal → Sound hal
  have preserved :
      ∀ state made, Invariant state →
        TimelyOrFaulty convert configuration state made →
          Invariant (step convert configuration state made) := by
    intro state made invariant admitted result returned
    cases state with
    | error fault => cases returned
    | ok hal => exact (invariant hal rfl).step admitted returned
  have initial : Invariant (.ok (.configured configuration)) := by
    intro hal same
    cases same
    exact sound_configured configuration
  intro earlier isPrefix
  have invariant := (timely.earlier isPrefix).invariant preserved initial
  have sound : Invariant (reached convert configuration earlier) := invariant
  cases state : reached convert configuration earlier with
  | error fault => trivial
  | ok hal => exact (sound hal state).reports

/-- An accelerometer and a light sensor with numbers for payloads. -/
def twoSensors : Configuration Nat :=
  [("Acceleration", .accelerometer, 0), ("Light", .light, 0)]

/-- Every value is converted. -/
def convertNumber (_type : SensorType) (json : Nat) (_payload : Nat) :
    Bool × Nat :=
  (true, json)

/-- Both sensors are enabled when they report. -/
def timelySteps : List (Step Nat) :=
  [.batch 0 100 0 0, .activate 0 true, .activateTimer 0, .activate 1 true,
    .value "Light" 5, .notify 0 7, .collect 200 [0], .expire 300]

theorem timelySteps_report_enabled :
    (reached convertNumber twoSensors timelySteps).map
        (fun hal => hal.reports.map fun report => report.event.sensorHandle) =
      .ok [1, 0] ∧
    OnlyEnabledReport (reached convertNumber twoSensors timelySteps) := by
  refine ⟨rfl,
    only_enabled_report_of_timely convertNumber twoSensors timelySteps ?_
      timelySteps List.prefix_rfl⟩
  refine ⟨trivial, trivial, trivial, trivial, ?_, trivial, ?_, trivial,
    trivial⟩
  · intro handle sensor known found
    cases known
    cases found
    exact fun _ _ => rfl
  · intro cookie member active
    cases active

/-- The light sensor has not been activated. -/
theorem disabled_sensor_reports :
    (reached convertNumber twoSensors
        [.value "Light" 5, .notify 0 7]).map
        (fun hal => hal.reports.map fun report =>
          (report.event.sensorHandle, report.enabled)) =
      .ok [(1, false)] ∧
    ¬OnlyEnabledReport
      (reached convertNumber twoSensors
        [.value "Light" 5, .notify 0 7]) := by
  refine ⟨rfl, ?_⟩
  intro reports
  rcases reports _ List.mem_cons_self with enabled | ⟨flush, _⟩
  · cases enabled
  · cases flush

end Anbox.SensorHal.Reporting
