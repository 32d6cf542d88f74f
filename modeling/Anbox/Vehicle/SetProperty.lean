import Anbox.Vehicle.PropertyText
import Anbox.Vehicle.ValueUpdates

/-!
# Setting a property

`VisVehicleHal::set` first asks the VIS server to take the new value and then
writes it to the property store.  Before that it may have to fetch the values
of all properties.  Each of these steps can fail after the earlier ones have
had their effect.

What the client and the server do during the call is given by an environment.
The server's values are kept as the texts they were set to.
-/

namespace Anbox.Vehicle.SetProperty

open Anbox.Foundation.Fallible
open Anbox.Foundation.JsonText (Text)
open Anbox.Json (Fault Value)
open Anbox.Vehicle.PropertyStore
open Anbox.Vehicle.PropertyStore.VehiclePropertyStore
open Anbox.Vehicle.PropertyText
open Anbox.Vehicle.PropertyValue
open Anbox.Vehicle.ValueUpdates

inductive StatusCode where
  | ok
  | tryAgain
  | invalidArg
deriving DecidableEq, Repr

/-- What becomes of the request to set a value. -/
inductive Answer where
  /-- The client has no connection and returns at once. -/
  | notSent
  | accepted
  | refused
  /-- There is no answer in time, and the server may have taken the value. -/
  | unanswered (taken : Bool)
deriving DecidableEq, Repr

structure Environment where
  /-- The client is connected when `set` asks, and when the fetch asks. -/
  connected : Bool
  stillConnected : Bool
  /-- The values of all properties, if `getPropertySync` returns `OK`. -/
  fetched : Option (List (Name × Value))
  answer : Answer

structure State (numbers : PropertyNumbers) (Single : Type) where
  store : VehiclePropertyStore numbers Single
  /-- `mVPropertyToVisName`. -/
  visNames : RecordId → Option Name
  /-- `mVisNameToVProperty`. -/
  table : NameTable
  valuesAreDirty : Bool
  server : Name → Text

section

variable {numbers : PropertyNumbers} {Single : Type}
variable (floatText : Single → Text) (toFloat : Value → Single)

/-- What the server holds after the request. -/
def Answer.received (answer : Answer) (server : Name → Text) (name : Name)
    (text : Text) : Name → Text :=
  match answer with
  | .accepted | .unanswered true => Function.update server name text
  | .notSent | .refused | .unanswered false => server

/-- The flag is the result; what is subscribed to is left out. -/
def fetchAllAndSubscribe (environment : Environment)
    (state : State numbers Single) :
    Except Fault (Bool × State numbers Single) :=
  if state.valuesAreDirty ∧ environment.stillConnected then
    match environment.fetched with
    | none => .ok (false, state)
    | some result => do
        let store ← processFetched toFloat state.table state.store result
        return (true, { state with store, valuesAreDirty := false })
  else .ok (false, state)

/-- The part of `set` before the request: whether it is sent at all. -/
def prepare (environment : Environment) (state : State numbers Single) :
    Except Fault (Bool × State numbers Single) :=
  if ¬ environment.connected ∧ state.valuesAreDirty then .ok (false, state)
  else if state.valuesAreDirty then
    fetchAllAndSubscribe toFloat environment state
  else .ok (true, state)

/-- The part of `set` that is for mapped and other properties. -/
def writeStore (state : State numbers Single)
    (propValue : VehiclePropValue Single) :
    StatusCode × State numbers Single :=
  let (written, store) := state.store.writeValue propValue false
  (if written then .ok else .invalidArg, { state with store })

def set (environment : Environment) (state : State numbers Single)
    (propValue : VehiclePropValue Single) :
    Except Fault (StatusCode × State numbers Single) :=
  match state.visNames ⟨propValue.prop, propValue.areaId⟩ with
  | none => .ok (writeStore state propValue)
  | some name => do
      let (prepared, state) ← prepare toFloat environment state
      if prepared then
        let text := vehiclePropValueToString numbers floatText propValue
        let state :=
          { state with
            server := environment.answer.received state.server name text }
        if environment.answer = .accepted then
          return writeStore state propValue
        else return (.tryAgain, state)
      else return (.tryAgain, state)

/-! ## Preparation -/

/-- The stored value of a property and an area. -/
def State.storedValue (state : State numbers Single) (prop area : Int) :
    Option (RawValue Single) :=
  (state.store.readValueOrNull prop area).map VehiclePropValue.value

/-- The request is sent: the values are there, or they can be fetched. -/
def Prepared (environment : Environment) (state : State numbers Single) :
    Prop :=
  state.valuesAreDirty = true →
    environment.connected = true ∧ environment.stillConnected = true ∧
      ∃ result, environment.fetched = some result ∧
        ¬ FirstUnreadable toFloat state.table state.store result

/-- What is fetched for the record is the value that it has. -/
def KeptByFetch (environment : Environment) (state : State numbers Single)
    (prop area : Int) : Prop :=
  state.valuesAreDirty = true →
    ∀ result, environment.fetched = some result →
      ∀ val next, state.store.readValueOrNull prop area = some val →
        convertedBy numbers toFloat (some val)
            (firstValues numbers state.table result
              (recordId numbers prop area)) = .ok (some next) →
          next.value = val.value

/-- What the preparation of the request does. -/
structure Prepares (environment : Environment)
    (state next : State numbers Single) : Prop where
  server : next.server = state.server
  configs : next.store.configs = state.store.configs
  stored :
    ∀ prop area,
      next.storedValue prop area = state.storedValue prop area ↔
        KeptByFetch toFloat environment state prop area

theorem prepare_of_prepared {environment : Environment}
    {state : State numbers Single}
    (prepared : Prepared toFloat environment state) :
    ∃ next, prepare toFloat environment state = .ok (true, next) ∧
      Prepares toFloat environment state next := by
  cases dirty : state.valuesAreDirty with
  | false =>
      refine ⟨state, by simp [prepare, dirty], rfl, rfl, fun prop area => ?_⟩
      exact iff_of_true rfl fun impossible => by simp [dirty] at impossible
  | true =>
      rcases prepared dirty with
        ⟨connected, stillConnected, result, fetched, readable⟩
      rcases not_firstUnreadable_iff.mp readable with ⟨store, processed⟩
      have each := processed
      rw [processFetched_eq, updateAll_eq_ok_iff] at each
      refine ⟨{ state with store, valuesAreDirty := false }, ?_, rfl,
        each.1, fun prop area => ?_⟩
      · simp only [prepare, fetchAllAndSubscribe, connected, dirty,
          stillConnected, fetched, processed]
        rfl
      · have converted := each.2 (recordId numbers prop area)
        cases found : state.store.readValueOrNull prop area with
        | none =>
            have absent : store.readValueOrNull prop area = none := by
              rw [show state.store.propertyValues _ = none from found]
                at converted
              exact (Except.ok.inj converted).symm
            refine iff_of_true ?_ ?_
            · simp only [State.storedValue, found, absent]
            · intro _ result' _ val next impossible
              rw [found] at impossible
              cases impossible
        | some val =>
            rw [show state.store.propertyValues _ = some val from found]
              at converted
            rcases ok_of_bind converted with ⟨next, folded, returned⟩
            have present : store.readValueOrNull prop area = some next :=
              (Except.ok.inj returned).symm
            have whole :
                convertedBy numbers toFloat (some val)
                    (firstValues numbers state.table result
                      (recordId numbers prop area)) = .ok (some next) := by
              rw [← present]
              exact converted
            simp only [State.storedValue, found, present, Option.map_some,
              Option.some.injEq]
            constructor
            · intro same _ result' fetched' val' next' found' converted'
              rw [fetched] at fetched'
              cases fetched'
              rw [found] at found'
              cases found'
              rw [whole] at converted'
              cases converted'
              exact same
            · intro kept
              exact kept dirty result fetched val next found whole

theorem prepare_of_not_prepared {environment : Environment}
    {state : State numbers Single}
    (unprepared : ¬ Prepared toFloat environment state) :
    prepare toFloat environment state = .ok (false, state) ∨
      ∃ fault, prepare toFloat environment state = .error fault := by
  cases dirty : state.valuesAreDirty with
  | false =>
      refine absurd (fun impossible => ?_) unprepared
      rw [dirty] at impossible
      cases impossible
  | true =>
      by_cases connected : environment.connected = true
      · by_cases stillConnected : environment.stillConnected = true
        · cases fetched : environment.fetched with
          | none =>
              left
              simp [prepare, fetchAllAndSubscribe, connected, dirty,
                stillConnected, fetched]
          | some result =>
              have unreadable :
                  FirstUnreadable toFloat state.table state.store result := by
                by_contra readable
                exact unprepared fun _ =>
                  ⟨connected, stillConnected, result, fetched, readable⟩
              right
              cases processed :
                  processFetched toFloat state.table state.store result with
              | ok store =>
                  exact absurd unreadable
                    (not_firstUnreadable_iff.mpr ⟨store, processed⟩)
              | error fault =>
                  refine ⟨fault, ?_⟩
                  simp only [prepare, fetchAllAndSubscribe, connected, dirty,
                    stillConnected, fetched, processed]
                  rfl
        · left
          simp [prepare, fetchAllAndSubscribe, connected, dirty,
            stillConnected]
      · left
        simp [prepare, connected, dirty]

/-! ## Failures -/

/--
A call that fails has no effect at the server or in the store, and a call that
succeeds has both.
-/
def Atomic (environment : Environment) (state : State numbers Single)
    (propValue : VehiclePropValue Single) : Prop :=
  ∀ status next,
    set floatText toFloat environment state propValue = .ok (status, next) →
      let name := state.visNames ⟨propValue.prop, propValue.areaId⟩
      let stored := fun state : State numbers Single =>
        state.storedValue propValue.prop propValue.areaId
      (status ≠ .ok →
          stored next = stored state ∧
            ∀ visName, name = some visName →
              next.server visName = state.server visName) ∧
        (status = .ok →
          ∀ visName, name = some visName →
            stored next = some propValue.value ∧
              next.server visName =
                vehiclePropValueToString numbers floatText propValue)

/--
The server and the store both take the value, or neither has anything to
change.
-/
def Agrees (environment : Environment) (state : State numbers Single)
    (propValue : VehiclePropValue Single) (visName : Name) : Prop :=
  let unchanged :=
    state.server visName =
      vehiclePropValueToString numbers floatText propValue
  let kept :=
    KeptByFetch toFloat environment state propValue.prop propValue.areaId
  match environment.answer with
  | .accepted => propValue.prop ∈ state.store.configs ∨ unchanged
  | .notSent | .refused | .unanswered false => kept
  | .unanswered true => kept ∧ unchanged

theorem storedValue_writeStore_of_registered {state : State numbers Single}
    {propValue : VehiclePropValue Single}
    (member : propValue.prop ∈ state.store.configs) :
    (writeStore state propValue).1 = .ok ∧
      (writeStore state propValue).2.server = state.server ∧
      (writeStore state propValue).2.storedValue propValue.prop
          propValue.areaId = some propValue.value := by
  rcases state.store.writeValue_of_registered member false with
    ⟨written, -, values⟩
  refine ⟨by simp [writeStore, written], rfl, ?_⟩
  simp only [State.storedValue, readValueOrNull, writeStore, values]
  rw [show recordId numbers propValue.prop propValue.areaId =
    getRecordId numbers propValue from rfl, Function.update_self,
    Option.map_some, state.store.written_value]

theorem writeStore_of_unregistered {state : State numbers Single}
    {propValue : VehiclePropValue Single}
    (absent : propValue.prop ∉ state.store.configs) :
    writeStore state propValue = (.invalidArg, state) := by
  simp only [writeStore, state.store.writeValue_of_unregistered absent]
  rfl

/-- A property that is not registered has no value. -/
theorem storedValue_of_unregistered {state : State numbers Single}
    {prop area : Int} (absent : prop ∉ state.store.configs) :
    state.storedValue prop area = none := by
  cases found : state.store.readValueOrNull prop area with
  | none => simp only [State.storedValue, found, Option.map_none]
  | some val =>
      have own := state.store.keyed _ val found
      have same : val.prop = prop := congrArg RecordId.prop own
      exact absurd (same ▸ state.store.registered _ val found) absent

section

variable {floatText toFloat} {environment : Environment}
  {state next : State numbers Single} {propValue : VehiclePropValue Single}
  {visName : Name}

theorem atomic_iff_of_failed {status : StatusCode}
    (mapped :
      state.visNames ⟨propValue.prop, propValue.areaId⟩ = some visName)
    (returned :
      set floatText toFloat environment state propValue = .ok (status, next))
    (failed : status ≠ .ok) :
    Atomic floatText toFloat environment state propValue ↔
      next.storedValue propValue.prop propValue.areaId =
          state.storedValue propValue.prop propValue.areaId ∧
        next.server visName = state.server visName := by
  constructor
  · intro atomic
    have unchanged := (atomic status next returned).1 failed
    exact ⟨unchanged.1, unchanged.2 visName mapped⟩
  · rintro ⟨stored, server⟩ status' next' returned'
    rw [returned] at returned'
    cases returned'
    refine ⟨fun _ => ⟨stored, ?_⟩, fun succeeded => absurd succeeded failed⟩
    rintro other also
    rw [mapped] at also
    cases also
    exact server

theorem atomic_of_error {fault : Fault}
    (failed :
      set floatText toFloat environment state propValue = .error fault) :
    Atomic floatText toFloat environment state propValue := by
  intro status next returned
  rw [failed] at returned
  cases returned

/-- The state in which the answer is looked at. -/
def requested (environment : Environment) (next : State numbers Single)
    (floatText : Single → Text) (propValue : VehiclePropValue Single)
    (visName : Name) : State numbers Single :=
  { next with
    server := environment.answer.received next.server visName
      (vehiclePropValueToString numbers floatText propValue) }

theorem set_of_prepare (floatText : Single → Text)
    (mapped :
      state.visNames ⟨propValue.prop, propValue.areaId⟩ = some visName)
    (prepared : prepare toFloat environment state = .ok (true, next)) :
    set floatText toFloat environment state propValue =
      .ok (if environment.answer = .accepted then
        writeStore (requested environment next floatText propValue visName)
          propValue
      else
        (.tryAgain,
          requested environment next floatText propValue visName)) := by
  simp only [set, mapped, prepared]
  by_cases accepted : environment.answer = .accepted
  · rw [if_pos accepted]
    simp only [bind, Except.bind, accepted, if_true, requested]
    rfl
  · rw [if_neg accepted]
    simp only [bind, Except.bind, accepted, if_true, if_false, requested]
    rfl

/-- The server has the text if it had it before, or has received it. -/
theorem received_iff :
    Function.update next.server visName
          (vehiclePropValueToString numbers floatText propValue) visName =
        state.server visName ↔
      state.server visName =
        vehiclePropValueToString numbers floatText propValue := by
  rw [Function.update_self, eq_comm]

/-- Without an acceptance the store has what was fetched. -/
theorem atomic_iff_of_not_accepted
    (mapped :
      state.visNames ⟨propValue.prop, propValue.areaId⟩ = some visName)
    (prepared : prepare toFloat environment state = .ok (true, next))
    (prepares : Prepares toFloat environment state next)
    (failed : environment.answer ≠ .accepted) :
    Atomic floatText toFloat environment state propValue ↔
      KeptByFetch toFloat environment state propValue.prop
          propValue.areaId ∧
        (requested environment next floatText propValue visName).server
          visName = state.server visName := by
  have returned := set_of_prepare floatText mapped prepared
  rw [if_neg failed] at returned
  rw [atomic_iff_of_failed mapped returned (by decide),
    ← prepares.stored propValue.prop propValue.areaId]
  rfl

/-- An accepted value is in both places if its property is registered. -/
theorem atomic_of_accepted
    (mapped :
      state.visNames ⟨propValue.prop, propValue.areaId⟩ = some visName)
    (prepared : prepare toFloat environment state = .ok (true, next))
    (prepares : Prepares toFloat environment state next)
    (accepted : environment.answer = .accepted)
    (member : propValue.prop ∈ state.store.configs) :
    Atomic floatText toFloat environment state propValue := by
  have returned := set_of_prepare floatText mapped prepared
  rw [if_pos accepted] at returned
  have stillMember : propValue.prop ∈
      (requested environment next floatText propValue
        visName).store.configs := by
    rw [← prepares.configs] at member
    exact member
  rcases storedValue_writeStore_of_registered stillMember with
    ⟨succeeded, server, stored⟩
  intro status last also
  rw [returned] at also
  rw [Except.ok.inj also] at succeeded server stored
  refine ⟨fun failed => absurd succeeded failed, fun _ other found => ?_⟩
  rw [mapped] at found
  cases found
  refine ⟨stored, ?_⟩
  rw [server]
  simp only [requested, accepted, Answer.received, Function.update_self]

/-- And at the server only if it is not. -/
theorem atomic_iff_of_accepted_unregistered
    (mapped :
      state.visNames ⟨propValue.prop, propValue.areaId⟩ = some visName)
    (prepared : prepare toFloat environment state = .ok (true, next))
    (prepares : Prepares toFloat environment state next)
    (accepted : environment.answer = .accepted)
    (absent : propValue.prop ∉ state.store.configs) :
    Atomic floatText toFloat environment state propValue ↔
      state.server visName =
        vehiclePropValueToString numbers floatText propValue := by
  have returned := set_of_prepare floatText mapped prepared
  have stillAbsent : propValue.prop ∉
      (requested environment next floatText propValue
        visName).store.configs := by
    rw [← prepares.configs] at absent
    exact absent
  rw [if_pos accepted, writeStore_of_unregistered stillAbsent] at returned
  rw [atomic_iff_of_failed mapped returned (by decide),
    storedValue_of_unregistered stillAbsent,
    storedValue_of_unregistered absent]
  simp only [requested, accepted, Answer.received]
  exact (and_iff_right trivial).trans received_iff

/-- Once the request is sent it depends on its answer. -/
theorem atomic_iff_agrees
    (mapped :
      state.visNames ⟨propValue.prop, propValue.areaId⟩ = some visName)
    (prepared : prepare toFloat environment state = .ok (true, next))
    (prepares : Prepares toFloat environment state next) :
    Atomic floatText toFloat environment state propValue ↔
      Agrees floatText toFloat environment state propValue visName := by
  cases answer : environment.answer with
  | notSent | refused =>
      rw [atomic_iff_of_not_accepted mapped prepared prepares
        (by simp [answer])]
      simp only [Agrees, answer, requested, Answer.received, prepares.server]
      exact and_iff_left trivial
  | unanswered taken =>
      rw [atomic_iff_of_not_accepted mapped prepared prepares
        (by simp [answer])]
      cases taken with
      | false =>
          simp only [Agrees, answer, requested, Answer.received,
            prepares.server]
          exact and_iff_left trivial
      | true =>
          simp only [Agrees, answer, requested, Answer.received]
          exact and_congr_right' received_iff
  | accepted =>
      simp only [Agrees, answer]
      by_cases member : propValue.prop ∈ state.store.configs
      · exact iff_of_true
          (atomic_of_accepted mapped prepared prepares answer member)
          (Or.inl member)
      · rw [or_iff_right member]
        exact atomic_iff_of_accepted_unregistered mapped prepared prepares
          answer member

end

end

/-! ## A value that only the server has -/

/-- All properties are mapped, and these are registered. -/
def mappedHal (registered : List Int) : State interfaceNumbers Unit where
  store := .empty registered
  visNames := fun _ => some [0x78]
  table := []
  valuesAreDirty := false
  server := fun _ => []

def answering (answer : Answer) : Environment := ⟨true, true, none, answer⟩

end Anbox.Vehicle.SetProperty
