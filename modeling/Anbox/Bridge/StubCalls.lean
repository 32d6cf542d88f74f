import Anbox.Foundation.Counting
import Anbox.Foundation.Runs
import Anbox.Rpc.PendingCallCache
import Mathlib.Data.List.Nodup
import Mathlib.Logic.Function.Basic

/-!
# Calls of the API stubs

`AndroidApiStub` and `ManagementApiStub::stop_container` call a method of the
other side and wait for a limited time until its closure has been run.  The
response object and the argument of the closure belong to a `Request` that
lives as long as the call.

All calls of one kind of the Android stub share a wait handle whose counters
are never reset; `stop_container` has a handle of its own in every request and
does not ask it for a result.  The steps of the model are the critical
sections of the pending call cache and of the wait handles.  Any number of
calls on any number of channels, among them channels that replaced an earlier
one, are under way at the same time.
-/

namespace Anbox.Bridge.StubCalls

open Anbox.Foundation.Counting
open Anbox.Foundation.OrderedMap
open Anbox.Foundation.Runs
open Anbox.Rpc.PendingCallCache

/-! ## Wait handles -/

/-- The two counters of `WaitHandle`. -/
structure WaitHandle where
  expecting : Nat
  received : Nat
deriving DecidableEq, Repr

namespace WaitHandle

def expectResult (handle : WaitHandle) : WaitHandle :=
  { handle with expecting := handle.expecting + 1 }

def resultReceived (handle : WaitHandle) : WaitHandle :=
  { handle with received := handle.received + 1 }

/-- What `wait_for_pending` waits for. -/
def complete (handle : WaitHandle) : Bool :=
  handle.received == handle.expecting

def hasResult (handle : WaitHandle) : Bool :=
  0 < handle.received

end WaitHandle

/-! ## Calls -/

/-- The functions that wait for a limited time. -/
inductive Kind where
  | launch
  | setFocusedTask
  | removeTask
  | resizeTask
  | stopContainer
deriving DecidableEq, Repr

/-- The functions of `AndroidApiStub`. -/
def Kind.android : Kind → Bool
  | .stopContainer => false
  | _ => true

/-- A wait handle of the Android stub or of the request of one call. -/
inductive HandleRef where
  | shared (kind : Kind)
  | ofRequest (number : Nat)
deriving DecidableEq, Repr

/-- The handle that the call with this number waits for. -/
def handleRef (kind : Kind) (number : Nat) : HandleRef :=
  if kind.android then .shared kind else .ofRequest number

/-- How far a call has got. -/
inductive Stage where
  /-- `expect_result` has been called. -/
  | expecting
  /-- `invocation_for` has taken an id. -/
  | identified
  /-- The call is in the cache and has not been sent. -/
  | saved
  /-- The call has been sent and `wait_for_pending` has been entered. -/
  | waiting
  /-- `wait_for_pending` has returned. -/
  | waited (timedOut : Bool)
  /-- The function has returned or thrown and the request has been freed. -/
  | finished (normally : Bool)
deriving DecidableEq, Repr

/-- Where the closure of a call is. -/
inductive ClosureState where
  | unsaved
  | cached
  /-- Taken from the cache and about to be run. -/
  | taken
  | ran
deriving DecidableEq, Repr

/-- One call of a stub. -/
structure Call where
  kind : Kind
  handle : HandleRef
  channel : Nat
  id : Option UInt32
  stage : Stage
  closure : ClosureState
  /-- `has_error` of the response object. -/
  error : Bool
  /-- A response has been written to the response object. -/
  answered : Bool
deriving DecidableEq, Repr

namespace Call

/-- A call as it is when its function has been entered. -/
def entered (kind : Kind) (number channel : Nat) : Call :=
  ⟨kind, handleRef kind number, channel, none, .expecting, .unsaved, false,
    false⟩

/-- The closure leaves the cache. -/
def take (call : Call) : Call :=
  { call with closure := .taken }

/-- The closure is run. -/
def run (call : Call) : Call :=
  { call with closure := .ran }

/-- The function has returned or thrown. -/
def Finished (call : Call) : Prop :=
  ∃ normally, call.stage = .finished normally

end Call

/-! ## Steps -/

/-- The process: its calls, wait handles and channels. -/
structure State where
  nextMessageId : UInt32
  /-- The pending call cache of each channel. -/
  pendingCalls : Nat → PendingCalls
  /-- Results between `populate_message_for_result` and `complete_response`. -/
  populated : List (Nat × UInt32)
  handles : HandleRef → WaitHandle
  /-- The calls by their numbers. -/
  calls : List Call

def State.initial : State :=
  ⟨0, fun _ => ∅, [], fun _ => ⟨0, 0⟩, []⟩

namespace State

def modifyCall (state : State) (number : Nat) (change : Call → Call) :
    State :=
  { state with calls := state.calls.modify number change }

def modifyHandle (state : State) (handle : HandleRef)
    (change : WaitHandle → WaitHandle) : State :=
  { state with
    handles := Function.update state.handles handle
      (change (state.handles handle)) }

def setPendingCalls (state : State) (channel : Nat)
    (pendingCalls : PendingCalls) : State :=
  { state with
    pendingCalls :=
      Function.update state.pendingCalls channel pendingCalls }

/-- A step of the thread of a call, taken if the call has got there. -/
def whenCall (state : State) (number : Nat) (here : Call → Bool)
    (next : Call → State) : State :=
  match state.calls[number]? with
  | some call => if here call then next call else state
  | none => state

/-- The closure of a call: its wait handle has received a result. -/
def runClosure (state : State) (number : Nat) : State :=
  match state.calls[number]? with
  | some call =>
      (state.modifyCall number Call.run).modifyHandle call.handle
        WaitHandle.resultReceived
  | none => state

/-- A closure is taken from the cache and run. -/
def force (state : State) (number : Nat) : State :=
  (state.modifyCall number Call.take).runClosure number

/-- `notify_disconnected`: all closures are run inside the critical section. -/
def notifyDisconnected (state : State) (channel : Nat) : State :=
  let completion := forceCompletion (state.pendingCalls channel)
  completion.2.foldl force (state.setPendingCalls channel completion.1)

end State

/-- One critical section, one closure being run or one return. -/
inductive Label where
  /-- A function is entered while its stub uses this channel. -/
  | expectResult (kind : Kind) (channel : Nat)
  | nextId (number : Nat)
  /-- An id is taken for a call of another kind. -/
  | foreignNextId
  | saveCompletionDetails (number : Nat)
  /-- `sender_->send` returns or throws a `std::runtime_error`. -/
  | send (number : Nat) (succeeds : Bool)
  /-- Sending anything else over the channel has failed. -/
  | notifyDisconnected (channel : Nat)
  /-- A result with this id is read, with or without an error in it. -/
  | populateMessageForResult (channel : Nat) (id : UInt32) (error : Bool)
  | completeResponse (channel : Nat) (id : UInt32)
  | runClosure (number : Nat)
  /-- `wait_for_pending` returns, because of its condition or its limit. -/
  | waitForPending (number : Nat) (timedOut : Bool)
  /-- The results are looked at and the function returns or throws. -/
  | finish (number : Nat)
deriving DecidableEq, Repr

/--
How a call ends.  Only the Android stub asks its handle for a result, and
throws if there is none; all throw the error of the response.
-/
def returnsNormally (call : Call) (handle : WaitHandle) : Bool :=
  (!call.kind.android || handle.hasResult) && !call.error

/-- Take one step; a step whose thread is not at that point changes nothing. -/
def step (state : State) : Label → State
  | .expectResult kind channel =>
      let number := state.calls.length
      let entered : State :=
        { state with
          calls := state.calls ++ [Call.entered kind number channel] }
      entered.modifyHandle (handleRef kind number) WaitHandle.expectResult
  | .nextId number =>
      state.whenCall number (·.stage = .expecting) fun _ =>
        { state with nextMessageId := state.nextMessageId + 1 }.modifyCall
          number fun call =>
            { call with
              id := some state.nextMessageId, stage := .identified }
  | .foreignNextId =>
      { state with nextMessageId := state.nextMessageId + 1 }
  | .saveCompletionDetails number =>
      state.whenCall number (·.stage = .identified) fun call =>
        match call.id with
        | some id =>
            (state.setPendingCalls call.channel
                (saveCompletionDetails (state.pendingCalls call.channel) id
                  ⟨number, number⟩)).modifyCall number fun call =>
              { call with stage := .saved, closure := .cached }
        | none => state
  | .send number succeeds =>
      state.whenCall number (·.stage = .saved) fun call =>
        if succeeds then
          state.modifyCall number fun call => { call with stage := .waiting }
        else
          (state.notifyDisconnected call.channel).modifyCall number
            fun call => { call with stage := .finished false }
  | .notifyDisconnected channel => state.notifyDisconnected channel
  | .populateMessageForResult channel id error =>
      match populateMessageForResult (state.pendingCalls channel) id with
      | some number =>
          { state with
            populated := state.populated ++ [(channel, id)] }.modifyCall
              number fun call => { call with error, answered := true }
      -- `at` throws, so the result is not completed either
      | none => state
  | .completeResponse channel id =>
      if (channel, id) ∈ state.populated then
        let completion := completeResponse (state.pendingCalls channel) id
        let erased :=
          { state with
            populated := state.populated.erase (channel, id) }.setPendingCalls
              channel completion.1
        match completion.2 with
        | some number => erased.modifyCall number Call.take
        | none => erased
      else state
  | .runClosure number =>
      state.whenCall number (·.closure = .taken) fun _ =>
        state.runClosure number
  | .waitForPending number timedOut =>
      state.whenCall number
        (fun call => call.stage = .waiting ∧
          (timedOut ∨ (state.handles call.handle).complete))
        fun _ => state.modifyCall number fun call =>
          { call with stage := .waited timedOut }
  | .finish number =>
      state.whenCall number
        (fun call => call.stage = .waited true ∨ call.stage = .waited false)
        fun _ => state.modifyCall number fun call =>
          { call with
            stage := .finished
              (returnsNormally call (state.handles call.handle)) }

/-- The state after a run of a new process. -/
def after (labels : List Label) : State :=
  runFrom step State.initial labels

/-! ## What a step does to one call -/

section Lookups

variable (state : State)

@[simp]
theorem pendingCalls_modifyCall (number : Nat) (change : Call → Call) :
    (state.modifyCall number change).pendingCalls = state.pendingCalls :=
  rfl

@[simp]
theorem pendingCalls_runClosure (number : Nat) :
    (state.runClosure number).pendingCalls = state.pendingCalls := by
  unfold State.runClosure
  split <;> rfl

theorem getElem?_modifyCall {number : Nat} {call : Call}
    (found : state.calls[number]? = some call) (modified : Nat)
    (change : Call → Call) :
    (state.modifyCall modified change).calls[number]? =
      some (if modified = number then change call else call) := by
  simp only [State.modifyCall, List.getElem?_modify, found]
  split <;> simp_all

theorem getElem?_runClosure {number : Nat} {call : Call}
    (found : state.calls[number]? = some call) (ran : Nat) :
    (state.runClosure ran).calls[number]? =
      some (if ran = number then call.run else call) := by
  cases other : state.calls[ran]? with
  | some _ =>
      simp only [State.runClosure, other, State.modifyHandle]
      exact getElem?_modifyCall state found ran Call.run
  | none =>
      have different : ran ≠ number := by
        rintro rfl
        rw [found] at other
        cases other
      simp [State.runClosure, other, different, found]

theorem getElem?_force {number : Nat} {call : Call}
    (found : state.calls[number]? = some call) (forced : Nat) :
    (state.force forced).calls[number]? =
      some (if forced = number then call.take.run else call) := by
  have taken := getElem?_modifyCall state found forced Call.take
  rw [State.force, getElem?_runClosure _ taken]
  split <;> rfl

@[simp]
theorem pendingCalls_foldl_force (numbers : List Nat) :
    (numbers.foldl State.force state).pendingCalls =
      state.pendingCalls := by
  induction numbers generalizing state with
  | nil => rfl
  | cons number numbers inductionHypothesis =>
      rw [List.foldl_cons, inductionHypothesis]
      simp [State.force]

/-- A forced completion empties the cache of its channel. -/
theorem pendingCalls_notifyDisconnected (channel : Nat) :
    (state.notifyDisconnected channel).pendingCalls =
      Function.update state.pendingCalls channel ∅ := by
  simp [State.notifyDisconnected, State.setPendingCalls, forceCompletion]

theorem getElem?_foldl_force {number : Nat} {call : Call}
    (found : state.calls[number]? = some call) (numbers : List Nat) :
    (numbers.foldl State.force state).calls[number]? =
      some (if number ∈ numbers then call.take.run else call) := by
  induction numbers generalizing state call with
  | nil => simpa using found
  | cons forced numbers inductionHypothesis =>
      have first := getElem?_force state found forced
      rw [List.foldl_cons, inductionHypothesis _ first]
      by_cases same : forced = number
      · -- Forcing a call a second time would change nothing more.
        subst same
        simp [Call.take, Call.run]
      · simp [same, Ne.symm same]

/-- A step of a thread changes nothing unless the call has got there. -/
theorem whenCall_eq (number : Nat) (here : Call → Bool)
    (next : Call → State) :
    state.whenCall number here next = state ∨
      ∃ call, state.calls[number]? = some call ∧ here call = true ∧
        state.whenCall number here next = next call := by
  cases found : state.calls[number]? with
  | none => simp [State.whenCall, found]
  | some call =>
      by_cases there : here call = true
      · exact Or.inr ⟨call, rfl, there, by
          simp [State.whenCall, found, there]⟩
      · exact Or.inl (by simp [State.whenCall, found, there])

/-- What holds without the step and after it holds in any case. -/
theorem whenCall_rule {motive : State → Prop} {number : Nat}
    {here : Call → Bool} {next : Call → State}
    (unchanged : motive state)
    (moved :
      ∀ call, state.calls[number]? = some call → here call = true →
        motive (next call)) :
    motive (state.whenCall number here next) := by
  rcases whenCall_eq state number here next with
    same | ⟨call, found, there, taken⟩
  · rw [same]
    exact unchanged
  · rw [taken]
    exact moved call found there

end Lookups

/-- A cache refers to the response object or the closure of the call. -/
def State.Holds (state : State) (number : Nat) : Prop :=
  ∃ (channel : Nat) (key : Int32) (entry : PendingCall),
    (state.pendingCalls channel)[key]? = some entry ∧
      (entry.response = number ∨ entry.complete = number)

/-- What a cache may refer to. -/
def EntriesCached (state : State) : Prop :=
  ∀ (channel : Nat) (key : Int32) (entry : PendingCall),
    (state.pendingCalls channel)[key]? = some entry →
      ∃ (number : Nat) (call : Call) (id : UInt32),
        entry = ⟨number, number⟩ ∧ state.calls[number]? = some call ∧
          call.channel = channel ∧ call.id = some id ∧
          key = callKey id ∧ call.closure = .cached

/-- All that a step can do to one call. -/
inductive CallStep (state : State) (number : Nat) :
    Label → Call → Call → Prop
  | unchanged (label : Label) (call : Call) :
      CallStep state number label call call
  | identified {call : Call} (expecting : call.stage = .expecting) :
      CallStep state number (.nextId number) call
        { call with
          id := some state.nextMessageId, stage := .identified }
  | saved {call : Call} (identified : call.stage = .identified) :
      CallStep state number (.saveCompletionDetails number) call
        { call with stage := .saved, closure := .cached }
  | sent {call : Call} (saved : call.stage = .saved) :
      CallStep state number (.send number true) call
        { call with stage := .waiting }
  | forced {label : Label} {call : Call} (cached : call.closure = .cached)
      (gone : ¬ (step state label).Holds number) :
      CallStep state number label call call.take.run
  | failed {call : Call} (saved : call.stage = .saved)
      (gone : ¬ (step state (.send number false)).Holds number) :
      CallStep state number (.send number false) call
        { call with stage := .finished false }
  | failedForced {call : Call} (saved : call.stage = .saved)
      (cached : call.closure = .cached)
      (gone : ¬ (step state (.send number false)).Holds number) :
      CallStep state number (.send number false) call
        { call.take.run with stage := .finished false }
  | populated {call : Call} {channel : Nat} {id : UInt32} {error : Bool}
      (cached : call.closure = .cached) :
      CallStep state number (.populateMessageForResult channel id error)
        call { call with error, answered := true }
  | taken {call : Call} {channel : Nat} {id : UInt32}
      (cached : call.closure = .cached)
      (gone : ¬ (step state (.completeResponse channel id)).Holds number) :
      CallStep state number (.completeResponse channel id) call call.take
  | ran {call : Call} (taken : call.closure = .taken) :
      CallStep state number (.runClosure number) call call.run
  | waited {call : Call} {timedOut : Bool}
      (waiting : call.stage = .waiting)
      (ended :
        timedOut = true ∨
          (state.handles call.handle).complete = true) :
      CallStep state number (.waitForPending number timedOut) call
        { call with stage := .waited timedOut }
  | finished {call : Call} {timedOut : Bool}
      (waited : call.stage = .waited timedOut) :
      CallStep state number (.finish number) call
        { call with
          stage := .finished
            (returnsNormally call (state.handles call.handle)) }

variable {state : State}

theorem EntriesCached.of_holds (cached : EntriesCached state)
    {number : Nat} (holds : state.Holds number) :
    ∃ (call : Call) (id : UInt32),
      state.calls[number]? = some call ∧ call.id = some id ∧
        (state.pendingCalls call.channel)[callKey id]? =
          some ⟨number, number⟩ ∧
        call.closure = .cached := by
  rcases holds with ⟨channel, key, entry, found, belongs⟩
  rcases cached channel key entry found with
    ⟨owner, call, id, rfl, isCall, rfl, hasId, rfl, isCached⟩
  have same : owner = number := by simpa using belongs
  subst same
  exact ⟨call, id, isCall, hasId, found, isCached⟩

/-- The entry of a call is the one under its id. -/
theorem EntriesCached.holds_iff (cached : EntriesCached state)
    {number : Nat} {call : Call} {id : UInt32}
    (found : state.calls[number]? = some call) (hasId : call.id = some id) :
    state.Holds number ↔
      (state.pendingCalls call.channel)[callKey id]? =
        some ⟨number, number⟩ := by
  constructor
  · intro holds
    rcases cached.of_holds holds with
      ⟨other, otherId, isOther, otherHasId, stored, -⟩
    rw [found] at isOther
    cases isOther
    rw [hasId] at otherHasId
    cases otherHasId
    exact stored
  · intro stored
    exact ⟨call.channel, callKey id, _, stored, Or.inl rfl⟩

/-- What forcing the completion of a channel does to one call. -/
theorem EntriesCached.notifyDisconnected (cached : EntriesCached state)
    (channel : Nat) {number : Nat} {call : Call}
    (found : state.calls[number]? = some call) :
    (state.notifyDisconnected channel).calls[number]? = some call ∨
      call.closure = .cached ∧ call.channel = channel ∧
        (state.notifyDisconnected channel).calls[number]? =
          some call.take.run := by
  have looked := getElem?_foldl_force
    (state.setPendingCalls channel ∅) found
    (closures (state.pendingCalls channel))
  by_cases listed : number ∈ closures (state.pendingCalls channel)
  · rcases mem_closures_iff.mp listed with ⟨key, entry, stored, complete⟩
    rcases cached channel key entry stored with
      ⟨owner, other, id, rfl, isCall, inChannel, -, -, isCached⟩
    obtain rfl : owner = number := complete
    rw [found] at isCall
    cases isCall
    rw [if_pos listed] at looked
    exact Or.inr ⟨isCached, inChannel, looked⟩
  · rw [if_neg listed] at looked
    exact Or.inl looked

/-- After a forced completion no cache refers to a call of the channel. -/
theorem EntriesCached.not_holds_notifyDisconnected
    (cached : EntriesCached state) {number : Nat} {call : Call}
    (found : state.calls[number]? = some call) :
    ¬ (state.notifyDisconnected call.channel).Holds number := by
  rintro ⟨channel, key, entry, stored, belongs⟩
  rw [pendingCalls_notifyDisconnected, Function.update_apply] at stored
  split at stored
  · simp at stored
  · rename_i other
    rcases cached.of_holds ⟨channel, key, entry, stored, belongs⟩ with
      ⟨same, id, isCall, -, -, -⟩
    rcases cached channel key entry stored with
      ⟨owner, ownerCall, -, rfl, isOwner, inChannel, -⟩
    obtain rfl : owner = number := by simpa using belongs
    rw [found] at isOwner
    cases isOwner
    exact other inChannel.symm

/-- The call is there after the step and has moved as listed. -/
def Moves (state : State) (label : Label) (number : Nat) (call : Call)
    (next : State) : Prop :=
  ∃ moved, next.calls[number]? = some moved ∧
    CallStep state number label call moved

theorem moves_of_unchanged {label : Label} {next : State} {number : Nat}
    {call : Call} (found : next.calls[number]? = some call) :
    Moves state label number call next :=
  ⟨call, found, .unchanged label call⟩

/-- A step of the thread of one call moves this call and no other. -/
theorem moves_modifyCall {label : Label} {next : State}
    {number modified : Nat} {call : Call} {change : Call → Call}
    (found : next.calls[number]? = some call)
    (move : modified = number →
      CallStep state number label call (change call)) :
    Moves state label number call (next.modifyCall modified change) := by
  refine ⟨_, getElem?_modifyCall next found modified change, ?_⟩
  by_cases same : modified = number
  · rw [if_pos same]
    exact move same
  · rw [if_neg same]
    exact .unchanged label call

/-- A step that changes one call depending on how far it has got. -/
theorem moves_whenCall_modifyCall {label : Label} {number thread : Nat}
    {call : Call} {here : Call → Bool} {next : Call → State}
    {change : Call → Call}
    (found : state.calls[number]? = some call)
    (kept : ∀ other, (next other).calls = state.calls)
    (move :
      thread = number → here call = true →
        CallStep state number label call (change call)) :
    Moves state label number call
      (state.whenCall thread here fun other =>
        (next other).modifyCall thread change) := by
  apply whenCall_rule state
  · exact moves_of_unchanged found
  · intro other isCall here
    refine moves_modifyCall (by rw [kept]; exact found) ?_
    rintro rfl
    rw [found] at isCall
    cases isCall
    exact move rfl here

/-- A failed send forces every call of the channel and ends its own call. -/
theorem step_send_failed (state : State) (thread : Nat) :
    step state (.send thread false) =
      state.whenCall thread (·.stage = .saved) fun failing =>
        (state.notifyDisconnected failing.channel).modifyCall thread
          fun call => { call with stage := .finished false } :=
  rfl

theorem EntriesCached.step_send_failed (cached : EntriesCached state)
    {number thread : Nat} {call : Call}
    (found : state.calls[number]? = some call) :
    Moves state (.send thread false) number call
      (step state (.send thread false)) := by
  have stepped := StubCalls.step_send_failed state thread
  rcases whenCall_eq state thread (·.stage = .saved) _ with
    same | ⟨failing, isFailing, here, failed⟩
  · rw [stepped, same]
    exact moves_of_unchanged found
  rw [failed] at stepped
  have saved : failing.stage = .saved := by simpa using here
  have gone : ∀ {other : Nat} {otherCall : Call},
      state.calls[other]? = some otherCall →
        otherCall.channel = failing.channel →
        ¬ (step state (.send thread false)).Holds other := by
    intro other otherCall isOther inChannel
    rw [stepped, ← inChannel]
    exact cached.not_holds_notifyDisconnected isOther
  rw [stepped]
  rcases cached.notifyDisconnected failing.channel found with
    same | ⟨isCached, inChannel, taken⟩
  · refine moves_modifyCall same ?_
    rintro rfl
    rw [found] at isFailing
    cases isFailing
    exact .failed saved (gone found rfl)
  · refine ⟨_, getElem?_modifyCall _ taken thread _, ?_⟩
    by_cases own : thread = number
    · subst own
      rw [found] at isFailing
      cases isFailing
      rw [if_pos rfl]
      exact .failedForced saved isCached (gone found rfl)
    · rw [if_neg own]
      exact .forced isCached (gone found inChannel)

/-- After `complete_response` no cache refers to the call it was for. -/
theorem EntriesCached.not_holds_completeResponse
    (cached : EntriesCached state) {channel : Nat} {id : UInt32}
    {entry : PendingCall}
    (stored : (state.pendingCalls channel)[callKey id]? = some entry) :
    ¬ (state.setPendingCalls channel
        (completeResponse (state.pendingCalls channel) id).1).Holds
      entry.complete := by
  rcases cached channel _ entry stored with
    ⟨number, call, same, rfl, isCall, rfl, hasId, key, -⟩
  obtain rfl := callKey_injective key
  rintro ⟨other, otherKey, otherEntry, otherStored, belongs⟩
  simp only [State.setPendingCalls, Function.update_apply,
    completeResponse, stored] at otherStored
  split at otherStored
  · rename_i inChannel
    subst inChannel
    rcases getElem?_erase_eq_some_iff.mp otherStored with
      ⟨different, before⟩
    rcases cached _ _ _ before with
      ⟨owner, ownerCall, ownerId, rfl, isOwner, -, ownerHasId, rfl, -⟩
    obtain rfl : owner = number := by simpa using belongs
    rw [isCall] at isOwner
    cases isOwner
    rw [hasId] at ownerHasId
    cases ownerHasId
    exact different rfl
  · rename_i otherChannel
    rcases cached _ _ _ otherStored with
      ⟨owner, ownerCall, -, rfl, isOwner, inOther, -⟩
    obtain rfl : owner = number := by simpa using belongs
    rw [isCall] at isOwner
    cases isOwner
    exact otherChannel inOther.symm

theorem EntriesCached.step_completeResponse (cached : EntriesCached state)
    {channel : Nat} {id : UInt32} {number : Nat} {call : Call}
    (found : state.calls[number]? = some call) :
    Moves state (.completeResponse channel id) number call
      (step state (.completeResponse channel id)) := by
  by_cases read : (channel, id) ∈ state.populated
  · cases stored : (state.pendingCalls channel)[callKey id]? with
    | none =>
        refine moves_of_unchanged ?_
        simpa [step, read, completeResponse, stored,
          State.setPendingCalls] using found
    | some entry =>
        have gone := cached.not_holds_completeResponse stored
        have stepped : step state (.completeResponse channel id) =
            ({ state with
              populated := state.populated.erase (channel, id)
              }.setPendingCalls channel
                (completeResponse
                  (state.pendingCalls channel) id).1).modifyCall
                entry.complete Call.take := by
          simp [step, read, completeResponse, stored]
        rw [stepped]
        refine moves_modifyCall found ?_
        rintro rfl
        rcases cached.of_holds ⟨channel, _, entry, stored, .inr rfl⟩ with
          ⟨other, _, isCall, -, -, isCached⟩
        rw [found] at isCall
        cases isCall
        refine .taken isCached ?_
        rw [stepped]
        exact gone
  · refine moves_of_unchanged ?_
    simpa [step, read] using found

theorem EntriesCached.step_populateMessageForResult
    (cached : EntriesCached state) {channel : Nat} {id : UInt32}
    {error : Bool} {number : Nat} {call : Call}
    (found : state.calls[number]? = some call) :
    Moves state (.populateMessageForResult channel id error) number call
      (step state (.populateMessageForResult channel id error)) := by
  simp only [step]
  split
  · rename_i owner populated
    refine moves_modifyCall found ?_
    rintro rfl
    rcases Option.map_eq_some_iff.mp populated with
      ⟨entry, stored, response⟩
    rcases cached.of_holds ⟨channel, _, entry, stored, .inl response⟩ with
      ⟨other, _, isCall, -, -, isCached⟩
    rw [found] at isCall
    cases isCall
    exact .populated isCached
  · exact moves_of_unchanged found

theorem step_runClosure_moves {ran number : Nat} {call : Call}
    (found : state.calls[number]? = some call) :
    Moves state (.runClosure ran) number call
      (step state (.runClosure ran)) := by
  apply whenCall_rule state
  · exact moves_of_unchanged found
  · intro other isCall here
    refine ⟨_, getElem?_runClosure state found ran, ?_⟩
    by_cases same : ran = number
    · subst same
      rw [found] at isCall
      cases isCall
      rw [if_pos rfl]
      exact .ran (by simpa using here)
    · rw [if_neg same]
      exact .unchanged _ _

/-- One step moves every call by one of the moves listed above. -/
theorem EntriesCached.step_call (cached : EntriesCached state)
    (label : Label) {number : Nat} {call : Call}
    (found : state.calls[number]? = some call) :
    Moves state label number call (step state label) := by
  cases label with
  | expectResult kind channel =>
      refine moves_of_unchanged ?_
      simp only [step, State.modifyHandle]
      rw [List.getElem?_append_left
        (List.getElem?_eq_some_iff.mp found).1]
      exact found
  | nextId thread =>
      refine moves_whenCall_modifyCall found (fun _ => rfl) ?_
      rintro rfl here
      exact .identified (by simpa using here)
  | foreignNextId => exact moves_of_unchanged found
  | saveCompletionDetails thread =>
      apply whenCall_rule state
      · exact moves_of_unchanged found
      · intro other isCall here
        cases other.id with
        | none => exact moves_of_unchanged found
        | some id =>
            refine moves_modifyCall found ?_
            rintro rfl
            rw [found] at isCall
            cases isCall
            exact .saved (by simpa using here)
  | send thread succeeds =>
      cases succeeds with
      | true =>
          refine moves_whenCall_modifyCall found (fun _ => rfl) ?_
          rintro rfl here
          exact .sent (by simpa using here)
      | false => exact cached.step_send_failed found
  | notifyDisconnected channel =>
      rcases cached.notifyDisconnected channel found with
        same | ⟨isCached, rfl, taken⟩
      · exact moves_of_unchanged same
      · exact ⟨call.take.run, taken,
          .forced isCached (cached.not_holds_notifyDisconnected found)⟩
  | populateMessageForResult channel id error =>
      exact cached.step_populateMessageForResult found
  | completeResponse channel id => exact cached.step_completeResponse found
  | runClosure ran => exact step_runClosure_moves found
  | waitForPending thread timedOut =>
      refine moves_whenCall_modifyCall found (fun _ => rfl) ?_
      rintro rfl here
      simp only [decide_eq_true_eq] at here
      exact .waited here.1 here.2
  | finish thread =>
      refine moves_whenCall_modifyCall found (fun _ => rfl) ?_
      rintro rfl here
      simp only [decide_eq_true_eq] at here
      rcases here with late | early
      · exact .finished late
      · exact .finished early

/-! ## Entries and new calls -/

theorem length_calls_runClosure (state : State) (number : Nat) :
    (state.runClosure number).calls.length = state.calls.length := by
  unfold State.runClosure
  split <;> simp [State.modifyHandle, State.modifyCall]

theorem length_calls_notifyDisconnected (state : State) (channel : Nat) :
    (state.notifyDisconnected channel).calls.length =
      state.calls.length := by
  have folded : ∀ (numbers : List Nat) (current : State),
      (numbers.foldl State.force current).calls.length =
        current.calls.length := by
    intro numbers
    induction numbers with
    | nil => exact fun _ => rfl
    | cons number numbers inductionHypothesis =>
        intro current
        rw [List.foldl_cons, inductionHypothesis, State.force,
          length_calls_runClosure]
        simp [State.modifyCall]
  exact folded _ _

/-- Only entering a function adds a call. -/
theorem length_calls_step (state : State) (label : Label) :
    (∃ kind channel, label = .expectResult kind channel) ∨
      (step state label).calls.length = state.calls.length := by
  cases label with
  | expectResult kind channel => exact Or.inl ⟨kind, channel, rfl⟩
  | foreignNextId => exact Or.inr rfl
  | nextId number | waitForPending number timedOut | finish number =>
      right
      apply whenCall_rule state
        (motive := fun next => next.calls.length = state.calls.length) rfl
      intro call _ _
      simp [State.modifyCall]
  | saveCompletionDetails number =>
      right
      apply whenCall_rule state
        (motive := fun next => next.calls.length = state.calls.length) rfl
      intro call _ _
      cases call.id <;> simp [State.modifyCall, State.setPendingCalls]
  | send number succeeds =>
      right
      apply whenCall_rule state
        (motive := fun next => next.calls.length = state.calls.length) rfl
      intro call _ _
      cases succeeds with
      | true => simp [State.modifyCall]
      | false =>
          simp [State.modifyCall, length_calls_notifyDisconnected]
  | notifyDisconnected channel =>
      exact Or.inr (length_calls_notifyDisconnected state channel)
  | populateMessageForResult channel id error =>
      right
      simp only [step]
      split <;> simp [State.modifyCall]
  | completeResponse channel id =>
      right
      simp only [step]
      split
      · split <;> simp [State.modifyCall, State.setPendingCalls]
      · rfl
  | runClosure number =>
      right
      apply whenCall_rule state
        (motive := fun next => next.calls.length = state.calls.length) rfl
      intro call _ _
      exact length_calls_runClosure state number

/-- A call after a step was there before or has just been entered. -/
theorem EntriesCached.call_before (cached : EntriesCached state)
    {label : Label} {number : Nat} {next : Call}
    (found : (step state label).calls[number]? = some next) :
    (∃ call, state.calls[number]? = some call ∧
        CallStep state number label call next) ∨
      ∃ kind channel, next = Call.entered kind number channel := by
  cases before : state.calls[number]? with
  | some call =>
      rcases cached.step_call label before with ⟨moved, isMoved, move⟩
      rw [found] at isMoved
      cases isMoved
      exact Or.inl ⟨call, rfl, move⟩
  | none =>
      right
      have outside := List.getElem?_eq_none_iff.mp before
      have inside := (List.getElem?_eq_some_iff.mp found).1
      rcases length_calls_step state label with
        ⟨kind, channel, rfl⟩ | unchanged
      · have last : number = state.calls.length := by
          simp only [step, State.modifyHandle, List.length_append,
            List.length_singleton] at inside
          omega
        subst last
        simp only [step, State.modifyHandle,
          List.getElem?_concat_length, Option.some.injEq] at found
        exact ⟨kind, channel, found.symm⟩
      · omega

/-- No entry has been added to a cache. -/
def EntriesKept (state next : State) : Prop :=
  ∀ (channel : Nat) (key : Int32) (entry : PendingCall),
    (next.pendingCalls channel)[key]? = some entry →
      (state.pendingCalls channel)[key]? = some entry

theorem entriesKept_of_eq {next : State}
    (same : next.pendingCalls = state.pendingCalls) :
    EntriesKept state next := by
  intro channel key entry stored
  rwa [same] at stored

theorem entriesKept_notifyDisconnected (state : State) (channel : Nat) :
    EntriesKept state (state.notifyDisconnected channel) := by
  intro other key entry stored
  rw [pendingCalls_notifyDisconnected, Function.update_apply] at stored
  split at stored
  · simp at stored
  · exact stored

/-- Saving a call is the only step that adds an entry to a cache. -/
theorem entriesKept_step (state : State) (label : Label) :
    (∃ number, label = .saveCompletionDetails number) ∨
      EntriesKept state (step state label) := by
  have kept : EntriesKept state state := entriesKept_of_eq rfl
  cases label with
  | saveCompletionDetails number => exact Or.inl ⟨number, rfl⟩
  | expectResult kind other | foreignNextId => exact Or.inr kept
  | nextId number | waitForPending number timedOut | finish number =>
      right
      apply whenCall_rule state (motive := EntriesKept state) kept
      exact fun _ _ _ => kept
  | runClosure number =>
      right
      apply whenCall_rule state (motive := EntriesKept state) kept
      exact fun _ _ _ =>
        entriesKept_of_eq (pendingCalls_runClosure state number)
  | send number succeeds =>
      right
      apply whenCall_rule state (motive := EntriesKept state) kept
      intro call _ _
      cases succeeds with
      | true => exact kept
      | false => exact entriesKept_notifyDisconnected state call.channel
  | notifyDisconnected channel =>
      exact Or.inr (entriesKept_notifyDisconnected state channel)
  | populateMessageForResult channel id error =>
      right
      simp only [step]
      split <;> exact kept
  | completeResponse channel id =>
      right
      have erased : EntriesKept state
          (state.setPendingCalls channel
            (completeResponse (state.pendingCalls channel) id).1) := by
        intro other key entry stored
        simp only [State.setPendingCalls, Function.update_apply,
          completeResponse] at stored
        split at stored
        · rename_i same
          subst same
          split at stored
          · exact (getElem?_erase_eq_some_iff.mp stored).2
          · exact stored
        · exact stored
      simp only [step]
      split
      · split <;> exact erased
      · exact kept

/-- What saving a call does to its entry and to the call. -/
theorem entry_saved {number channel : Nat} {key : Int32}
    {entry : PendingCall}
    (stored :
      ((step state (.saveCompletionDetails number)).pendingCalls
        channel)[key]? = some entry) :
    (state.pendingCalls channel)[key]? = some entry ∨
      ∃ (call : Call) (id : UInt32),
        state.calls[number]? = some call ∧ call.channel = channel ∧
          call.id = some id ∧ key = callKey id ∧
          entry = ⟨number, number⟩ ∧
          (step state (.saveCompletionDetails number)).calls[number]? =
            some { call with stage := .saved, closure := .cached } := by
  revert stored
  apply whenCall_rule state (motive := fun next =>
    (next.pendingCalls channel)[key]? = some entry →
      (state.pendingCalls channel)[key]? = some entry ∨
        ∃ (call : Call) (id : UInt32),
          state.calls[number]? = some call ∧ call.channel = channel ∧
            call.id = some id ∧ key = callKey id ∧
            entry = ⟨number, number⟩ ∧
            next.calls[number]? =
              some { call with stage := .saved, closure := .cached })
  · exact Or.inl
  · intro call found _
    cases hasId : call.id with
    | none => exact Or.inl
    | some id =>
        intro stored
        simp only [pendingCalls_modifyCall, State.setPendingCalls,
          Function.update_apply] at stored
        split at stored
        · rename_i same
          subst same
          simp only [saveCompletionDetails,
            Std.TreeMap.getElem?_insert] at stored
          split at stored
          · rename_i equal
            refine Or.inr ⟨call, id, found, rfl, hasId, ?_, ?_, ?_⟩
            · exact (Std.LawfulEqCmp.eq_of_compare equal).symm
            · exact (Option.some.inj stored).symm
            · have modified := getElem?_modifyCall state found number
                fun call => { call with stage := .saved, closure := .cached }
              rwa [if_pos rfl] at modified
          · exact Or.inl stored
        · exact Or.inl stored

/-! ## The counters of the wait handles -/

/-- The call uses the wait handle. -/
def Call.uses (handle : HandleRef) (call : Call) : Bool :=
  call.handle = handle

/-- The call uses the wait handle and its closure was run. -/
def Call.ranFor (handle : HandleRef) (call : Call) : Bool :=
  call.handle = handle ∧ call.closure = .ran

/-- A handle expects every call and has received the closures that were run. -/
def Counted (state : State) : Prop :=
  ∀ handle,
    (state.handles handle).expecting =
        state.calls.countP (Call.uses handle) ∧
      (state.handles handle).received =
        state.calls.countP (Call.ranFor handle)

/-- A handle that has received all it expects has no call left to wait for. -/
theorem Counted.ran_of_complete (counted : Counted state)
    {number : Nat} {call : Call}
    (found : state.calls[number]? = some call)
    (complete : (state.handles call.handle).complete = true) :
    call.closure = .ran := by
  rcases counted call.handle with ⟨expecting, received⟩
  have equal : (state.handles call.handle).received =
      (state.handles call.handle).expecting := by
    simpa [WaitHandle.complete] using complete
  have all : ∀ other ∈ state.calls, Call.uses call.handle other →
      Call.ranFor call.handle other := by
    apply forall_of_countP_le
    · intro other ran
      simp only [Call.ranFor, decide_eq_true_eq] at ran
      simp [Call.uses, ran.1]
    · omega
  have ran := all call (List.mem_of_getElem? found) (by simp [Call.uses])
  simpa [Call.ranFor] using ran

theorem Counted.modifyCall (counted : Counted state) {number : Nat}
    {change : Call → Call}
    (sameHandle :
      ∀ call, state.calls[number]? = some call →
        (change call).handle = call.handle)
    (sameClosure :
      ∀ call, state.calls[number]? = some call →
        ((change call).closure = .ran ↔ call.closure = .ran)) :
    Counted (state.modifyCall number change) := by
  intro handle
  rcases counted handle with ⟨expecting, received⟩
  cases found : state.calls[number]? with
  | none =>
      have outside := List.getElem?_eq_none_iff.mp found
      simp only [State.modifyCall, List.modify_eq_self outside]
      exact ⟨expecting, received⟩
  | some call =>
      have handles := sameHandle call found
      have closures := sameClosure call found
      have counts := countP_modify found change (Call.uses handle)
      have ranCounts := countP_modify found change (Call.ranFor handle)
      simp only [Call.uses, Call.ranFor, handles, closures]
        at counts ranCounts
      simp only [State.modifyCall]
      constructor
      · rw [expecting]
        exact (Nat.add_right_cancel counts).symm
      · rw [received]
        exact (Nat.add_right_cancel ranCounts).symm

theorem Counted.runClosure (counted : Counted state) {number : Nat}
    {call : Call} (found : state.calls[number]? = some call)
    (waiting : call.closure ≠ .ran) :
    Counted (state.runClosure number) := by
  intro handle
  rcases counted handle with ⟨expecting, received⟩
  have counts := countP_modify found Call.run (Call.uses handle)
  have ranCounts := countP_modify found Call.run (Call.ranFor handle)
  have before : call.ranFor handle = false := by
    simp [Call.ranFor, waiting]
  simp only [State.runClosure, found, State.modifyHandle,
    State.modifyCall, Function.update_apply]
  by_cases same : handle = call.handle
  · subst same
    have used : call.run.uses call.handle = true := by
      simp [Call.uses, Call.run]
    have after : call.run.ranFor call.handle = true := by
      simp [Call.ranFor, Call.run]
    have usedBefore : call.uses call.handle = true := by
      simp [Call.uses]
    simp only [before, after, used, usedBefore, if_true,
      Bool.false_eq_true, if_false] at counts ranCounts
    simp only [if_true, WaitHandle.resultReceived]
    omega
  · have used : call.run.uses handle = call.uses handle := rfl
    have after : call.run.ranFor handle = false := by
      simp [Call.ranFor, Call.run, Ne.symm same]
    simp only [before, after, used] at counts ranCounts
    simp only [if_neg same]
    omega

theorem Counted.force (counted : Counted state) {number : Nat}
    {call : Call} (found : state.calls[number]? = some call)
    (cached : call.closure = .cached) :
    Counted (state.force number) := by
  have taken := getElem?_modifyCall state found number Call.take
  rw [if_pos rfl] at taken
  refine Counted.runClosure ?_ taken (by simp [Call.take])
  apply counted.modifyCall
  · exact fun _ _ => rfl
  · intro other isCall
    rw [found] at isCall
    cases isCall
    simp [Call.take, cached]

theorem Counted.foldl_force (counted : Counted state)
    {numbers : List Nat} (distinct : numbers.Nodup)
    (cached :
      ∀ number ∈ numbers, ∃ call, state.calls[number]? = some call ∧
        call.closure = .cached) :
    Counted (numbers.foldl State.force state) := by
  induction numbers generalizing state with
  | nil => exact counted
  | cons number numbers inductionHypothesis =>
      rcases List.nodup_cons.mp distinct with ⟨fresh, distinct⟩
      rcases cached number List.mem_cons_self with ⟨call, found, waiting⟩
      refine inductionHypothesis (counted.force found waiting) distinct ?_
      intro other member
      rcases cached other (List.mem_cons_of_mem _ member) with
        ⟨otherCall, otherFound, otherWaiting⟩
      have kept := getElem?_force state otherFound number
      have different : number ≠ other := by
        rintro rfl
        exact fresh member
      rw [if_neg different] at kept
      exact ⟨otherCall, kept, otherWaiting⟩

/-- A call has at most one entry in the cache of a channel. -/
theorem EntriesCached.nodup_closures (cached : EntriesCached state)
    (channel : Nat) : (closures (state.pendingCalls channel)).Nodup := by
  apply List.Nodup.map_on
  · rintro ⟨key, entry⟩ member ⟨otherKey, otherEntry⟩ otherMember same
    have stored :=
      Std.TreeMap.mem_toList_iff_getElem?_eq_some.mp member
    have otherStored :=
      Std.TreeMap.mem_toList_iff_getElem?_eq_some.mp otherMember
    rcases cached channel key entry stored with
      ⟨number, call, id, rfl, found, -, hasId, rfl, -⟩
    rcases cached channel otherKey otherEntry otherStored with
      ⟨other, otherCall, otherId, rfl, otherFound, -, otherHasId, rfl, -⟩
    obtain rfl : number = other := same
    rw [found] at otherFound
    cases otherFound
    rw [hasId] at otherHasId
    cases otherHasId
    rfl
  · refine (Std.TreeMap.distinct_keys_toList).imp ?_
    rintro left right different rfl
    exact different Std.ReflCmp.compare_self

theorem Counted.notifyDisconnected (counted : Counted state)
    (cached : EntriesCached state) (channel : Nat) :
    Counted (state.notifyDisconnected channel) := by
  have erased : Counted (state.setPendingCalls channel ∅) := counted
  refine erased.foldl_force (cached.nodup_closures channel) ?_
  intro number listed
  rcases mem_closures_iff.mp listed with ⟨key, entry, stored, complete⟩
  rcases cached.of_holds ⟨channel, key, entry, stored, .inr complete⟩ with
    ⟨call, -, found, -, -, isCached⟩
  exact ⟨call, found, isCached⟩

/-! ## What holds in every state -/

/-- What the fields of a call say about one another. -/
structure Call.WellFormed (call : Call) : Prop where
  unsaved :
    call.stage = .expecting ∨ call.stage = .identified →
      call.closure = .unsaved
  saved :
    call.closure = .unsaved →
      call.stage = .expecting ∨ call.stage = .identified
  hasId : call.stage = .expecting ∨ call.id.isSome
  complete : call.stage = .waited false → call.closure = .ran
  hasError : call.error = true → call.answered = true

/-- What holds in every state that can be reached. -/
structure Consistent (state : State) : Prop where
  entriesCached : EntriesCached state
  counted : Counted state
  wellFormed :
    ∀ (number : Nat) (call : Call),
      state.calls[number]? = some call → call.WellFormed

theorem Call.wellFormed_entered (kind : Kind) (number channel : Nat) :
    (Call.entered kind number channel).WellFormed where
  unsaved := fun _ => rfl
  saved := fun _ => Or.inl rfl
  hasId := Or.inl rfl
  complete := by simp [Call.entered]
  hasError := by simp [Call.entered]

/-- Every move keeps a call well formed. -/
theorem CallStep.wellFormed {label : Label} {number : Nat}
    {call next : Call} (move : CallStep state number label call next)
    (counted : Counted state)
    (found : state.calls[number]? = some call)
    (wellFormed : call.WellFormed) : next.WellFormed := by
  rcases wellFormed with ⟨unsaved, saved, hasId, complete, hasError⟩
  cases move with
  | unchanged => exact ⟨unsaved, saved, hasId, complete, hasError⟩
  | identified expecting => constructor <;> simp_all
  | saved identified => constructor <;> simp_all
  | sent saved => constructor <;> simp_all
  | forced cached gone => constructor <;> simp_all [Call.take, Call.run]
  | failed saved gone => constructor <;> simp_all
  | failedForced saved cached gone =>
      constructor <;> simp_all [Call.take, Call.run]
  | populated cached => constructor <;> simp_all
  | taken cached gone => constructor <;> simp_all [Call.take]
  | ran taken => constructor <;> simp_all [Call.run]
  | waited waiting ended =>
      refine ⟨by simp, by simp_all, by simp_all, ?_, hasError⟩
      intro early
      cases early
      have ran := counted.ran_of_complete found
        (ended.resolve_left Bool.false_ne_true)
      exact ran
  | finished waited => constructor <;> simp_all

/-- A call that a cache still refers to after a move keeps its closure there. -/
theorem CallStep.cached_of_holds {label : Label} {number : Nat}
    {call next : Call} (move : CallStep state number label call next)
    (wellFormed : call.WellFormed) (cached : call.closure = .cached)
    (holds : (step state label).Holds number) :
    next.closure = .cached ∧ next.channel = call.channel ∧
      next.id = call.id := by
  have saved := wellFormed.unsaved
  cases move with
  | unchanged => exact ⟨cached, rfl, rfl⟩
  | identified expecting => simp [expecting, cached] at saved
  | saved identified => exact ⟨rfl, rfl, rfl⟩
  | sent | waited | finished | populated => exact ⟨cached, rfl, rfl⟩
  | forced _ gone | failed _ gone | failedForced _ _ gone
  | taken _ gone => exact absurd holds gone
  | ran taken => simp [taken] at cached

theorem Consistent.step_entriesCached (consistent : Consistent state)
    (label : Label) : EntriesCached (step state label) := by
  have cached := consistent.entriesCached
  intro channel key entry stored
  have before : (state.pendingCalls channel)[key]? = some entry →
      ∃ (number : Nat) (call : Call) (id : UInt32),
        entry = ⟨number, number⟩ ∧
          (step state label).calls[number]? = some call ∧
          call.channel = channel ∧ call.id = some id ∧
          key = callKey id ∧ call.closure = .cached := by
    intro old
    rcases cached channel key entry old with
      ⟨number, call, id, rfl, found, rfl, hasId, rfl, isCached⟩
    rcases cached.step_call label found with ⟨next, isNext, move⟩
    rcases move.cached_of_holds (consistent.wellFormed _ _ found) isCached
        ⟨_, _, _, stored, .inl rfl⟩ with
      ⟨stillCached, sameChannel, sameId⟩
    exact ⟨number, next, id, rfl, isNext, sameChannel,
      sameId.trans hasId, rfl, stillCached⟩
  rcases entriesKept_step state label with ⟨number, rfl⟩ | kept
  · rcases entry_saved stored with
      old | ⟨call, id, -, inChannel, hasId, key, same, saved⟩
    · exact before old
    · exact ⟨number, _, id, same, saved, inChannel, hasId, key, rfl⟩
  · exact before (kept channel key entry stored)

/-- A step of a thread that leaves handles and closures alone. -/
theorem Counted.whenCall_modifyCall (counted : Counted state)
    {number : Nat} {here : Call → Bool} {next : Call → State}
    {change : Call → Call}
    (sameCalls : ∀ call, (next call).calls = state.calls)
    (sameHandles : ∀ call, (next call).handles = state.handles)
    (sameHandle : ∀ call, (change call).handle = call.handle)
    (sameClosure : ∀ call, (change call).closure = call.closure) :
    Counted
      (state.whenCall number here fun call =>
        (next call).modifyCall number change) := by
  apply whenCall_rule state counted
  intro call _ _
  have unmodified : Counted (next call) := by
    intro handle
    rw [sameCalls, sameHandles]
    exact counted handle
  apply unmodified.modifyCall
  · exact fun other _ => sameHandle other
  · intro other _
    rw [sameClosure]

theorem completeResponse_eq_some {pendingCalls : PendingCalls}
    {id : UInt32} {closure : ClosurePtr}
    (taken : (completeResponse pendingCalls id).2 = some closure) :
    ∃ entry, pendingCalls[callKey id]? = some entry ∧
      entry.complete = closure := by
  unfold completeResponse at taken
  split at taken
  · rename_i entry stored
    exact ⟨entry, stored, Option.some.inj taken⟩
  · cases taken

theorem Counted.expectResult (counted : Counted state) (kind : Kind)
    (channel : Nat) : Counted (step state (.expectResult kind channel)) := by
  intro handle
  rcases counted handle with ⟨expecting, received⟩
  have fresh : Call.ranFor handle
      (Call.entered kind state.calls.length channel) = false := by
    simp [Call.ranFor, Call.entered]
  simp only [step, State.modifyHandle, Function.update_apply,
    List.countP_append, List.countP_singleton, fresh]
  by_cases same : handle = handleRef kind state.calls.length
  · subst same
    simpa [WaitHandle.expectResult, Call.uses, Call.entered] using
      ⟨expecting, received⟩
  · have unused : Call.uses handle
        (Call.entered kind state.calls.length channel) = false := by
      simp [Call.uses, Call.entered, Ne.symm same]
    simpa [same, unused] using ⟨expecting, received⟩

/-- Saving a call does not change whether its closure was run. -/
theorem Consistent.counted_saved (consistent : Consistent state)
    (number : Nat) :
    Counted (step state (.saveCompletionDetails number)) := by
  apply whenCall_rule state consistent.counted
  intro call found here
  cases call.id with
  | none => exact consistent.counted
  | some id =>
      have saved : Counted (state.setPendingCalls call.channel
          (saveCompletionDetails (state.pendingCalls call.channel) id
            ⟨number, number⟩)) := consistent.counted
      apply saved.modifyCall
      · exact fun _ _ => rfl
      · intro other isCall
        obtain rfl : call = other :=
          Option.some.inj (found.symm.trans isCall)
        have unsaved :=
          (consistent.wellFormed number call found).unsaved
            (.inr (by simpa using here))
        simp [unsaved]

/-- A closure that leaves the cache has not been run yet. -/
theorem Consistent.counted_completed (consistent : Consistent state)
    (channel : Nat) (id : UInt32) :
    Counted (step state (.completeResponse channel id)) := by
  have erased : Counted ({ state with
      populated := state.populated.erase (channel, id)
      }.setPendingCalls channel
        (completeResponse (state.pendingCalls channel) id).1) :=
    consistent.counted
  simp only [step]
  split
  · split
    · rename_i number taken
      apply erased.modifyCall
      · exact fun _ _ => rfl
      · intro call found
        rcases completeResponse_eq_some taken with
          ⟨entry, stored, complete⟩
        rcases consistent.entriesCached.of_holds
            ⟨channel, _, entry, stored, .inr complete⟩ with
          ⟨other, -, isCall, -, -, cached⟩
        obtain rfl : call = other :=
          Option.some.inj (found.symm.trans isCall)
        simp [Call.take, cached]
    · exact erased
  · exact consistent.counted

theorem Consistent.step_counted (consistent : Consistent state)
    (label : Label) : Counted (step state label) := by
  have counted := consistent.counted
  cases label with
  | expectResult kind channel => exact counted.expectResult kind channel
  | nextId number | waitForPending number timedOut | finish number =>
      exact counted.whenCall_modifyCall (fun _ => rfl) (fun _ => rfl)
        (fun _ => rfl) (fun _ => rfl)
  | foreignNextId => exact counted
  | saveCompletionDetails number => exact consistent.counted_saved number
  | send number succeeds =>
      cases succeeds with
      | true =>
          exact counted.whenCall_modifyCall (fun _ => rfl) (fun _ => rfl)
            (fun _ => rfl) (fun _ => rfl)
      | false =>
          apply whenCall_rule state counted
          intro call _ _
          have forced := counted.notifyDisconnected
            consistent.entriesCached call.channel
          exact forced.modifyCall (fun _ _ => rfl) (fun _ _ => Iff.rfl)
  | notifyDisconnected channel =>
      exact counted.notifyDisconnected consistent.entriesCached channel
  | populateMessageForResult channel id error =>
      have read : Counted { state with
          populated := state.populated ++ [(channel, id)] } := counted
      simp only [step]
      split
      · exact read.modifyCall (fun _ _ => rfl) (fun _ _ => Iff.rfl)
      · exact counted
  | completeResponse channel id =>
      exact consistent.counted_completed channel id
  | runClosure number =>
      apply whenCall_rule state counted
      intro call found here
      have taken : call.closure = .taken := by simpa using here
      exact counted.runClosure found (by simp [taken])

theorem Consistent.preserved (consistent : Consistent state) (label : Label) :
    Consistent (step state label) where
  entriesCached := consistent.step_entriesCached label
  counted := consistent.step_counted label
  wellFormed := by
    intro number next found
    rcases consistent.entriesCached.call_before found with
      ⟨call, before, move⟩ | ⟨kind, channel, rfl⟩
    · exact move.wellFormed consistent.counted before
        (consistent.wellFormed number call before)
    · exact Call.wellFormed_entered kind number channel

theorem Consistent.initial : Consistent State.initial where
  entriesCached := by
    intro channel key entry stored
    simp [State.initial] at stored
  counted := fun _ => ⟨rfl, rfl⟩
  wellFormed := by
    intro number call found
    simp [State.initial] at found

theorem consistent_after (labels : List Label) :
    Consistent (after labels) :=
  run_invariant (fun _ label consistent => consistent.preserved label)
    Consistent.initial labels

end Anbox.Bridge.StubCalls
