import Anbox.Foundation.Runs
import Anbox.Rpc.PendingCallCache
import Mathlib.Algebra.Order.Ring.Nat
import Mathlib.Data.List.Count

/-!
# Calls over an RPC channel

`Channel::call_method` takes an id, saves the caller's response object and
closure in the pending call cache and sends the invocation.  A failed send
forces the completion of all pending calls.  Meanwhile a reader populates the
response object of a call and completes it.

The critical sections of the cache's mutex are the steps of the model, so a
run is any interleaving of any number of calling threads with any number of
results being processed.  The call with number `n` has response object `n` and
closure `n`.
-/

namespace Anbox.Rpc.Channel

open Anbox.Foundation.Runs
open Anbox.Rpc.PendingCallCache

/-! ## The steps of callers and readers -/

/-- What callers can observe. -/
inductive Event where
  /-- A result with this id was written to a response object. -/
  | populated (message : MessagePtr) (id : UInt32)
  /-- A closure was run. -/
  | ran (closure : ClosurePtr)
deriving DecidableEq, Repr

/-- A channel, its pending call cache and the threads that use them. -/
structure State where
  /-- `next_message_id`, a static variable shared by all channels. -/
  nextMessageId : UInt32
  /-- How often `next_id` was called, for any channel. -/
  taken : Nat
  /-- The id of each call of this channel, by its number. -/
  issued : List UInt32
  /-- Calls that have an id but are not in the cache yet. -/
  unsaved : List Nat
  /-- Calls that are in the cache but have not been sent. -/
  unsent : List Nat
  pendingCalls : PendingCalls
  /-- Results between `populate_message_for_result` and `complete_response`. -/
  populated : List UInt32
  /-- Closures taken from the cache that are about to be run. -/
  running : List ClosurePtr
  log : List Event

def State.initial : State := ⟨0, 0, [], [], [], ∅, [], [], []⟩

/-- One critical section or one call of a closure. -/
inductive Label where
  /-- A thread enters `call_method` and `invocation_for` takes an id. -/
  | nextId
  /-- Another channel takes an id. -/
  | foreignNextId
  | saveCompletionDetails (call : Nat)
  /-- `sender_->send` returns or throws a `std::runtime_error`. -/
  | send (call : Nat) (succeeds : Bool)
  | forceCompletion
  /-- A result with this id is read from the connection. -/
  | populateMessageForResult (id : UInt32)
  | completeResponse (id : UInt32)
  | run (closure : ClosurePtr)
deriving DecidableEq, Repr

/-- `notify_disconnected`: all closures are run inside the critical section. -/
def notifyDisconnected (state : State) : State :=
  let completion := forceCompletion state.pendingCalls
  { state with
    pendingCalls := completion.1
    log := state.log ++ completion.2.map Event.ran }

/-- Take one step; a step whose thread is not at that point changes nothing. -/
def step (state : State) : Label → State
  | .nextId =>
      { state with
        nextMessageId := state.nextMessageId + 1
        taken := state.taken + 1
        issued := state.issued ++ [state.nextMessageId]
        unsaved := state.unsaved ++ [state.issued.length] }
  | .foreignNextId =>
      { state with
        nextMessageId := state.nextMessageId + 1
        taken := state.taken + 1 }
  | .saveCompletionDetails call =>
      match state.issued[call]? with
      | some id =>
          if call ∈ state.unsaved then
            { state with
              unsaved := state.unsaved.erase call
              unsent := state.unsent ++ [call]
              pendingCalls :=
                saveCompletionDetails state.pendingCalls id ⟨call, call⟩ }
          else state
      | none => state
  | .send call succeeds =>
      if call ∈ state.unsent then
        let sent := { state with unsent := state.unsent.erase call }
        if succeeds then sent else notifyDisconnected sent
      else state
  | .forceCompletion => notifyDisconnected state
  | .populateMessageForResult id =>
      match populateMessageForResult state.pendingCalls id with
      | some message =>
          { state with
            populated := state.populated ++ [id]
            log := state.log ++ [.populated message id] }
      -- `at` throws, so the result is not completed either
      | none => state
  | .completeResponse id =>
      if id ∈ state.populated then
        let completion := completeResponse state.pendingCalls id
        { state with
          populated := state.populated.erase id
          pendingCalls := completion.1
          running := state.running ++ completion.2.toList }
      else state
  | .run closure =>
      if closure ∈ state.running then
        { state with
          running := state.running.erase closure
          log := state.log ++ [.ran closure] }
      else state

/-- The state after a run on a new channel. -/
def after (labels : List Label) : State :=
  runFrom step State.initial labels

/-- Whether a step takes an id. -/
def Label.takesId : Label → Bool
  | .nextId | .foreignNextId => true
  | _ => false

theorem step_taken (state : State) (label : Label) :
    (step state label).taken =
      state.taken + if label.takesId then 1 else 0 := by
  cases label with
  | nextId | foreignNextId | forceCompletion => rfl
  | saveCompletionDetails call =>
      simp only [step, Label.takesId]
      split
      · split <;> rfl
      · rfl
  | send call succeeds =>
      simp only [step, Label.takesId]
      split
      · cases succeeds <;> rfl
      · rfl
  | populateMessageForResult id =>
      simp only [step, Label.takesId]
      split <;> rfl
  | completeResponse id | run id =>
      simp only [step, Label.takesId]
      split <;> rfl

theorem after_taken (labels : List Label) :
    (after labels).taken = labels.countP Label.takesId := by
  suffices general : ∀ state : State,
      (runFrom step state labels).taken =
        state.taken + labels.countP Label.takesId by
    have fresh := general State.initial
    rwa [show State.initial.taken = 0 from rfl, Nat.zero_add] at fresh
  induction labels with
  | nil => simp
  | cons label labels inductionHypothesis =>
      intro state
      rw [runFrom_cons, inductionHypothesis, step_taken,
        List.countP_cons]
      omega

/-! ## Where a closure is -/

/--
How often a closure occurs among the calls not yet saved, in the cache, among
the closures about to be run and among those that were run.
-/
def occurrences (state : State) (closure : ClosurePtr) : Nat :=
  state.unsaved.count closure +
    (closures state.pendingCalls).count closure +
    state.running.count closure +
    state.log.count (.ran closure)

/-- A result is never written for a call whose closure was run before. -/
def PopulatedBeforeRun (log : List Event) : Prop :=
  log.Pairwise fun earlier later =>
    ∀ message id, later = .populated message id → earlier ≠ .ran message

/-- What holds as long as the ids have not wrapped around. -/
structure Consistent (state : State) : Prop where
  counter : state.nextMessageId.toNat = state.taken
  issuedBelow : ∀ id ∈ state.issued, id.toNat < state.taken
  issuedNodup : state.issued.Nodup
  entry :
    ∀ id call, state.pendingCalls[callKey id]? = some call →
      ∃ number, state.issued[number]? = some id ∧ call = ⟨number, number⟩
  once :
    ∀ closure,
      occurrences state closure =
        if closure < state.issued.length then 1 else 0
  populatedOwn :
    ∀ message id, .populated message id ∈ state.log →
      state.issued[message]? = some id
  populatedBefore : PopulatedBeforeRun state.log

theorem Consistent.initial : Consistent State.initial where
  counter := rfl
  issuedBelow := by simp [State.initial]
  issuedNodup := List.nodup_nil
  entry := by
    intro id call found
    simp [State.initial] at found
  once := by simp [occurrences, State.initial]
  populatedOwn := by simp [State.initial]
  populatedBefore := List.Pairwise.nil

/-! ## One step keeps the state consistent -/

variable {state : State}

theorem Consistent.count_ran_le (consistent : Consistent state)
    (closure : ClosurePtr) : state.log.count (.ran closure) ≤ 1 := by
  have once := consistent.once closure
  unfold occurrences at once
  split at once <;> omega

/-- A call that is still in the cache has not been completed. -/
theorem Consistent.not_ran_of_entry (consistent : Consistent state)
    {key : Int32} {call : PendingCall}
    (found : state.pendingCalls[key]? = some call) :
    .ran call.complete ∉ state.log := by
  have waiting : 0 < (closures state.pendingCalls).count call.complete :=
    List.count_pos_iff.mpr (mem_closures_iff.mpr ⟨key, call, found, rfl⟩)
  have once := consistent.once call.complete
  unfold occurrences at once
  intro ran
  have := List.count_pos_iff.mpr ran
  split at once <;> omega

/-- A call that is not saved yet has no entry in the cache. -/
theorem Consistent.no_entry_of_unsaved (consistent : Consistent state)
    {call : Nat} {id : UInt32} (isIssued : state.issued[call]? = some id)
    (unsaved : call ∈ state.unsaved) :
    state.pendingCalls[callKey id]? = none := by
  cases found : state.pendingCalls[callKey id]? with
  | none => rfl
  | some entry =>
      obtain ⟨number, numberIssued, rfl⟩ := consistent.entry id entry found
      have same : number = call := by
        have inside := (List.getElem?_eq_some_iff.mp numberIssued).1
        exact (List.getElem?_inj inside consistent.issuedNodup).mp
          (numberIssued.trans isIssued.symm)
      subst same
      have waiting : 0 < (closures state.pendingCalls).count number :=
        List.count_pos_iff.mpr (mem_closures_iff.mpr ⟨_, _, found, rfl⟩)
      have listed := List.count_pos_iff.mpr unsaved
      have once := consistent.once number
      unfold occurrences at once
      split at once <;> omega

theorem PopulatedBeforeRun.append {log later : List Event}
    (old : PopulatedBeforeRun log) (new : PopulatedBeforeRun later)
    (apart :
      ∀ message id, .populated message id ∈ later →
        .ran message ∉ log) :
    PopulatedBeforeRun (log ++ later) := by
  refine List.pairwise_append.mpr ⟨old, new, ?_⟩
  rintro earlier earlierMember _ laterMember message id rfl rfl
  exact apart message id laterMember earlierMember

theorem populatedBeforeRun_map_ran (completed : List ClosurePtr) :
    PopulatedBeforeRun (completed.map Event.ran) := by
  apply List.pairwise_of_forall_mem_list
  intro earlier _ later member message id equal
  obtain ⟨closure, -, rfl⟩ := List.mem_map.mp member
  cases equal

theorem Consistent.nextId (consistent : Consistent state)
    (room : state.taken + 1 < 2 ^ 32) :
    Consistent (step state .nextId) := by
  have counter := consistent.counter
  have fresh : state.nextMessageId ∉ state.issued := by
    intro member
    have := consistent.issuedBelow _ member
    omega
  constructor
  case counter =>
    simp only [step, UInt32.toNat_add, UInt32.toNat_one]
    omega
  case issuedBelow =>
    intro id member
    simp only [step, List.mem_append, List.mem_singleton] at member ⊢
    rcases member with old | rfl
    · have := consistent.issuedBelow id old
      omega
    · omega
  case issuedNodup =>
    simpa [step, List.nodup_append] using
      ⟨consistent.issuedNodup, fun id member equal => fresh (equal ▸ member)⟩
  case entry =>
    intro id call found
    obtain ⟨number, isIssued, equal⟩ := consistent.entry id call found
    exact ⟨number, by
      rw [step, List.getElem?_append_left
        (List.getElem?_eq_some_iff.mp isIssued).1]
      exact isIssued, equal⟩
  case once =>
    intro closure
    have once := consistent.once closure
    simp only [occurrences, step, List.count_append, List.count_singleton,
      List.length_append, List.length_singleton, beq_iff_eq] at once ⊢
    grind
  case populatedOwn =>
    intro message id member
    have isIssued := consistent.populatedOwn message id member
    rw [step, List.getElem?_append_left
      (List.getElem?_eq_some_iff.mp isIssued).1]
    exact isIssued
  case populatedBefore => exact consistent.populatedBefore

theorem Consistent.foreignNextId (consistent : Consistent state)
    (room : state.taken + 1 < 2 ^ 32) :
    Consistent (step state .foreignNextId) where
  counter := by
    have counter := consistent.counter
    simp only [step, UInt32.toNat_add, UInt32.toNat_one]
    omega
  issuedBelow := by
    intro id member
    exact Nat.lt_succ_of_lt (consistent.issuedBelow id member)
  issuedNodup := consistent.issuedNodup
  entry := consistent.entry
  once := consistent.once
  populatedOwn := consistent.populatedOwn
  populatedBefore := consistent.populatedBefore

theorem Consistent.saveCompletionDetails (consistent : Consistent state)
    (call : Nat) :
    Consistent (step state (.saveCompletionDetails call)) := by
  unfold step
  dsimp only
  split
  · rename_i id isIssued
    split
    · rename_i unsaved
      have absent := consistent.no_entry_of_unsaved isIssued unsaved
      constructor
      case counter => exact consistent.counter
      case issuedBelow => exact consistent.issuedBelow
      case issuedNodup => exact consistent.issuedNodup
      case entry =>
        intro other entry found
        rw [getElem?_saveCompletionDetails] at found
        split at found
        · rename_i equal
          subst equal
          cases found
          exact ⟨call, isIssued, rfl⟩
        · exact consistent.entry other entry found
      case once =>
        intro closure
        have once := consistent.once closure
        have listed := List.count_pos_iff.mpr unsaved
        simp only [occurrences, count_closures_save absent,
          List.count_erase, beq_iff_eq] at once ⊢
        grind
      case populatedOwn => exact consistent.populatedOwn
      case populatedBefore => exact consistent.populatedBefore
    · exact consistent
  · exact consistent

/-- Every closure waiting in the cache is run once more, and none is left. -/
theorem count_ran_notifyDisconnected (state : State)
    (closure : ClosurePtr) :
    (notifyDisconnected state).log.count (.ran closure) =
      state.log.count (.ran closure) +
        (closures state.pendingCalls).count closure := by
  have injective : Function.Injective Event.ran := by
    intro left right equal
    cases equal
    rfl
  simp only [notifyDisconnected, List.count_append, closures]
  rw [List.count_map_of_injective _ _ injective]

theorem Consistent.notifyDisconnected (consistent : Consistent state) :
    Consistent (notifyDisconnected state) where
  counter := consistent.counter
  issuedBelow := consistent.issuedBelow
  issuedNodup := consistent.issuedNodup
  entry := by
    intro id call found
    simp [Channel.notifyDisconnected, forceCompletion] at found
  once := by
    intro closure
    have ran := count_ran_notifyDisconnected state closure
    have none : closures (Channel.notifyDisconnected state).pendingCalls = [] :=
      closures_empty
    refine Eq.trans ?_ (consistent.once closure)
    rw [occurrences, occurrences, ran, none, List.count_nil]
    simp only [Channel.notifyDisconnected]
    omega
  populatedOwn := by
    intro message id member
    simp only [Channel.notifyDisconnected, List.mem_append,
      List.mem_map] at member
    rcases member with old | ⟨closure, -, equal⟩
    · exact consistent.populatedOwn message id old
    · cases equal
  populatedBefore := by
    apply consistent.populatedBefore.append
      (populatedBeforeRun_map_ran _)
    intro message id member
    obtain ⟨closure, -, equal⟩ := List.mem_map.mp member
    cases equal

theorem Consistent.send (consistent : Consistent state)
    (call : Nat) (succeeds : Bool) :
    Consistent (step state (.send call succeeds)) := by
  unfold step
  dsimp only
  split
  · -- `unsent` only records which calls may still fail.
    have sent : Consistent
        { state with unsent := state.unsent.erase call } :=
      ⟨consistent.counter, consistent.issuedBelow, consistent.issuedNodup,
        consistent.entry, consistent.once, consistent.populatedOwn,
        consistent.populatedBefore⟩
    split
    · exact sent
    · exact sent.notifyDisconnected
  · exact consistent

theorem Consistent.populateMessageForResult (consistent : Consistent state)
    (id : UInt32) :
    Consistent (step state (.populateMessageForResult id)) := by
  unfold step
  dsimp only
  split
  · rename_i message found
    obtain ⟨call, callFound, rfl⟩ := Option.map_eq_some_iff.mp found
    obtain ⟨number, isIssued, rfl⟩ := consistent.entry id call callFound
    constructor
    case counter => exact consistent.counter
    case issuedBelow => exact consistent.issuedBelow
    case issuedNodup => exact consistent.issuedNodup
    case entry => exact consistent.entry
    case once =>
      intro closure
      refine Eq.trans ?_ (consistent.once closure)
      simp [occurrences]
    case populatedOwn =>
      intro message other member
      rcases List.mem_append.mp member with old | new
      · exact consistent.populatedOwn message other old
      · cases List.mem_singleton.mp new
        exact isIssued
    case populatedBefore =>
      apply consistent.populatedBefore.append (List.pairwise_singleton _ _)
      intro message other member
      cases List.mem_singleton.mp member
      exact consistent.not_ran_of_entry callFound
  · exact consistent

theorem Consistent.completeResponse (consistent : Consistent state)
    (id : UInt32) :
    Consistent (step state (.completeResponse id)) := by
  unfold step
  dsimp only
  split
  · constructor
    case counter => exact consistent.counter
    case issuedBelow => exact consistent.issuedBelow
    case issuedNodup => exact consistent.issuedNodup
    case entry =>
      intro other call found
      rw [getElem?_completeResponse] at found
      split at found
      · cases found
      · exact consistent.entry other call found
    case once =>
      intro closure
      have moved := count_closures_complete state.pendingCalls id closure
      refine Eq.trans ?_ (consistent.once closure)
      simp only [occurrences, List.count_append]
      omega
    case populatedOwn => exact consistent.populatedOwn
    case populatedBefore => exact consistent.populatedBefore
  · exact consistent

theorem Consistent.run (consistent : Consistent state)
    (closure : ClosurePtr) :
    Consistent (step state (.run closure)) := by
  unfold step
  dsimp only
  split
  · rename_i isRunning
    constructor
    case counter => exact consistent.counter
    case issuedBelow => exact consistent.issuedBelow
    case issuedNodup => exact consistent.issuedNodup
    case entry => exact consistent.entry
    case once =>
      intro other
      have listed := List.count_pos_iff.mpr isRunning
      refine Eq.trans ?_ (consistent.once other)
      simp only [occurrences, List.count_append, List.count_erase,
        List.count_singleton, beq_iff_eq, Event.ran.injEq]
      grind
    case populatedOwn =>
      intro message id member
      rcases List.mem_append.mp member with old | new
      · exact consistent.populatedOwn message id old
      · cases List.mem_singleton.mp new
    case populatedBefore =>
      apply consistent.populatedBefore.append (List.pairwise_singleton _ _)
      intro message id member
      cases List.mem_singleton.mp member
  · exact consistent

/-- Every step that does not exhaust the ids keeps the state consistent. -/
theorem Consistent.step (consistent : Consistent state) (label : Label)
    (room : (step state label).taken < 2 ^ 32) :
    Consistent (step state label) := by
  cases label with
  | nextId => exact consistent.nextId room
  | foreignNextId => exact consistent.foreignNextId room
  | saveCompletionDetails call => exact consistent.saveCompletionDetails call
  | send call succeeds => exact consistent.send call succeeds
  | forceCompletion => exact consistent.notifyDisconnected
  | populateMessageForResult id =>
      exact consistent.populateMessageForResult id
  | completeResponse id => exact consistent.completeResponse id
  | run closure => exact consistent.run closure

theorem consistent_after {labels : List Label}
    (room : labels.countP Label.takesId < 2 ^ 32) :
    Consistent (after labels) := by
  have invariant :
      (after labels).taken < 2 ^ 32 → Consistent (after labels) := by
    refine @run_invariant State Label step
      (fun state => state.taken < 2 ^ 32 → Consistent state) ?_
      State.initial (fun _ => Consistent.initial) labels
    intro state label invariant stepRoom
    have grows := step_taken state label
    exact (invariant (by omega)).step label stepRoom
  exact invariant (by rw [after_taken]; exact room)

/-! ## Calls complete exactly once -/

/-- The steps that end in `force_completion`. -/
def Forces (state : State) : Label → Prop
  | .forceCompletion => True
  | .send call succeeds => call ∈ state.unsent ∧ succeeds = false
  | _ => False

/-- The call with this number waits in the cache. -/
def Pending (state : State) (call : Nat) : Prop :=
  ∃ id, state.issued[call]? = some id ∧
    state.pendingCalls[callKey id]? = some ⟨call, call⟩

theorem step_of_forces {label : Label} (forces : Forces state label) :
    (step state label).pendingCalls = ∅ ∧
      ∀ closure,
        (step state label).log.count (.ran closure) =
          state.log.count (.ran closure) +
            (closures state.pendingCalls).count closure := by
  cases label with
  | forceCompletion =>
      exact ⟨rfl, count_ran_notifyDisconnected state⟩
  | send call succeeds =>
      obtain ⟨unsent, rfl⟩ := forces
      simp only [step, if_pos unsent, Bool.false_eq_true, if_false]
      exact ⟨rfl, count_ran_notifyDisconnected _⟩
  | nextId | foreignNextId | saveCompletionDetails _
  | populateMessageForResult _ | completeResponse _ | run _ =>
      exact forces.elim

/--
In every interleaving that takes fewer than `2 ^ 32` ids, no closure is run
twice, a result is written only to the response object of the call with its
id and never after that call's closure was run, and a forced completion
empties the cache and leaves every call that was pending with one run of its
closure.
-/
theorem calls_complete_exactly_once (labels : List Label)
    (room : labels.countP Label.takesId < 2 ^ 32) :
    (∀ call, (after labels).log.count (.ran call) ≤ 1) ∧
      (∀ message id, .populated message id ∈ (after labels).log →
        (after labels).issued[message]? = some id) ∧
      PopulatedBeforeRun (after labels).log ∧
      ∀ label, Forces (after labels) label →
        (step (after labels) label).pendingCalls = ∅ ∧
          ∀ call, Pending (after labels) call →
            (step (after labels) label).log.count (.ran call) = 1 := by
  have consistent := consistent_after room
  refine ⟨consistent.count_ran_le, consistent.populatedOwn,
    consistent.populatedBefore, ?_⟩
  intro label forces
  obtain ⟨empties, counts⟩ := step_of_forces forces
  refine ⟨empties, ?_⟩
  rintro call ⟨id, -, found⟩
  have waiting : 0 < (closures (after labels).pendingCalls).count call :=
    List.count_pos_iff.mpr (mem_closures_iff.mpr ⟨_, _, found, rfl⟩)
  have once := consistent.once call
  unfold occurrences at once
  rw [counts call]
  split at once <;> omega

theorem calls_complete_exactly_once_failed_send :
    let labels : List Label :=
      [.nextId, .saveCompletionDetails 0, .nextId, .saveCompletionDetails 1]
    Forces (after labels) (.send 1 false) ∧
      (step (after labels) (.send 1 false)).pendingCalls = ∅ ∧
      (step (after labels) (.send 1 false)).log.count (.ran 0) = 1 := by
  have forces :
      Forces
        (after [.nextId, .saveCompletionDetails 0, .nextId,
          .saveCompletionDetails 1]) (.send 1 false) := by
    exact ⟨by decide, rfl⟩
  have completed :=
    (calls_complete_exactly_once
      [.nextId, .saveCompletionDetails 0, .nextId, .saveCompletionDetails 1]
      (by decide)).2.2.2 (.send 1 false) forces
  exact ⟨forces, completed.1, completed.2 0 ⟨0, by decide, by decide⟩⟩

end Anbox.Rpc.Channel
