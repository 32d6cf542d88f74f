import Anbox.Bridge.StubCalls

/-!
# How the calls of the API stubs return

A call returns while the cache may still refer to its request, and it returns
normally whenever its wait handle has ever received a result.  This module
says for which runs neither of the two does harm.
-/

namespace Anbox.Bridge.StubReturns

open Anbox.Foundation.Runs
open Anbox.Rpc.PendingCallCache
open Anbox.Bridge.StubCalls

variable {state : State}

/-! ## How an entry leaves its cache -/

/--
The step takes the entry of a call out of its cache: the response to the call
is completed, all calls of its channel are forced, or another call is saved
under the same id.
-/
def TakesOut (state : State) (call : Call) : Label → Prop
  | .completeResponse channel id =>
      (channel, id) ∈ state.populated ∧ call.channel = channel ∧
        call.id = some id
  | .notifyDisconnected channel => call.channel = channel
  | .send thread false =>
      ∃ failing, state.calls[thread]? = some failing ∧
        failing.stage = .saved ∧ call.channel = failing.channel
  | .saveCompletionDetails thread =>
      ∃ later, state.calls[thread]? = some later ∧
        later.stage = .identified ∧ call.channel = later.channel ∧
        call.id = later.id
  | _ => False

/-- The entry of the call was taken out of its cache in the run. -/
def TakenOut (labels : List Label) (number : Nat) : Prop :=
  ∃ (earlier : List Label) (label : Label) (call : Call),
    earlier ++ [label] <+: labels ∧
      (after earlier).calls[number]? = some call ∧
      call.closure ≠ .unsaved ∧ TakesOut (after earlier) call label

/-- What a step does to the entry that a call may have under its id. -/
def KeepsEntry (state next : State) (number : Nat) (call : Call)
    (id : UInt32) (takesOut : Prop) : Prop :=
  (next.pendingCalls call.channel)[callKey id]? = some ⟨number, number⟩ ↔
    (state.pendingCalls call.channel)[callKey id]? =
        some ⟨number, number⟩ ∧ ¬ takesOut

section Entries

variable {number : Nat} {call : Call} {id : UInt32}

theorem keepsEntry_of_eq {next : State} {takesOut : Prop}
    (same : next.pendingCalls = state.pendingCalls)
    (kept : ¬ takesOut) :
    KeepsEntry state next number call id takesOut := by
  simp [KeepsEntry, same, kept]

theorem keepsEntry_notifyDisconnected (channel : Nat) :
    KeepsEntry state (state.notifyDisconnected channel) number call id
      (call.channel = channel) := by
  simp only [KeepsEntry, pendingCalls_notifyDisconnected,
    Function.update_apply]
  split <;> simp [*]

theorem keepsEntry_completeResponse (hasId : call.id = some id)
    (channel : Nat) (completed : UInt32) :
    KeepsEntry state (step state (.completeResponse channel completed))
      number call id
      (TakesOut state call (.completeResponse channel completed)) := by
  by_cases read : (channel, completed) ∈ state.populated
  · have erased :
        (step state (.completeResponse channel completed)).pendingCalls =
          Function.update state.pendingCalls channel
            (completeResponse (state.pendingCalls channel) completed).1 := by
      simp only [step, if_pos read]
      split <;> rfl
    simp only [KeepsEntry, TakesOut, erased, read, hasId,
      Function.update_apply, true_and, Option.some.injEq]
    by_cases inChannel : call.channel = channel
    · subst inChannel
      rw [if_pos rfl, getElem?_completeResponse]
      by_cases same : completed = id
      · simp [same]
      · simp [same, Ne.symm same]
    · simp [inChannel]
  · apply keepsEntry_of_eq
    · simp [step, read]
    · simp [TakesOut, read]

theorem keepsEntry_saveCompletionDetails
    (found : state.calls[number]? = some call)
    (hasId : call.id = some id) (saved : call.stage ≠ .identified)
    (thread : Nat) :
    KeepsEntry state (step state (.saveCompletionDetails thread))
      number call id
      (TakesOut state call (.saveCompletionDetails thread)) := by
  cases isLater : state.calls[thread]? with
  | none =>
      apply keepsEntry_of_eq
      · simp [step, State.whenCall, isLater]
      · simp [TakesOut, isLater]
  | some later =>
      by_cases identified : later.stage = .identified
      · have different : thread ≠ number := by
          rintro rfl
          rw [found] at isLater
          cases isLater
          exact saved identified
        cases laterId : later.id with
        | none =>
            apply keepsEntry_of_eq
            · simp [step, State.whenCall, isLater, identified, laterId]
            · simp [TakesOut, isLater, hasId, laterId]
        | some inserted =>
            have stepped :
                (step state (.saveCompletionDetails thread)).pendingCalls =
                  Function.update state.pendingCalls later.channel
                    (saveCompletionDetails
                      (state.pendingCalls later.channel) inserted
                      ⟨thread, thread⟩) := by
              simp [step, State.whenCall, isLater, identified, laterId,
                State.setPendingCalls]
            simp only [KeepsEntry, TakesOut, stepped, isLater, hasId,
              Function.update_apply, Option.some.injEq, exists_eq_left',
              identified, laterId, true_and]
            by_cases inChannel : call.channel = later.channel
            · rw [if_pos inChannel, ← inChannel,
                getElem?_saveCompletionDetails]
              by_cases same : inserted = id
              · simp [same, different]
              · simp [same, Ne.symm same]
            · simp [inChannel]
      · apply keepsEntry_of_eq
        · simp [step, State.whenCall, isLater, identified]
        · simp [TakesOut, isLater, identified]

theorem keepsEntry_send (thread : Nat) (succeeds : Bool) :
    KeepsEntry state (step state (.send thread succeeds)) number call id
      (TakesOut state call (.send thread succeeds)) := by
  cases succeeds with
  | true =>
      apply keepsEntry_of_eq
      · apply whenCall_rule state
          (motive := fun next => next.pendingCalls = state.pendingCalls) rfl
        exact fun _ _ _ => rfl
      · exact fun takenOut => takenOut
  | false =>
      cases isFailing : state.calls[thread]? with
      | none =>
          apply keepsEntry_of_eq
          · simp [step, State.whenCall, isFailing]
          · simp [TakesOut, isFailing]
      | some failing =>
          by_cases saved : failing.stage = .saved
          · have forced :=
              @keepsEntry_notifyDisconnected state number call id
                failing.channel
            simpa [KeepsEntry, TakesOut, step, State.whenCall, isFailing,
              saved] using forced
          · apply keepsEntry_of_eq
            · simp [step, State.whenCall, isFailing, saved]
            · simp [TakesOut, isFailing, saved]

/-- One step, seen from the entry of a call that has been saved. -/
theorem keepsEntry_step (found : state.calls[number]? = some call)
    (hasId : call.id = some id) (saved : call.stage ≠ .identified)
    (label : Label) :
    KeepsEntry state (step state label) number call id
      (TakesOut state call label) := by
  cases label with
  | expectResult kind channel | foreignNextId =>
      exact keepsEntry_of_eq rfl fun takenOut => takenOut
  | nextId thread | waitForPending thread timedOut | finish thread =>
      apply keepsEntry_of_eq _ fun takenOut => takenOut
      apply whenCall_rule state
        (motive := fun next => next.pendingCalls = state.pendingCalls) rfl
      exact fun _ _ _ => rfl
  | runClosure thread =>
      apply keepsEntry_of_eq _ fun takenOut => takenOut
      apply whenCall_rule state
        (motive := fun next => next.pendingCalls = state.pendingCalls) rfl
      exact fun _ _ _ => pendingCalls_runClosure state thread
  | populateMessageForResult channel other error =>
      apply keepsEntry_of_eq _ fun takenOut => takenOut
      simp only [step]
      split <;> rfl
  | saveCompletionDetails thread =>
      exact keepsEntry_saveCompletionDetails found hasId saved thread
  | send thread succeeds => exact keepsEntry_send thread succeeds
  | notifyDisconnected channel =>
      exact keepsEntry_notifyDisconnected channel
  | completeResponse channel completed =>
      exact keepsEntry_completeResponse hasId channel completed

/-- A call that has been saved stays saved and keeps its id. -/
theorem saved_after {label : Label} {next : Call}
    (move : CallStep state number label call next)
    (wellFormed : call.WellFormed) (saved : call.closure ≠ .unsaved) :
    next.closure ≠ .unsaved ∧ next.channel = call.channel ∧
      next.id = call.id := by
  cases move with
  | unchanged | sent | waited | finished | populated | failed =>
      exact ⟨saved, rfl, rfl⟩
  | identified expecting =>
      exact absurd (wellFormed.unsaved (Or.inl expecting)) saved
  | saved | forced | failedForced | taken | ran =>
      exact ⟨ClosureState.noConfusion, rfl, rfl⟩

/-- Only saving a call makes it a saved one. -/
theorem identified_before {label : Label} {next : Call}
    (move : CallStep state number label call next)
    (unsaved : call.closure = .unsaved) (saved : next.closure ≠ .unsaved) :
    label = .saveCompletionDetails number ∧ call.stage = .identified := by
  cases move with
  | unchanged | identified | sent | waited | finished | populated | failed =>
      exact absurd unsaved saved
  | saved identified => exact ⟨rfl, identified⟩
  | forced cached | failedForced _ cached | taken cached | ran cached =>
      rw [unsaved] at cached
      cases cached

theorem holds_saveCompletionDetails
    (found : state.calls[number]? = some call)
    (identified : call.stage = .identified) (hasId : call.id = some id) :
    (step state (.saveCompletionDetails number)).Holds number := by
  refine ⟨call.channel, callKey id, ⟨number, number⟩, ?_, Or.inl rfl⟩
  simp [step, State.whenCall, found, identified, hasId,
    State.setPendingCalls]

end Entries

/-! ## Entries over a run -/

/-- The call has been in its cache. -/
def Saved (state : State) (number : Nat) : Prop :=
  ∃ call, state.calls[number]? = some call ∧ call.closure ≠ .unsaved

section Histories

variable {number : Nat} {label : Label}

theorem takenOut_concat_iff {labels : List Label} :
    TakenOut (labels ++ [label]) number ↔
      TakenOut labels number ∨
        ∃ call, (after labels).calls[number]? = some call ∧
          call.closure ≠ .unsaved ∧ TakesOut (after labels) call label := by
  constructor
  · rintro ⟨earlier, last, call, isPrefix, found, saved, takesOut⟩
    rcases List.prefix_concat_iff.mp isPrefix with same | before
    · rcases List.append_inj' same rfl with ⟨rfl, singleton⟩
      cases singleton
      exact Or.inr ⟨call, found, saved, takesOut⟩
    · exact Or.inl ⟨earlier, last, call, before, found, saved, takesOut⟩
  · rintro (⟨earlier, last, call, before, rest⟩ | ⟨call, rest⟩)
    · exact ⟨earlier, last, call, before.trans (List.prefix_append ..), rest⟩
    · exact ⟨labels, label, call, List.prefix_rfl, rest⟩

theorem Saved.step (consistent : Consistent state)
    (saved : Saved state number) : Saved (step state label) number := by
  rcases saved with ⟨call, found, saved⟩
  rcases consistent.entriesCached.step_call label found with
    ⟨next, isNext, move⟩
  exact ⟨next, isNext,
    (saved_after move (consistent.wellFormed number call found) saved).1⟩

theorem not_takenOut_nil : ¬ TakenOut [] number := by
  rintro ⟨earlier, last, -, isPrefix, -⟩
  simp at isPrefix

theorem saved_of_takenOut (labels : List Label) (number : Nat) :
    TakenOut labels number → Saved (after labels) number := by
  refine run_history (motive := fun labels state =>
    TakenOut labels number → Saved state number) ?_ ?_ labels
  · exact fun takenOut => absurd takenOut not_takenOut_nil
  · intro labels label before takenOut
    apply Saved.step (consistent_after labels)
    rcases takenOut_concat_iff.mp takenOut with
      earlier | ⟨call, found, saved, -⟩
    · exact before earlier
    · exact ⟨call, found, saved⟩

/-- A step that saves the call enters it into its cache. -/
theorem holds_step_iff_of_unsaved (consistent : Consistent state)
    (unsaved : ¬ Saved state number) :
    (step state label).Holds number ↔ Saved (step state label) number := by
  have next := consistent.preserved label
  constructor
  · intro holds
    rcases next.entriesCached.of_holds holds with
      ⟨call, -, found, -, -, cached⟩
    exact ⟨call, found, by simp [cached]⟩
  · rintro ⟨call, found, saved⟩
    rcases consistent.entriesCached.call_before found with
      ⟨before, isBefore, move⟩ | ⟨kind, channel, rfl⟩
    · have notYet : before.closure = .unsaved := by
        by_contra already
        exact unsaved ⟨before, isBefore, already⟩
      rcases identified_before move notYet saved with ⟨rfl, identified⟩
      rcases (consistent.wellFormed number before isBefore).hasId with
        expecting | hasId
      · rw [identified] at expecting
        cases expecting
      · rcases Option.isSome_iff_exists.mp hasId with ⟨id, hasId⟩
        exact holds_saveCompletionDetails isBefore identified hasId
    · exact absurd rfl saved

/-- A saved call keeps its entry until it is taken out. -/
theorem holds_step_iff_of_saved (consistent : Consistent state)
    {call : Call} (found : state.calls[number]? = some call)
    (saved : call.closure ≠ .unsaved) :
    (step state label).Holds number ↔
      state.Holds number ∧ ¬ TakesOut state call label := by
  have wellFormed := consistent.wellFormed number call found
  have past : call.stage ≠ .expecting ∧ call.stage ≠ .identified :=
    ⟨fun stage => saved (wellFormed.unsaved (Or.inl stage)),
      fun stage => saved (wellFormed.unsaved (Or.inr stage))⟩
  rcases Option.isSome_iff_exists.mp (wellFormed.hasId.resolve_left past.1)
    with ⟨id, hasId⟩
  rcases consistent.entriesCached.step_call label found with
    ⟨next, isNext, move⟩
  rcases saved_after move wellFormed saved with
    ⟨-, sameChannel, sameId⟩
  have nextCached := (consistent.preserved label).entriesCached
  rw [nextCached.holds_iff isNext (sameId.trans hasId), sameChannel,
    consistent.entriesCached.holds_iff found hasId]
  exact keepsEntry_step found hasId past.2 label

theorem holds_concat_iff {labels : List Label}
    (before :
      (after labels).Holds number ↔
        Saved (after labels) number ∧ ¬ TakenOut labels number) :
    (step (after labels) label).Holds number ↔
      Saved (step (after labels) label) number ∧
        ¬ TakenOut (labels ++ [label]) number := by
  have consistent := consistent_after labels
  rw [takenOut_concat_iff]
  by_cases saved : Saved (after labels) number
  · have still : Saved (step (after labels) label) number :=
      saved.step consistent
    rcases saved with ⟨call, found, isSaved⟩
    have last :
        (∃ other, (after labels).calls[number]? = some other ∧
            other.closure ≠ .unsaved ∧
              TakesOut (after labels) other label) ↔
          TakesOut (after labels) call label := by
      simp [found, isSaved]
    rw [holds_step_iff_of_saved consistent found isSaved, before, last,
      not_or]
    constructor
    · rintro ⟨⟨-, notBefore⟩, notNow⟩
      exact ⟨still, notBefore, notNow⟩
    · rintro ⟨-, notBefore, notNow⟩
      exact ⟨⟨⟨call, found, isSaved⟩, notBefore⟩, notNow⟩
  · have never :
        ¬ (TakenOut labels number ∨
          ∃ call, (after labels).calls[number]? = some call ∧
            call.closure ≠ .unsaved ∧
              TakesOut (after labels) call label) := by
      rintro (takenOut | ⟨call, found, isSaved, -⟩)
      · exact saved (saved_of_takenOut labels number takenOut)
      · exact saved ⟨call, found, isSaved⟩
    rw [holds_step_iff_of_unsaved consistent saved, and_iff_left never]

/-- A cache refers to the calls that were saved and not taken out again. -/
theorem holds_after_iff (labels : List Label) (number : Nat) :
    (after labels).Holds number ↔
      Saved (after labels) number ∧ ¬ TakenOut labels number := by
  refine run_history (motive := fun labels state =>
    state.Holds number ↔ Saved state number ∧ ¬ TakenOut labels number)
    ?_ (fun _ _ before => holds_concat_iff before) labels
  constructor
  · rintro ⟨channel, key, entry, stored, -⟩
    simp [State.initial] at stored
  · rintro ⟨⟨call, found, -⟩, -⟩
    simp [State.initial] at found

end Histories

/-! ## Entries of calls that have returned -/

/-- No cache refers to the request of a call that has returned or thrown. -/
def NoStaleEntry (state : State) : Prop :=
  ∀ (number : Nat) (call : Call), state.calls[number]? = some call →
    call.Finished → ¬ state.Holds number

/-- A call whose wait timed out returns only when it is no longer pending. -/
def TimesOutCompleted (state : State) (label : Label) : Prop :=
  ∀ (number : Nat) (call : Call), label = .finish number →
    state.calls[number]? = some call → call.stage = .waited true →
      ¬ state.Holds number

theorem holds_of_entriesKept {next : State} (kept : EntriesKept state next)
    {number : Nat} (holds : next.Holds number) : state.Holds number := by
  rcases holds with ⟨channel, key, entry, stored, belongs⟩
  exact ⟨channel, key, entry, kept channel key entry stored, belongs⟩

/-- A call whose entry is new has just been saved. -/
theorem holds_before {label : Label} {number : Nat}
    (holds : (step state label).Holds number) :
    state.Holds number ∨
      ∃ next, (step state label).calls[number]? = some next ∧
        next.stage = .saved := by
  rcases entriesKept_step state label with ⟨saved, rfl⟩ | kept
  · rcases holds with ⟨channel, key, entry, stored, belongs⟩
    rcases entry_saved stored with old | ⟨call, -, -, -, -, -, rfl, next⟩
    · exact Or.inl ⟨channel, key, entry, old, belongs⟩
    · obtain rfl : saved = number := by simpa using belongs
      exact Or.inr ⟨_, next, rfl⟩
  · exact Or.inl (holds_of_entriesKept kept holds)

theorem step_finish {number : Nat} {call : Call} {timedOut : Bool}
    (found : state.calls[number]? = some call)
    (waited : call.stage = .waited timedOut) :
    step state (.finish number) =
      state.modifyCall number fun call =>
        { call with
          stage := .finished
            (returnsNormally call (state.handles call.handle)) } := by
  cases timedOut <;> simp [step, State.whenCall, found, waited]

/-- The call that returns, after its last step. -/
theorem getElem?_step_finish {number : Nat} {call : Call} {timedOut : Bool}
    (found : state.calls[number]? = some call)
    (waited : call.stage = .waited timedOut) :
    (step state (.finish number)).calls[number]? =
      some { call with
        stage := .finished
          (returnsNormally call (state.handles call.handle)) } := by
  rw [step_finish found waited, getElem?_modifyCall state found, if_pos rfl]

/-- How a call can have come to be finished. -/
theorem finished_before {label : Label} {number : Nat}
    {call next : Call} (move : CallStep state number label call next)
    (isFinished : next.Finished) :
    call.Finished ∨ ¬ (step state label).Holds number ∨
      label = .finish number ∧ ∃ timedOut, call.stage = .waited timedOut := by
  rcases isFinished with ⟨normally, isFinished⟩
  cases move with
  | unchanged | populated | taken | ran | forced =>
      exact Or.inl ⟨normally, isFinished⟩
  | identified | saved | sent | waited => cases isFinished
  | failed _ gone | failedForced _ _ gone => exact Or.inr (Or.inl gone)
  | finished waited => exact Or.inr (Or.inr ⟨rfl, _, waited⟩)

theorem noStaleEntry_step_iff (consistent : Consistent state)
    (noStaleEntry : NoStaleEntry state) (label : Label) :
    TimesOutCompleted state label ↔ NoStaleEntry (step state label) := by
  constructor
  · intro completed number next found isFinished holds
    rcases holds_before holds with before | ⟨saved, isSaved, stage⟩
    · rcases consistent.entriesCached.call_before found with
        ⟨call, isCall, move⟩ | ⟨kind, channel, rfl⟩
      · rcases finished_before move isFinished with
          already | gone | ⟨rfl, timedOut, waited⟩
        · exact noStaleEntry number call isCall already before
        · exact gone holds
        · cases timedOut with
          | true => exact completed number call rfl isCall waited before
          | false =>
              -- The handle had received all results it was waiting for.
              have ran :=
                (consistent.wellFormed number call isCall).complete waited
              rcases consistent.entriesCached.of_holds before with
                ⟨other, -, isOther, -, -, cached⟩
              rw [isCall] at isOther
              cases isOther
              rw [ran] at cached
              cases cached
      · rcases isFinished with ⟨normally, stage⟩
        cases stage
    · rw [found] at isSaved
      cases isSaved
      rcases isFinished with ⟨normally, finished⟩
      rw [stage] at finished
      cases finished
  · rintro kept number call rfl found waited holds
    refine kept number _ (getElem?_step_finish found waited) ⟨_, rfl⟩ ?_
    rw [step_finish found waited]
    exact holds

theorem noStaleEntry_initial : NoStaleEntry State.initial := by
  intro number call found
  simp [State.initial] at found

theorem noStaleEntry_iff_admitted (labels : List Label) :
    (∀ earlier, earlier <+: labels → NoStaleEntry (after earlier)) ↔
      Admitted step TimesOutCompleted State.initial labels :=
  (@admitted_iff_always State Label step TimesOutCompleted Consistent
    NoStaleEntry (fun _ label consistent => consistent.preserved label)
    (fun _ label consistent holds =>
      noStaleEntry_step_iff consistent holds label)
    State.initial Consistent.initial noStaleEntry_initial labels).symm

/-- Whether a returning call is pending can be read off the run before. -/
theorem timesOutCompleted_iff (earlier : List Label) (label : Label) :
    TimesOutCompleted (after earlier) label ↔
      ∀ (number : Nat) (call : Call), label = .finish number →
        (after earlier).calls[number]? = some call →
          call.stage = .waited true → TakenOut earlier number := by
  have pending : ∀ {number : Nat} {call : Call},
      (after earlier).calls[number]? = some call →
        call.stage = .waited true →
          (¬ (after earlier).Holds number ↔ TakenOut earlier number) := by
    intro number call found waited
    have wellFormed := (consistent_after earlier).wellFormed number call found
    have saved : Saved (after earlier) number := by
      refine ⟨call, found, fun unsaved => ?_⟩
      have stage := wellFormed.saved unsaved
      simp [waited] at stage
    rw [holds_after_iff, and_iff_right saved, not_not]
  constructor
  · intro completed number call isFinish found waited
    exact (pending found waited).mp
      (completed number call isFinish found waited)
  · intro takenOut number call isFinish found waited
    exact (pending found waited).mpr
      (takenOut number call isFinish found waited)

/--
No cache ever refers to the request of a call that has returned or thrown,
exactly if for every call that returns after a time-out its response was
completed, the calls of its channel were forced or another call was saved under
its id before.
-/
theorem noStaleEntry_iff (labels : List Label) :
    (∀ earlier, earlier <+: labels → NoStaleEntry (after earlier)) ↔
      ∀ (earlier : List Label) (number : Nat) (call : Call),
        earlier ++ [.finish number] <+: labels →
          (after earlier).calls[number]? = some call →
            call.stage = .waited true → TakenOut earlier number := by
  rw [noStaleEntry_iff_admitted, admitted_iff_forall_step]
  constructor
  · intro admitted earlier number call isPrefix found waited
    exact (timesOutCompleted_iff earlier _).mp
      (admitted earlier _ isPrefix) number call rfl found waited
  · intro takenOut earlier label isPrefix
    apply (timesOutCompleted_iff earlier label).mpr
    rintro number call rfl found waited
    exact takenOut earlier number call isPrefix found waited

/-- A call that nobody answers, up to the end of its wait. -/
def unansweredLaunch : List Label :=
  [.expectResult .launch 0, .nextId 0, .saveCompletionDetails 0,
    .send 0 true, .waitForPending 0 true, .finish 0]

/-- The call has thrown, and the cache would still write to its response. -/
theorem stale_entry_after_timeout :
    ((after unansweredLaunch).calls.map Call.stage = [.finished false] ∧
        populateMessageForResult ((after unansweredLaunch).pendingCalls 0)
          0 = some 0) ∧
      ¬ NoStaleEntry (after unansweredLaunch) := by
  have facts :
      (after unansweredLaunch).calls.map Call.stage = [.finished false] ∧
        populateMessageForResult ((after unansweredLaunch).pendingCalls 0)
          0 = some 0 := by
    decide
  refine ⟨facts, ?_⟩
  intro noStaleEntry
  rcases Option.map_eq_some_iff.mp facts.2 with ⟨entry, stored, response⟩
  refine noStaleEntry 0 _ rfl ⟨false, rfl⟩
    ⟨0, _, entry, stored, Or.inl response⟩

/-! ## Calls without a response -/

/-- A call of the Android stub that returned normally had its response. -/
def ReturnsAnswered (state : State) : Prop :=
  ∀ (number : Nat) (call : Call), state.calls[number]? = some call →
    call.kind.android = true → call.stage = .finished true →
      call.answered = true

/--
When a call of the Android stub looks at its result, its closure has been run
for a response only, and if its wait timed out without a response, no closure
of its kind has ever been run.
-/
def ReportsTimeout (state : State) (label : Label) : Prop :=
  ∀ (number : Nat) (call : Call) (timedOut : Bool),
    label = .finish number → state.calls[number]? = some call →
      call.kind.android = true → call.stage = .waited timedOut →
      (call.closure = .ran → call.answered = true) ∧
        (timedOut = true → call.answered = false →
          (state.handles call.handle).received = 0)

/-- A call whose closure was run has been counted by its handle. -/
theorem hasResult_of_ran (counted : Counted state) {number : Nat}
    {call : Call} (found : state.calls[number]? = some call)
    (ran : call.closure = .ran) :
    (state.handles call.handle).hasResult = true := by
  have positive : 0 < state.calls.countP (Call.ranFor call.handle) :=
    List.countP_pos_iff.mpr
      ⟨call, List.mem_of_getElem? found, by simp [Call.ranFor, ran]⟩
  simpa [WaitHandle.hasResult, (counted call.handle).2] using positive

/-- How a call can have come to return normally. -/
theorem returned_before {label : Label} {number : Nat}
    {call next : Call} (move : CallStep state number label call next)
    (returned : next.stage = .finished true) :
    (call.kind = next.kind ∧ call.stage = .finished true ∧
        (call.answered = true → next.answered = true)) ∨
      label = .finish number ∧ ∃ timedOut, call.stage = .waited timedOut := by
  cases move with
  | unchanged | taken | ran | forced => exact Or.inl ⟨rfl, returned, id⟩
  | populated => exact Or.inl ⟨rfl, returned, fun _ => rfl⟩
  | identified | saved | sent | waited | failed | failedForced =>
      cases returned
  | finished waited => exact Or.inr ⟨rfl, _, waited⟩

/-- A call that reports its time-outs has its response when it returns. -/
theorem answered_of_returnsNormally {call : Call} {handle : WaitHandle}
    {timedOut : Bool} (wellFormed : call.WellFormed)
    (waited : call.stage = .waited timedOut)
    (android : call.kind.android = true)
    (reports :
      (call.closure = .ran → call.answered = true) ∧
        (timedOut = true → call.answered = false → handle.received = 0))
    (normally : returnsNormally call handle = true) :
    call.answered = true := by
  cases timedOut with
  | false =>
      -- The handle had received all results, that of this call included.
      exact reports.1 (wellFormed.complete waited)
  | true =>
      by_contra unanswered
      have none := reports.2 rfl (by simpa using unanswered)
      simp [returnsNormally, android, WaitHandle.hasResult, none]
        at normally

theorem returnsAnswered_step_iff (consistent : Consistent state)
    (returnsAnswered : ReturnsAnswered state) (label : Label) :
    ReportsTimeout state label ↔ ReturnsAnswered (step state label) := by
  constructor
  · intro reports number next found android returned
    rcases consistent.entriesCached.call_before found with
      ⟨call, isCall, move⟩ | ⟨kind, channel, rfl⟩
    · rcases returned_before move returned with
        ⟨sameKind, already, answered⟩ | ⟨rfl, timedOut, waited⟩
      · exact answered
          (returnsAnswered number call isCall (sameKind ▸ android) already)
      · rw [getElem?_step_finish isCall waited] at found
        cases found
        have answered := answered_of_returnsNormally
          (consistent.wellFormed number call isCall) waited android
          (reports number call timedOut rfl isCall android waited)
          (Stage.finished.inj returned)
        exact answered
    · cases returned
  · rintro kept number call timedOut rfl found android waited
    have returned := kept number _ (getElem?_step_finish found waited)
      android
    have answered : (state.handles call.handle).hasResult = true →
        call.answered = true := by
      intro hasResult
      cases hasError : call.error with
      | true =>
          exact (consistent.wellFormed number call found).hasError hasError
      | false =>
          apply returned
          simp [returnsNormally, hasResult, hasError]
    constructor
    · intro ran
      exact answered (hasResult_of_ran consistent.counted found ran)
    · intro _ unanswered
      by_contra received
      have hasResult : (state.handles call.handle).hasResult = true := by
        simpa [WaitHandle.hasResult] using Nat.pos_of_ne_zero received
      rw [answered hasResult] at unanswered
      cases unanswered

theorem returnsAnswered_initial : ReturnsAnswered State.initial := by
  intro number call found
  simp [State.initial] at found

/--
A call of the Android stub returns normally only after its response has
arrived, exactly if no call looks at its result after its closure was run for
another reason, or after a time-out when its handle has counted results of
other calls.
-/
theorem returnsAnswered_iff (labels : List Label) :
    (∀ earlier, earlier <+: labels → ReturnsAnswered (after earlier)) ↔
      Admitted step ReportsTimeout State.initial labels :=
  (@admitted_iff_always State Label step ReportsTimeout Consistent
    ReturnsAnswered (fun _ label consistent => consistent.preserved label)
    (fun _ label consistent holds =>
      returnsAnswered_step_iff consistent holds label)
    State.initial Consistent.initial returnsAnswered_initial labels).symm

/-- A call that is answered, then one of the same kind that is not. -/
def answeredThenUnanswered : List Label :=
  [.expectResult .launch 0, .nextId 0, .saveCompletionDetails 0,
    .send 0 true, .populateMessageForResult 0 0 false,
    .completeResponse 0 0, .runClosure 0, .waitForPending 0 false,
    .finish 0, .expectResult .launch 0, .nextId 1,
    .saveCompletionDetails 1, .send 1 true, .waitForPending 1 true,
    .finish 1]

/-- The second call timed out and returned normally. -/
theorem timeout_not_reported :
    ((after answeredThenUnanswered).calls.map
          (fun call => (call.kind, call.stage, call.answered)) =
        [(.launch, .finished true, true),
          (.launch, .finished true, false)]) ∧
      ¬ ReturnsAnswered (after answeredThenUnanswered) := by
  refine ⟨by decide, ?_⟩
  intro returnsAnswered
  have answered := returnsAnswered 1 _ rfl rfl rfl
  revert answered
  decide

end Anbox.Bridge.StubReturns
