import Anbox.SensorHal.TimerLoop

/-!
# The sleep of the timer

A notification wakes the thread only while it sleeps.  An event that is
registered between the pass and the sleep waits until something else wakes the
thread, and a stop that comes then does not end it.
-/

namespace Anbox.SensorHal.TimerSleep

open Anbox.Foundation
open Anbox.Foundation.Runs
open Anbox.SensorHal.Activation (RecurrentEvent registerRecurrentEvent
  unregisterRecurrentEvent)
open Anbox.SensorHal.TimerLoop
open Std
open scoped List

/-! ## Events that come before the sleep -/

/-- The time that the last pass has chosen, up to the end of the sleep. -/
def chosenTime : Point → Option Int64
  | .acting _ nextEventTime => some nextEventTime
  | .entering nextEventTime => some nextEventTime
  | .waiting nextEventTime => some nextEventTime
  | .testing => none
  | .locking _ => none
  | .finished => none

/-- A cookie was registered when the last pass had chosen the time. -/
def RegisteredAfterPass (cookie : Int32) (nextEventTime : Int64)
    (actions : List Action) : Prop :=
  ∃ earlier interval now later, interval ≠ 0 ∧
    actions = earlier ++ .register interval cookie now :: later ∧
      ∀ since, since <+: .register interval cookie now :: later →
        chosenTime (runFrom step TimerThread.new (earlier ++ since)).point =
          some nextEventTime

/-- Only the events that were registered after the pass are due earlier. -/
def Watched (actions : List Action) : Prop :=
  ∀ nextEventTime,
    chosenTime (runFrom step TimerThread.new actions).point =
        some nextEventTime →
      ∀ (cookie : Int32) (event : RecurrentEvent),
        (runFrom step TimerThread.new actions).timer[cookie]? = some event →
          event.absoluteTime < nextEventTime →
            RegisteredAfterPass cookie nextEventTime actions

section

variable {thread : TimerThread} {nextEventTime : Int64} {cookie : Int32}
  {event : RecurrentEvent}

/-- A notification leaves the time alone or ends the sleep. -/
theorem chosenTime_notify
    (isChosen : chosenTime thread.notify.point = some nextEventTime) :
    chosenTime thread.point = some nextEventTime := by
  rw [TimerThread.notify] at isChosen
  split at isChosen
  · cases isChosen
  all_goals exact isChosen

/-- After a pass no event is due before the time that it has chosen. -/
theorem work_watched {now : Int64}
    (isChosen : chosenTime (thread.work now).point = some nextEventTime)
    (found : (thread.work now).timer[cookie]? = some event)
    (early : event.absoluteTime < nextEventTime) :
    chosenTime thread.point = some nextEventTime ∧
      thread.timer[cookie]? = some event := by
  cases atPoint : thread.point with
  | testing =>
      rw [TimerThread.work, atPoint] at isChosen
      dsimp only at isChosen
      split at isChosen <;> cases isChosen
  | locking started =>
      rw [TimerThread.work, atPoint] at isChosen found
      cases isChosen
      have least := nextEventTime_visitEvents_le started found
      exact absurd early (Int64.not_lt.mpr least)
  | acting cookies chosen =>
      rw [TimerThread.work, atPoint] at isChosen found
      exact ⟨isChosen, found⟩
  | entering chosen =>
      rw [TimerThread.work, atPoint] at isChosen found
      exact ⟨isChosen, found⟩
  | waiting chosen =>
      rw [TimerThread.work, atPoint] at isChosen found
      rw [atPoint] at isChosen
      exact ⟨isChosen, found⟩
  | finished =>
      rw [TimerThread.work, atPoint, atPoint] at isChosen
      cases isChosen

/-- An event is new, or it was there and the time was chosen already. -/
theorem step_watched {action : Action}
    (isChosen : chosenTime (step thread action).point = some nextEventTime)
    (found : (step thread action).timer[cookie]? = some event)
    (early : event.absoluteTime < nextEventTime) :
    chosenTime thread.point = some nextEventTime ∧
      (thread.timer[cookie]? = some event ∨
        ∃ interval now, interval ≠ 0 ∧
          action = .register interval cookie now) := by
  cases action with
  | register interval other now =>
      rw [step_register] at isChosen found
      by_cases isZero : interval = 0
      · rw [if_pos isZero] at isChosen found
        exact ⟨isChosen, Or.inl found⟩
      · rw [if_neg isZero] at isChosen found
        have wasChosen := chosenTime_notify isChosen
        rw [timer_notify, OrderedMap.getElem?_insert_eq] at found
        refine ⟨wasChosen, ?_⟩
        split at found
        · next same => exact Or.inr ⟨interval, now, isZero, by rw [same]⟩
        · exact Or.inl found
  | unregister other =>
      have wasChosen := chosenTime_notify isChosen
      rw [step, timer_notify] at found
      exact ⟨wasChosen,
        Or.inl (OrderedMap.getElem?_erase_eq_some_iff.mp found).2⟩
  | requestStop => exact ⟨isChosen, Or.inl found⟩
  | clear =>
      rw [step, timer_notify] at found
      simp at found
  | work now =>
      rcases work_watched isChosen found early with ⟨wasChosen, wasThere⟩
      exact ⟨wasChosen, Or.inl wasThere⟩
  | wake =>
      rw [step, timer_notify] at found
      exact ⟨chosenTime_notify isChosen, Or.inl found⟩

end

theorem watched_run (actions : List Action) : Watched actions := by
  induction actions using List.reverseRecOn with
  | nil =>
      intro nextEventTime isChosen
      cases isChosen
  | append_singleton actions action inductionHypothesis =>
      intro nextEventTime isChosen cookie event found early
      have isChosenAfter := isChosen
      rw [runFrom_append] at isChosen found
      rcases step_watched isChosen found early with
        ⟨wasChosen, wasThere | ⟨interval, now, nonzero, rfl⟩⟩
      · rcases inductionHypothesis nextEventTime wasChosen cookie event
            wasThere early with
          ⟨earlier, interval, now, later, nonzero, rfl, always⟩
        refine ⟨earlier, interval, now, later ++ [action], nonzero,
          by rw [List.append_assoc, List.cons_append], ?_⟩
        intro since isSince
        rw [← List.cons_append, List.prefix_concat_iff] at isSince
        rcases isSince with rfl | isSince
        · rwa [← List.append_assoc]
        · exact always since isSince
      · refine ⟨actions, interval, now, [], nonzero, rfl, ?_⟩
        intro since isSince
        rw [← List.nil_append [_], List.prefix_concat_iff,
          List.prefix_nil] at isSince
        rcases isSince with rfl | rfl
        · exact isChosenAfter
        · rwa [List.append_nil]

/--
While the thread sleeps, every event that is due before it wakes was registered
after the last pass over the events.
-/
theorem sleeps_until_due {actions : List Action} {nextEventTime : Int64}
    (sleeps : (runFrom step TimerThread.new actions).point =
      .waiting nextEventTime)
    {cookie : Int32} {event : RecurrentEvent}
    (found : (runFrom step TimerThread.new actions).timer[cookie]? =
      some event)
    (early : event.absoluteTime < nextEventTime) :
    RegisteredAfterPass cookie nextEventTime actions := by
  refine watched_run actions nextEventTime ?_ cookie event found early
  rw [sleeps]
  rfl

/-- A registration after the first pass and before the first sleep. -/
theorem sleeps_until_due_firstPass :
    RegisteredAfterPass 1 invalidTime
      [.work 10, .work 10, .register 5 1 12, .work 12, .work 12] := by
  refine @sleeps_until_due _ _ ?_ _ ⟨5, 1, 10⟩ ?_ (by decide)
  · decide
  · decide

/-! ## The end of the thread -/

/-- What brings the thread forward: its own steps and its waking up. -/
inductive Move where
  | work
  | wake
deriving DecidableEq

/-- Whether an action is a step of the thread or wakes a thread that sleeps. -/
def moveOf : Action → Option Move
  | .register interval _ _ => if interval = 0 then none else some .wake
  | .unregister _ => some .wake
  | .requestStop => none
  | .clear => some .wake
  | .work _ => some .work
  | .wake => some .wake

/-- The moves after which a thread that is to stop has come to its end. -/
def movesToEnd : Point → List Move
  | .finished => []
  | .testing => [.work]
  | .waiting _ => [.wake, .work]
  | .entering _ => [.work, .wake, .work]
  | .acting _ _ => [.work, .work, .wake, .work]
  | .locking _ => [.work, .work, .work, .wake, .work]

section

variable {thread : TimerThread}

theorem movesToEnd_eq_nil_iff (point : Point) :
    movesToEnd point = [] ↔ point = .finished := by
  cases point <;> simp [movesToEnd]

/-- A list that starts with a move of its own waits for this move. -/
theorem sublist_cons_other {move other : Move} {moves later : List Move}
    (different : move ≠ other) :
    move :: moves <+ other :: later ↔ move :: moves <+ later := by
  rw [List.cons_sublist_cons']
  exact or_iff_left fun both => different both.1

/-- A step of a thread that is to stop is the first of its moves or none. -/
theorem movesToEnd_work (isStopping : thread.stopRequested = true)
    (now : Int64) (later : List Move) :
    movesToEnd (thread.work now).point <+ later ↔
      movesToEnd thread.point <+ .work :: later := by
  rw [TimerThread.work]
  cases atPoint : thread.point with
  | testing =>
      dsimp only
      rw [if_pos isStopping]
      exact List.cons_sublist_cons.symm
  | locking started => exact List.cons_sublist_cons.symm
  | acting cookies nextEventTime => exact List.cons_sublist_cons.symm
  | entering nextEventTime => exact List.cons_sublist_cons.symm
  | waiting nextEventTime =>
      dsimp only
      rw [atPoint]
      exact (sublist_cons_other (by decide)).symm
  | finished =>
      dsimp only
      rw [atPoint]
      exact iff_of_true (List.nil_sublist _) (List.nil_sublist _)

theorem movesToEnd_notify (thread : TimerThread) (later : List Move) :
    movesToEnd thread.notify.point <+ later ↔
      movesToEnd thread.point <+ .wake :: later := by
  rw [TimerThread.notify]
  cases atPoint : thread.point with
  | testing =>
      dsimp only
      rw [atPoint]
      exact (sublist_cons_other (by decide)).symm
  | locking started =>
      dsimp only
      rw [atPoint]
      exact (sublist_cons_other (by decide)).symm
  | acting cookies nextEventTime =>
      dsimp only
      rw [atPoint]
      exact (sublist_cons_other (by decide)).symm
  | entering nextEventTime =>
      dsimp only
      rw [atPoint]
      exact (sublist_cons_other (by decide)).symm
  | waiting nextEventTime => exact List.cons_sublist_cons.symm
  | finished =>
      dsimp only
      rw [atPoint]
      exact iff_of_true (List.nil_sublist _) (List.nil_sublist _)

theorem movesToEnd_step (isStopping : thread.stopRequested = true)
    (action : Action) (later : List Action) :
    movesToEnd (step thread action).point <+ later.filterMap moveOf ↔
      movesToEnd thread.point <+ (action :: later).filterMap moveOf := by
  cases action with
  | register interval cookie now =>
      rw [step_register]
      by_cases isZero : interval = 0
      · have noMove : moveOf (.register interval cookie now) = none :=
          if_pos isZero
        rw [if_pos isZero, List.filterMap_cons_none noMove]
      · have isWake : moveOf (.register interval cookie now) = some .wake :=
          if_neg isZero
        rw [if_neg isZero, List.filterMap_cons_some isWake]
        exact movesToEnd_notify _ _
  | unregister cookie => exact movesToEnd_notify _ _
  | requestStop => exact Iff.rfl
  | clear => exact movesToEnd_notify _ _
  | work now => exact movesToEnd_work isStopping now _
  | wake => exact movesToEnd_notify _ _

/-- Nothing takes a stop back. -/
theorem stopRequested_step (isStopping : thread.stopRequested = true)
    (action : Action) : (step thread action).stopRequested = true := by
  cases action with
  | register interval cookie now =>
      rw [step_register]
      split
      · exact isStopping
      · exact (stopRequested_notify _).trans isStopping
  | unregister cookie => exact (stopRequested_notify _).trans isStopping
  | requestStop => rfl
  | clear => exact (stopRequested_notify _).trans isStopping
  | work now =>
      rw [step, TimerThread.work]
      cases thread.point with
      | testing =>
          dsimp only
          split <;> exact isStopping
      | locking started => exact isStopping
      | acting cookies nextEventTime => exact isStopping
      | entering nextEventTime => exact isStopping
      | waiting nextEventTime => exact isStopping
      | finished => exact isStopping
  | wake => exact (stopRequested_notify _).trans isStopping

theorem finished_run_iff (isStopping : thread.stopRequested = true)
    (actions : List Action) :
    (runFrom step thread actions).point = .finished ↔
      movesToEnd thread.point <+ actions.filterMap moveOf := by
  induction actions generalizing thread with
  | nil =>
      rw [runFrom_nil, List.filterMap_nil, List.sublist_nil,
        movesToEnd_eq_nil_iff]
  | cons action actions inductionHypothesis =>
      rw [runFrom_cons,
        inductionHypothesis (stopRequested_step isStopping action)]
      exact movesToEnd_step isStopping action actions

end

/--
A stop ends the thread exactly when the thread can do the steps that it had
before it, and something wakes it afterwards if they lead into the sleep; it is
not enough that the stop notifies it.
-/
theorem stop_ends_iff (earlier later : List Action) :
    (runFrom step TimerThread.new (earlier ++ .requestStop :: later)).point =
        .finished ↔
      movesToEnd (runFrom step TimerThread.new earlier).point <+
        later.filterMap moveOf := by
  rw [runFrom_append, runFrom_cons]
  exact finished_run_iff rfl later

end Anbox.SensorHal.TimerSleep
