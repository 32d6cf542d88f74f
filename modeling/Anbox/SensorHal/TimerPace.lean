import Anbox.SensorHal.TimerLoop

/-!
# How often the timer reports

Between registrations of a cookie, the timer does not report it more often than
its interval asks for, and if no pass is late by a whole interval it reports it
just as often.
-/

namespace Anbox.SensorHal.TimerPace

open Anbox.Foundation
open Anbox.Foundation.Runs
open Anbox.SensorHal.Activation (RecurrentEvent RecurrentTimer
  registerRecurrentEvent unregisterRecurrentEvent)
open Anbox.SensorHal.Reporting (updateNextEventTime)
open Anbox.SensorHal.TimerLoop
open Std

/-! ## What is kept -/

/-- The cookies that passes have taken and that are still to be reported. -/
def pending : Point → List Int32
  | .acting cookies _ => cookies
  | .testing => []
  | .locking _ => []
  | .entering _ => []
  | .waiting _ => []
  | .finished => []

/-- The cookies that passes have taken, each time for one report. -/
def taken (thread : TimerThread) : List Int32 :=
  thread.reported ++ pending thread.point

structure Kept (thread : TimerThread) : Prop where
  own : OwnCookies thread.timer
  regular : ∀ (cookie : Int32) (event : RecurrentEvent),
    thread.timer[cookie]? = some event → Regular event
  started : ∀ now, thread.point = .locking now →
    InRange now ∧ thread.clock = now

theorem kept_new : Kept TimerThread.new := by
  constructor
  case own =>
    intro cookie event found
    simp [TimerThread.new] at found
  case regular =>
    intro cookie event found
    simp [TimerThread.new] at found
  case started =>
    intro now isLocking
    cases isLocking

section

variable {thread : TimerThread}

theorem pending_notify (thread : TimerThread) :
    pending thread.notify.point = pending thread.point := by
  rw [TimerThread.notify]
  split
  · next isWaiting =>
    rw [isWaiting]
    rfl
  all_goals rfl

theorem Kept.notify (kept : Kept thread) : Kept thread.notify := by
  rw [notify_eq]
  refine ⟨kept.own, kept.regular, ?_⟩
  intro now isLocking
  refine kept.started now ?_
  dsimp only at isLocking
  rw [TimerThread.notify] at isLocking
  split at isLocking
  · cases isLocking
  all_goals exact isLocking

/-- A new event is at the last multiple of its interval. -/
theorem regular_registered {interval now : Int64} (cookie : Int32)
    (nowInRange : InRange now) (inRange : InRange interval)
    (positive : 0 < interval.toInt) :
    Regular ⟨interval, cookie, now - now % interval⟩ := by
  refine ⟨positive, inRange.2, ?_⟩
  dsimp only
  have early := nowInRange.2
  have rest : (now % interval).toInt = now.toInt % interval.toInt := by
    rw [Int64.toInt_mod, Int.tmod_eq_emod_of_nonneg nowInRange.1]
  have low := Int.emod_nonneg now.toInt positive.ne'
  have parts := Int.emod_add_mul_ediv now.toInt interval.toInt
  have aligned : 0 ≤ interval.toInt * (now.toInt / interval.toInt) :=
    Int.mul_nonneg positive.le (Int.ediv_nonneg nowInRange.1 positive.le)
  rw [Int64.toInt_sub, rest, bmod_of_range (by omega) (by omega)]
  omega

theorem Kept.pass (kept : Kept thread) {now : Int64}
    (inRange : InRange now) :
    OwnCookies (visitEvents now thread.timer).timer ∧
      ∀ (cookie : Int32) (event : RecurrentEvent),
        (visitEvents now thread.timer).timer[cookie]? = some event →
          Regular event := by
  constructor
  · intro cookie event found
    rw [timer_visitEvents] at found
    rcases Option.map_eq_some_iff.mp found with ⟨before, isBefore, rfl⟩
    rw [advance]
    split <;> exact kept.own cookie before isBefore
  · intro cookie event found
    rw [timer_visitEvents] at found
    rcases Option.map_eq_some_iff.mp found with ⟨before, isBefore, rfl⟩
    have regular := kept.regular cookie before isBefore
    rw [advance]
    split
    · next isDue =>
      exact regular.updateNextEventTime inRange
        (Int64.le_iff_toInt_le.mp isDue)
    · exact regular

theorem Kept.work (kept : Kept thread) {now : Int64}
    (inRange : InRange now) : Kept (thread.work now) := by
  cases atPoint : thread.point with
  | testing =>
      rw [TimerThread.work, atPoint]
      dsimp only
      split
      · refine ⟨kept.own, kept.regular, ?_⟩
        intro started isLocking
        cases isLocking
      · refine ⟨kept.own, kept.regular, ?_⟩
        intro started isLocking
        cases isLocking
        exact ⟨inRange, rfl⟩
  | locking started =>
      rcases kept.pass (kept.started started atPoint).1 with ⟨own, regular⟩
      rw [TimerThread.work, atPoint]
      refine ⟨own, regular, ?_⟩
      intro other isLocking
      cases isLocking
  | acting cookies nextEventTime =>
      rw [TimerThread.work, atPoint]
      refine ⟨kept.own, kept.regular, ?_⟩
      intro other isLocking
      cases isLocking
  | entering nextEventTime =>
      rw [TimerThread.work, atPoint]
      refine ⟨kept.own, kept.regular, ?_⟩
      intro other isLocking
      cases isLocking
  | waiting nextEventTime =>
      rw [TimerThread.work, atPoint]
      exact kept
  | finished =>
      rw [TimerThread.work, atPoint]
      exact kept

theorem registered_eq {interval now : Int64} {cookie : Int32}
    {timer : RecurrentTimer} (positive : 0 < interval.toInt) :
    registerRecurrentEvent interval cookie now timer =
      .ok (timer.insert cookie ⟨interval, cookie, now - now % interval⟩) := by
  refine if_neg ?_
  rintro rfl
  exact absurd positive (by decide)

theorem kept_step (kept : Kept thread) {action : Action}
    (isAdmitted : admits thread action) : Kept (step thread action) := by
  cases action with
  | register interval cookie now =>
      rcases isAdmitted with ⟨nowInRange, inRange, positive⟩
      have event := regular_registered cookie nowInRange inRange positive
      rw [step, registered_eq positive]
      refine Kept.notify ⟨?_, ?_, kept.started⟩
      · intro other found isFound
        rw [OrderedMap.getElem?_insert_eq] at isFound
        split at isFound
        · next same => rw [← Option.some.inj isFound, same]
        · exact kept.own other found isFound
      · intro other found isFound
        rw [OrderedMap.getElem?_insert_eq] at isFound
        split at isFound
        · rwa [← Option.some.inj isFound]
        · exact kept.regular other found isFound
  | unregister cookie =>
      refine Kept.notify ⟨?_, ?_, kept.started⟩
      · intro other found isFound
        exact kept.own other found
          (OrderedMap.getElem?_erase_eq_some_iff.mp isFound).2
      · intro other found isFound
        exact kept.regular other found
          (OrderedMap.getElem?_erase_eq_some_iff.mp isFound).2
  | requestStop => exact ⟨kept.own, kept.regular, kept.started⟩
  | clear =>
      refine Kept.notify ⟨?_, ?_, kept.started⟩
      · intro other found isFound
        simp at isFound
      · intro other found isFound
        simp at isFound
  | work now => exact kept.work isAdmitted.1
  | wake => exact kept.notify

theorem kept_run {actions : List Action}
    (kept : Kept thread) (admitted : Admitted step admits thread actions) :
    Kept (runFrom step thread actions) :=
  @Admitted.invariant _ _ step admits Kept
    (fun _ _ kept isAdmitted => kept_step kept isAdmitted) _ _ kept admitted

/-! ## The pace of one event -/

/-- Nobody else changes the event of a cookie. -/
def Leaves (cookie : Int32) : Action → Prop
  | .register _ other _ => other ≠ cookie
  | .unregister other => other ≠ cookie
  | .requestStop => True
  | .clear => False
  | .work _ => True
  | .wake => True

instance (cookie : Int32) : (action : Action) →
    Decidable (Leaves cookie action)
  | .register _ other _ => inferInstanceAs (Decidable (other ≠ cookie))
  | .unregister other => inferInstanceAs (Decidable (other ≠ cookie))
  | .requestStop => isTrue trivial
  | .clear => isFalse id
  | .work _ => isTrue trivial
  | .wake => isTrue trivial

/--
An event has moved on since it was `start`: by at least one interval each time
that it was taken, and not beyond the next interval after the clock.
-/
structure Paced (start : RecurrentEvent) (cookie : Int32) (before : Nat)
    (thread : TimerThread) : Prop where
  kept : Kept thread
  counted : before ≤ (taken thread).count cookie
  moved : ∃ event, thread.timer[cookie]? = some event ∧
    event.interval = start.interval ∧
    start.absoluteTime.toInt +
        ((taken thread).count cookie - before : Nat) * start.interval.toInt ≤
      event.absoluteTime.toInt ∧
    (before < (taken thread).count cookie →
      event.absoluteTime.toInt ≤
        thread.clock.toInt + start.interval.toInt)

/-- A notification is no pass and takes nothing. -/
theorem quiet_notify (thread : TimerThread) :
    thread.notify.timer = thread.timer ∧
      thread.notify.clock = thread.clock ∧
        taken thread.notify = taken thread := by
  rw [taken, taken, pending_notify, notify_eq]
  exact ⟨rfl, rfl, rfl⟩

/-- A pass moves an event that is due, and takes its cookie once. -/
theorem pass_cookie (own : OwnCookies thread.timer) {now : Int64}
    {cookie : Int32} {event : RecurrentEvent}
    (found : thread.timer[cookie]? = some event) :
    (visitEvents now thread.timer).timer[cookie]? =
        some (advance now event) ∧
      (visitEvents now thread.timer).cookies.count cookie =
        if event.absoluteTime ≤ now then 1 else 0 := by
  refine ⟨?_, ?_⟩
  · rw [timer_visitEvents, found, Option.map_some]
  · rw [count_visitEvents now own, found, Option.any_some]
    simp only [decide_eq_true_eq]

/-- An event that is due is moved, and its cookie is taken once. -/
structure TakenOnce (cookie : Int32) (event : RecurrentEvent)
    (thread next : TimerThread) : Prop where
  isLocking : thread.point = .locking thread.clock
  inRange : InRange thread.clock
  isDue : event.absoluteTime.toInt ≤ thread.clock.toInt
  moved : next.timer[cookie]? = some (updateNextEventTime thread.clock event)
  count : (taken next).count cookie = (taken thread).count cookie + 1

/-- The thread leaves an event alone, or takes it in a pass. -/
theorem work_cookie {now : Int64} {cookie : Int32} {event : RecurrentEvent}
    (kept : Kept thread) (later : thread.clock.toInt ≤ now.toInt)
    (found : thread.timer[cookie]? = some event) :
    thread.clock.toInt ≤ (thread.work now).clock.toInt ∧
      ((thread.work now).timer[cookie]? = some event ∧
          (taken (thread.work now)).count cookie =
            (taken thread).count cookie ∨
        TakenOnce cookie event thread (thread.work now)) := by
  cases atPoint : thread.point with
  | testing =>
      rw [TimerThread.work, atPoint, taken, taken, atPoint]
      dsimp only
      split
      · exact ⟨le_rfl, Or.inl ⟨found, rfl⟩⟩
      · exact ⟨later, Or.inl ⟨found, rfl⟩⟩
  | locking started =>
      rcases kept.started started atPoint with ⟨inRange, rfl⟩
      rcases pass_cookie kept.own found with ⟨moved, count⟩
      have next : taken (thread.work now) =
          taken thread ++ (visitEvents thread.clock thread.timer).cookies := by
        rw [TimerThread.work, taken, taken, atPoint]
        dsimp only [pending]
        rw [List.append_nil]
      have counts : (taken (thread.work now)).count cookie =
          (taken thread).count cookie +
            if event.absoluteTime ≤ thread.clock then 1 else 0 := by
        rw [next, List.count_append, count]
      rw [advance] at moved
      by_cases isDue : event.absoluteTime ≤ thread.clock
      · rw [if_pos isDue] at moved counts
        rw [TimerThread.work, atPoint] at counts ⊢
        exact ⟨le_rfl, Or.inr ⟨atPoint, inRange,
          Int64.le_iff_toInt_le.mp isDue, moved, counts⟩⟩
      · rw [if_neg isDue] at moved counts
        rw [TimerThread.work, atPoint] at counts ⊢
        exact ⟨le_rfl, Or.inl ⟨moved, counts⟩⟩
  | acting cookies nextEventTime =>
      rw [TimerThread.work, atPoint, taken, taken, atPoint]
      dsimp only [pending]
      rw [List.append_nil]
      exact ⟨le_rfl, Or.inl ⟨found, rfl⟩⟩
  | entering nextEventTime =>
      rw [TimerThread.work, atPoint, taken, taken, atPoint]
      exact ⟨le_rfl, Or.inl ⟨found, rfl⟩⟩
  | waiting nextEventTime =>
      rw [TimerThread.work, atPoint]
      exact ⟨le_rfl, Or.inl ⟨found, rfl⟩⟩
  | finished =>
      rw [TimerThread.work, atPoint]
      exact ⟨le_rfl, Or.inl ⟨found, rfl⟩⟩

/-- An event is left alone, or it is taken in a pass. -/
theorem step_cookie {action : Action} {cookie : Int32}
    {event : RecurrentEvent} (kept : Kept thread)
    (isAdmitted : admits thread action) (leaves : Leaves cookie action)
    (found : thread.timer[cookie]? = some event) :
    thread.clock.toInt ≤ (step thread action).clock.toInt ∧
      ((step thread action).timer[cookie]? = some event ∧
          (taken (step thread action)).count cookie =
            (taken thread).count cookie ∨
        (∃ now, action = .work now) ∧
          TakenOnce cookie event thread (step thread action)) := by
  cases action with
  | register interval other now =>
      rcases isAdmitted with ⟨-, -, positive⟩
      rw [step, registered_eq positive]
      dsimp only
      rcases quiet_notify
        { thread with
          timer :=
            thread.timer.insert other ⟨interval, other, now - now % interval⟩ }
        with
        ⟨sameTimer, sameClock, sameTaken⟩
      rw [sameTimer, sameClock, sameTaken]
      refine ⟨le_rfl, Or.inl ⟨?_, rfl⟩⟩
      rw [OrderedMap.getElem?_insert_eq, if_neg (Ne.symm leaves), found]
  | unregister other =>
      rcases quiet_notify
        { thread with timer := unregisterRecurrentEvent other thread.timer }
        with ⟨sameTimer, sameClock, sameTaken⟩
      rw [step, sameTimer, sameClock, sameTaken]
      refine ⟨le_rfl, Or.inl ⟨?_, rfl⟩⟩
      exact (OrderedMap.getElem?_erase_of_ne (Ne.symm leaves)).trans found
  | requestStop => exact ⟨le_rfl, Or.inl ⟨found, rfl⟩⟩
  | clear => cases leaves
  | work now =>
      rcases work_cookie kept isAdmitted.2 found with ⟨later, same | once⟩
      · exact ⟨later, Or.inl same⟩
      · exact ⟨later, Or.inr ⟨⟨now, rfl⟩, once⟩⟩
  | wake =>
      rcases quiet_notify thread with ⟨sameTimer, sameClock, sameTaken⟩
      rw [step, sameTimer, sameClock, sameTaken]
      exact ⟨le_rfl, Or.inl ⟨found, rfl⟩⟩

/-- An event has not moved since now. -/
theorem paced_start {start : RecurrentEvent} {cookie : Int32}
    (kept : Kept thread) (isStart : thread.timer[cookie]? = some start) :
    Paced start cookie ((taken thread).count cookie) thread := by
  refine ⟨kept, le_rfl, start, isStart, rfl, ?_, ?_⟩
  · rw [Nat.sub_self]
    omega
  · exact fun less => absurd less (lt_irrefl _)

theorem paced_step {start : RecurrentEvent} {cookie : Int32} {before : Nat}
    (paced : Paced start cookie before thread) {action : Action}
    (isAdmitted : admits thread action) (leaves : Leaves cookie action) :
    Paced start cookie before (step thread action) := by
  rcases paced.moved with ⟨event, found, sameInterval, far, near⟩
  have counted := paced.counted
  have kept := kept_step paced.kept isAdmitted
  rcases step_cookie paced.kept isAdmitted leaves found with
    ⟨later, ⟨sameEvent, sameCount⟩ | ⟨-, -, inRange, isDue, moved, count⟩⟩
  · refine ⟨kept, by rwa [sameCount], event, sameEvent, sameInterval,
      by rwa [sameCount], ?_⟩
    rw [sameCount]
    intro some
    have reached := near some
    omega
  · have regular := paced.kept.regular cookie event found
    have next := toInt_updateNextEventTime regular inRange isDue
    have least := @one_le_multiplier thread.clock event
    refine ⟨kept, by omega, _, moved, sameInterval, ?_, ?_⟩
    · have more := Int.mul_le_mul_of_nonneg_right least regular.positive.le
      have counts : (((taken (step thread action)).count cookie - before :
          Nat) : Int) = ((taken thread).count cookie - before : Nat) + 1 := by
        omega
      rw [counts, next, Int.add_mul, ← sameInterval]
      rw [← sameInterval] at far
      omega
    · intro _
      rw [next, ← sameInterval]
      rcases multiplier_spec regular isDue with one | within
      · rw [one]
        omega
      · have positive := regular.positive
        omega

theorem paced_run {start : RecurrentEvent} {cookie : Int32} {before : Nat}
    (paced : Paced start cookie before thread) {actions : List Action}
    (admitted : Admitted step admits thread actions)
    (leaves : ∀ action ∈ actions, Leaves cookie action) :
    Paced start cookie before (runFrom step thread actions) := by
  induction actions generalizing thread with
  | nil => exact paced
  | cons action actions inductionHypothesis =>
      rw [List.forall_mem_cons] at leaves
      exact inductionHypothesis
        (paced_step paced admitted.1 leaves.1) admitted.2 leaves.2

end

/--
While nobody registers or unregisters a cookie, the timer is never ahead: the
first report can come when the event is due, and each later one only after one
more interval, whenever the thread and the others run.
-/
theorem timer_never_ahead {earlier later : List Action} {cookie : Int32}
    {start : RecurrentEvent}
    (admitted : Admitted step admits TimerThread.new (earlier ++ later))
    (isStart : (runFrom step TimerThread.new earlier).timer[cookie]? =
      some start)
    (leaves : ∀ action ∈ later, Leaves cookie action) :
    let before := runFrom step TimerThread.new earlier
    let after := runFrom step TimerThread.new (earlier ++ later)
    (taken before).count cookie ≤ (taken after).count cookie ∧
      ((taken before).count cookie < (taken after).count cookie →
        start.absoluteTime.toInt +
            ((taken after).count cookie - (taken before).count cookie - 1 :
              Nat) * start.interval.toInt ≤
          after.clock.toInt) := by
  have kept := kept_run kept_new (admitted.earlier (List.prefix_append _ _))
  have final := paced_run (paced_start kept isStart) admitted.later leaves
  rw [← runFrom_append] at final
  refine ⟨final.counted, fun some => ?_⟩
  rcases final.moved with ⟨event, -, -, far, near⟩
  have reached := near some
  have counts : (((taken (runFrom step TimerThread.new
          (earlier ++ later))).count cookie -
        (taken (runFrom step TimerThread.new earlier)).count cookie - 1 :
          Nat) : Int) =
      ((taken (runFrom step TimerThread.new (earlier ++ later))).count cookie -
        (taken (runFrom step TimerThread.new earlier)).count cookie : Nat) -
          1 := by
    omega
  rw [counts, Int.sub_mul]
  omega

/-- A pass that is late by three intervals, and another right after it. -/
def latePass : List Action :=
  [.work 20, .work 20, .work 20, .work 20, .wake, .work 20, .work 20]

theorem timer_never_ahead_latePass :
    let before := runFrom step TimerThread.new [.register 5 1 7]
    let after := runFrom step TimerThread.new ([.register 5 1 7] ++ latePass)
    (taken after).count 1 = 2 ∧
      ((taken before).count 1 < (taken after).count 1 →
        (5 : Int64).toInt +
            ((taken after).count 1 - (taken before).count 1 - 1 : Nat) *
              (5 : Int64).toInt ≤ after.clock.toInt) := by
  have isStart : (runFrom step TimerThread.new
      [.register 5 1 7]).timer[(1 : Int32)]? = some ⟨5, 1, 5⟩ := by decide
  have admitted : Admitted step admits TimerThread.new
      ([.register 5 1 7] ++ latePass) := by
    decide +kernel
  have twice : (taken (runFrom step TimerThread.new
      ([.register 5 1 7] ++ latePass))).count 1 = 2 := by
    decide +kernel
  exact ⟨twice, (timer_never_ahead admitted isStart (by decide)).2⟩

/-! ## Passes that are not late -/

/-- The thread is about to pass over an event a whole interval late. -/
def isLate (cookie : Int32) (thread : TimerThread) : Bool :=
  match thread.point, thread.timer[cookie]? with
  | .locking started, some event =>
      event.absoluteTime.toInt + event.interval.toInt ≤ started.toInt
  | _, _ => false

def OnTime (cookie : Int32) (thread : TimerThread) : Action → Prop
  | .work _ => isLate cookie thread = false
  | .register _ _ _ => True
  | .unregister _ => True
  | .requestStop => True
  | .clear => True
  | .wake => True

instance (cookie : Int32) (thread : TimerThread) : (action : Action) →
    Decidable (OnTime cookie thread action)
  | .work _ => inferInstanceAs (Decidable (_ = false))
  | .register _ _ _ => isTrue trivial
  | .unregister _ => isTrue trivial
  | .requestStop => isTrue trivial
  | .clear => isTrue trivial
  | .wake => isTrue trivial

section

variable {thread : TimerThread} {cookie : Int32}

theorem lt_of_onTime {started : Int64} {event : RecurrentEvent}
    (onTime : isLate cookie thread = false)
    (isLocking : thread.point = .locking started)
    (found : thread.timer[cookie]? = some event) :
    started.toInt < event.absoluteTime.toInt + event.interval.toInt := by
  rw [isLate, isLocking, found] at onTime
  exact Int.not_le.mp (of_decide_eq_false onTime)

/-- An event that is less than an interval late moves on by one interval. -/
theorem multiplier_of_onTime {now : Int64} {event : RecurrentEvent}
    (isDue : event.absoluteTime.toInt ≤ now.toInt)
    (onTime : now.toInt < event.absoluteTime.toInt + event.interval.toInt) :
    multiplier now event = 1 := by
  rw [multiplier, Int.ediv_eq_zero_of_lt (by omega) (by omega)]
  rfl

/-- The event has moved on by one interval for each time it was taken. -/
structure Exact (start : RecurrentEvent) (cookie : Int32) (before : Nat)
    (thread : TimerThread) : Prop where
  paced : Paced start cookie before thread
  exact : ∀ event, thread.timer[cookie]? = some event →
    event.absoluteTime.toInt =
      start.absoluteTime.toInt +
        ((taken thread).count cookie - before : Nat) * start.interval.toInt

theorem exact_step {start : RecurrentEvent} {before : Nat}
    (isExact : Exact start cookie before thread) {action : Action}
    (isAdmitted : admits thread action) (leaves : Leaves cookie action)
    (onTime : OnTime cookie thread action) :
    Exact start cookie before (step thread action) := by
  have paced := isExact.paced
  refine ⟨paced_step paced isAdmitted leaves, ?_⟩
  intro moved isMoved
  rcases paced.moved with ⟨event, found, sameInterval, -, -⟩
  have isHere := isExact.exact event found
  have counted := paced.counted
  rcases step_cookie paced.kept isAdmitted leaves found with
    ⟨-, ⟨sameEvent, sameCount⟩ |
      ⟨⟨now, rfl⟩, isLocking, inRange, isDue, next, count⟩⟩
  · rw [sameEvent] at isMoved
    rw [sameCount, ← Option.some.inj isMoved]
    exact isHere
  · have one := multiplier_of_onTime isDue
      (lt_of_onTime onTime isLocking found)
    have counts : (((taken thread).count cookie + 1 - before : Nat) : Int) =
        ((taken thread).count cookie - before : Nat) + 1 := by
      omega
    rw [next] at isMoved
    rw [count, counts, ← Option.some.inj isMoved,
      toInt_updateNextEventTime (paced.kept.regular cookie event found)
        inRange isDue, one, isHere, sameInterval, Int.add_mul]
    omega

theorem exact_run {start : RecurrentEvent} {before : Nat}
    (isExact : Exact start cookie before thread) {actions : List Action}
    (admitted : Admitted step admits thread actions)
    (leaves : ∀ action ∈ actions, Leaves cookie action)
    (onTime : Admitted step (OnTime cookie) thread actions) :
    Exact start cookie before (runFrom step thread actions) := by
  induction actions generalizing thread with
  | nil => exact isExact
  | cons action actions inductionHypothesis =>
      rw [List.forall_mem_cons] at leaves
      exact inductionHypothesis
        (exact_step isExact admitted.1 leaves.1 onTime.1) admitted.2 leaves.2
        onTime.2

/-- A pass that is on time moves an event beyond its own time. -/
theorem passed_of_onTime (kept : Kept thread) {started now : Int64}
    (isLocking : thread.point = .locking started)
    (onTime : isLate cookie thread = false) {event : RecurrentEvent}
    (isMoved : (step thread (.work now)).timer[cookie]? = some event) :
    started.toInt < event.absoluteTime.toInt ∧
      (step thread (.work now)).clock = started := by
  have inRange := (kept.started started isLocking).1
  have sameClock := (kept.started started isLocking).2
  rw [step, TimerThread.work, isLocking] at isMoved ⊢
  refine ⟨?_, sameClock⟩
  rw [timer_visitEvents] at isMoved
  rcases Option.map_eq_some_iff.mp isMoved with ⟨before, found, rfl⟩
  rw [advance]
  by_cases isDue : before.absoluteTime ≤ started
  · have due := Int64.le_iff_toInt_le.mp isDue
    have soon := lt_of_onTime onTime isLocking found
    rw [if_pos isDue,
      toInt_updateNextEventTime (kept.regular cookie before found) inRange due,
      multiplier_of_onTime due soon, Int.one_mul]
    exact soon
  · rw [if_neg isDue]
    exact Int.not_le.mp fun due => isDue (Int64.le_iff_toInt_le.mpr due)

/-- How many times have come, from the first one on and `interval` apart. -/
theorem timesUntil_eq {first interval now : Int} {count : Nat}
    (positive : 0 < interval) (isNext : now < first + count * interval)
    (hasCome : 0 < count → first + count * interval ≤ now + interval) :
    (if first ≤ now then ((now - first) / interval + 1).toNat else 0) =
      count := by
  by_cases some : 0 < count
  · have reached := hasCome some
    have low : (count - 1 : Int) * interval ≤ now - first := by
      rw [Int.sub_mul]
      omega
    have high : now - first < (count - 1 : Int) * interval + interval := by
      rw [Int.sub_mul]
      omega
    have nonneg : 0 ≤ (count - 1 : Int) * interval :=
      Int.mul_nonneg (by omega) positive.le
    rw [if_pos (by omega),
      (Int.ediv_eq_iff_of_pos positive).mpr ⟨low, high⟩]
    omega
  · have none : count = 0 := by omega
    subst none
    rw [if_neg (by omega)]

end

/--
If no pass is late by a whole interval, the timer keeps pace: after a pass it
has reported a cookie exactly as many times as its times have come.
-/
theorem timer_keeps_pace {earlier later : List Action} {cookie : Int32}
    {start : RecurrentEvent} {started now : Int64}
    (admitted : Admitted step admits TimerThread.new
      (earlier ++ (later ++ [.work now])))
    (isStart : (runFrom step TimerThread.new earlier).timer[cookie]? =
      some start)
    (leaves : ∀ action ∈ later, Leaves cookie action)
    (onTime : Admitted step (OnTime cookie)
      (runFrom step TimerThread.new earlier) (later ++ [.work now]))
    (isLocking : (runFrom step TimerThread.new (earlier ++ later)).point =
      .locking started) :
    (taken (runFrom step TimerThread.new
        (earlier ++ (later ++ [.work now])))).count cookie =
      (taken (runFrom step TimerThread.new earlier)).count cookie +
        if start.absoluteTime.toInt ≤ started.toInt then
          ((started.toInt - start.absoluteTime.toInt) /
            start.interval.toInt + 1).toNat
        else 0 := by
  have kept := kept_run kept_new (admitted.earlier (List.prefix_append _ _))
  have isExact : Exact start cookie
      ((taken (runFrom step TimerThread.new earlier)).count cookie)
      (runFrom step TimerThread.new earlier) := by
    refine ⟨paced_start kept isStart, ?_⟩
    intro event found
    rw [← Option.some.inj (isStart.symm.trans found), Nat.sub_self]
    omega
  have atPass := admitted.later
  have before := exact_run isExact (atPass.earlier (List.prefix_append _ _))
    leaves (onTime.earlier (List.prefix_append _ _))
  have lastLeaves : Leaves cookie (.work now) := trivial
  have after := exact_step before atPass.later.1 lastLeaves onTime.later.1
  rw [← runFrom_append] at before after
  rcases after.paced.moved with ⟨event, isMoved, sameInterval, -, near⟩
  have lastOnTime : OnTime cookie
      (runFrom step TimerThread.new (earlier ++ later)) (.work now) := by
    rw [runFrom_append]
    exact onTime.later.1
  rcases passed_of_onTime before.paced.kept isLocking lastOnTime isMoved with
    ⟨isNext, sameClock⟩
  have positive := (after.paced.kept.regular cookie event isMoved).positive
  rw [sameInterval] at positive
  rw [sameClock] at near
  rw [after.exact event isMoved] at isNext near
  have counted := after.paced.counted
  rw [timesUntil_eq positive isNext fun some => near (by omega),
    ← List.append_assoc, runFrom_append]
  exact (Nat.add_sub_of_le counted).symm

/-- Passes at 14 and 16, and the beginning of one at 18. -/
def timelyPasses : List Action :=
  [.work 14, .work 14, .work 14, .work 14, .wake, .work 16, .work 16, .work 16,
    .work 16, .wake, .work 18]

theorem timer_keeps_pace_timelyPasses :
    (taken (runFrom step TimerThread.new
        ([.register 5 1 13] ++ (timelyPasses ++ [.work 18])))).count 1 =
      (taken (runFrom step TimerThread.new [.register 5 1 13])).count 1 +
        if (10 : Int64).toInt ≤ (18 : Int64).toInt then
          (((18 : Int64).toInt - (10 : Int64).toInt) /
            (5 : Int64).toInt + 1).toNat
        else 0 := by
  have isStart : (runFrom step TimerThread.new
      [.register 5 1 13]).timer[(1 : Int32)]? = some ⟨5, 1, 10⟩ := by decide
  have admitted : Admitted step admits TimerThread.new
      ([.register 5 1 13] ++ (timelyPasses ++ [.work 18])) := by
    decide +kernel
  have onTime : Admitted step (OnTime 1)
      (runFrom step TimerThread.new [.register 5 1 13])
      (timelyPasses ++ [.work 18]) := by
    decide +kernel
  have isLocking : (runFrom step TimerThread.new
      ([.register 5 1 13] ++ timelyPasses)).point = .locking 18 := by
    decide +kernel
  have leaves : ∀ action ∈ timelyPasses, Leaves 1 action := by decide
  exact (timer_keeps_pace admitted isStart leaves onTime isLocking :)

end Anbox.SensorHal.TimerPace
