import Anbox.SensorHal.Reporting
import Mathlib.Algebra.Order.Ring.Int

/-!
# The thread of the recurrent timer

The thread goes over the registered events, moves those that are due to their
next time, reports them, and sleeps until the next event is due or somebody
changes the events.  Between the pass over the events and the sleep it does not
hold the lock.

Events can be visited in any order; here it is the order of their cookies.
-/

namespace Anbox.SensorHal.TimerLoop

open Anbox.Foundation
open Anbox.Foundation.Runs
open Anbox.SensorHal.Activation (Fault RecurrentEvent RecurrentTimer
  registerRecurrentEvent unregisterRecurrentEvent)
open Anbox.SensorHal.Reporting (updateNextEventTime)
open Std

/-! ## A pass over the events -/

/-- `TimePoint(Nanos::max())`. -/
def invalidTime : Int64 := Int64.maxValue

/-- The variables of a pass. -/
structure Pass where
  timer : RecurrentTimer
  cookies : List Int32
  nextEventTime : Int64

/-- The body of the loop, for the event of one cookie. -/
def visitEvent (now : Int64) (pass : Pass) (it : Int32 × RecurrentEvent) :
    Pass :=
  let event :=
    if it.2.absoluteTime ≤ now then updateNextEventTime now it.2 else it.2
  { timer := pass.timer.insert it.1 event
    cookies :=
      if it.2.absoluteTime ≤ now then pass.cookies ++ [event.cookie]
      else pass.cookies
    nextEventTime :=
      if event.absoluteTime < pass.nextEventTime then event.absoluteTime
      else pass.nextEventTime }

def visitEvents (now : Int64) (timer : RecurrentTimer) : Pass :=
  timer.toList.foldl (visitEvent now) ⟨timer, [], invalidTime⟩

/-! ## The thread -/

/-- What the thread does next. -/
inductive Point where
  | testing
  | locking (now : Int64)
  | acting (cookies : List Int32) (nextEventTime : Int64)
  | entering (nextEventTime : Int64)
  | waiting (nextEventTime : Int64)
  | finished
deriving DecidableEq

/--
The timer.  The history is not kept by the code: the cookies that were
reported, and the last time that the thread has read.
-/
structure TimerThread where
  timer : RecurrentTimer
  stopRequested : Bool
  point : Point
  reported : List Int32
  clock : Int64

def TimerThread.new : TimerThread where
  timer := ∅
  stopRequested := false
  point := .testing
  reported := []
  clock := 0

/-- `mCond.notify_one()`: only a thread that waits is woken. -/
def TimerThread.notify (thread : TimerThread) : TimerThread :=
  match thread.point with
  | .waiting _ => { thread with point := .testing }
  | .testing => thread
  | .locking _ => thread
  | .acting _ _ => thread
  | .entering _ => thread
  | .finished => thread

/-- A notification changes nothing but what the thread does next. -/
theorem notify_eq (thread : TimerThread) :
    thread.notify = { thread with point := thread.notify.point } := by
  rw [TimerThread.notify]
  split <;> rfl

@[simp]
theorem timer_notify (thread : TimerThread) :
    thread.notify.timer = thread.timer := by
  rw [notify_eq]

@[simp]
theorem stopRequested_notify (thread : TimerThread) :
    thread.notify.stopRequested = thread.stopRequested := by
  rw [notify_eq]

/-- One step of `loop`; `now` is what the clock says. -/
def TimerThread.work (thread : TimerThread) (now : Int64) : TimerThread :=
  match thread.point with
  | .testing =>
      if thread.stopRequested then { thread with point := .finished }
      else { thread with point := .locking now, clock := now }
  | .locking started =>
      let pass := visitEvents started thread.timer
      { thread with
        timer := pass.timer
        point := .acting pass.cookies pass.nextEventTime }
  | .acting cookies nextEventTime =>
      { thread with
        point := .entering nextEventTime
        reported := thread.reported ++ cookies }
  | .entering nextEventTime =>
      { thread with point := .waiting nextEventTime }
  | .waiting _ => thread
  | .finished => thread

/-- What the thread and the others do, one access at a time. -/
inductive Action where
  | register (interval : Int64) (cookie : Int32) (now : Int64)
  | unregister (cookie : Int32)
  | requestStop
  | clear
  | work (now : Int64)
  /-- The wait ends without a call, at its time or earlier. -/
  | wake
deriving DecidableEq

def step (thread : TimerThread) : Action → TimerThread
  | .register interval cookie now =>
      match registerRecurrentEvent interval cookie now thread.timer with
      | .ok timer => { thread with timer := timer }.notify
      | .error _ => thread
  | .unregister cookie =>
      { thread with
        timer := unregisterRecurrentEvent cookie thread.timer }.notify
  | .requestStop => { thread with stopRequested := true }
  | .clear => { thread with timer := ∅ }.notify
  | .work now => thread.work now
  | .wake => thread.notify

/-- Only a registration without an interval fails. -/
theorem step_register (thread : TimerThread) (interval : Int64)
    (cookie : Int32) (now : Int64) :
    step thread (.register interval cookie now) =
      if interval = 0 then thread
      else
        { thread with
          timer :=
            thread.timer.insert cookie
              ⟨interval, cookie, now - now % interval⟩ }.notify := by
  rw [step, registerRecurrentEvent]
  by_cases isZero : interval = 0
  · rw [if_pos isZero, if_pos isZero]
  · rw [if_neg isZero, if_neg isZero]

/-- Times and intervals for which the arithmetic of the thread is exact. -/
def InRange (time : Int64) : Prop :=
  0 ≤ time.toInt ∧ time.toInt < 2 ^ 62

instance (time : Int64) : Decidable (InRange time) :=
  inferInstanceAs (Decidable (_ ∧ _))

/--
The clock shows times that are in range and does not go back, and intervals are
positive and in range.
-/
def admits (thread : TimerThread) : Action → Prop
  | .register interval _ now =>
      InRange now ∧ InRange interval ∧ 0 < interval.toInt
  | .unregister _ => True
  | .requestStop => True
  | .clear => True
  | .work now => InRange now ∧ thread.clock.toInt ≤ now.toInt
  | .wake => True

instance (thread : TimerThread) : (action : Action) →
    Decidable (admits thread action)
  | .register _ _ _ => inferInstanceAs (Decidable (_ ∧ _ ∧ _))
  | .unregister _ => isTrue trivial
  | .requestStop => isTrue trivial
  | .clear => isTrue trivial
  | .work _ => inferInstanceAs (Decidable (_ ∧ _))
  | .wake => isTrue trivial

/-! ## The next time of an event -/

/-- How far an event that is due moves on, in intervals. -/
def multiplier (now : Int64) (event : RecurrentEvent) : Int :=
  max 1
    (((now.toInt - event.absoluteTime.toInt) / event.interval.toInt).bmod
      (2 ^ 32))

/-- An event with a time and an interval for which the arithmetic is exact. -/
structure Regular (event : RecurrentEvent) : Prop where
  positive : 0 < event.interval.toInt
  interval : event.interval.toInt < 2 ^ 62
  nonneg : 0 ≤ event.absoluteTime.toInt

section

variable {now : Int64} {event : RecurrentEvent}

/-- The quotient is cut down to an `int`, which does not make it larger. -/
theorem bmod_le {quotient : Int} (nonneg : 0 ≤ quotient) :
    quotient.bmod (2 ^ 32) ≤ quotient := by
  rw [Int.bmod_def]
  split <;> omega

theorem one_le_multiplier : 1 ≤ multiplier now event :=
  le_max_left _ _

/-- An event moves on by one interval, or not beyond the time of the pass. -/
theorem multiplier_spec (regular : Regular event)
    (isDue : event.absoluteTime.toInt ≤ now.toInt) :
    multiplier now event = 1 ∨
      event.absoluteTime.toInt + multiplier now event * event.interval.toInt ≤
        now.toInt := by
  rw [multiplier]
  generalize quotientIs :
    (now.toInt - event.absoluteTime.toInt) / event.interval.toInt = quotient
  have nonneg : 0 ≤ quotient := by
    rw [← quotientIs]
    exact Int.ediv_nonneg (by omega) regular.positive.le
  have most := bmod_le nonneg
  rcases le_total (quotient.bmod (2 ^ 32)) 1 with small | large
  · exact Or.inl (max_eq_left small)
  · right
    rw [max_eq_right large]
    have covered : quotient * event.interval.toInt ≤
        now.toInt - event.absoluteTime.toInt := by
      rw [← quotientIs]
      exact Int.ediv_mul_le _ regular.positive.ne'
    have cut := Int.mul_le_mul_of_nonneg_right most regular.positive.le
    omega

theorem bmod_of_range {number : Int} (low : -2 ^ 63 ≤ number)
    (high : number < 2 ^ 63) : number.bmod (2 ^ 64) = number :=
  Int.bmod_eq_of_le (by omega) (by omega)

theorem toInt_quotient (regular : Regular event) (inRange : InRange now)
    (isDue : event.absoluteTime.toInt ≤ now.toInt) :
    ((now - event.absoluteTime) / event.interval).toInt =
      (now.toInt - event.absoluteTime.toInt) / event.interval.toInt := by
  rcases regular with ⟨positive, interval, nonneg⟩
  rcases inRange with ⟨-, early⟩
  have difference : (now - event.absoluteTime).toInt =
      now.toInt - event.absoluteTime.toInt := by
    rw [Int64.toInt_sub]
    exact bmod_of_range (by omega) (by omega)
  rw [Int64.toInt_div, difference, Int.tdiv_eq_ediv_of_nonneg (by omega)]
  have low := Int.ediv_nonneg
    (show 0 ≤ now.toInt - event.absoluteTime.toInt by omega) positive.le
  have high := Int.ediv_le_self event.interval.toInt
    (show 0 ≤ now.toInt - event.absoluteTime.toInt by omega)
  exact bmod_of_range (by omega) (by omega)

/-- What the code multiplies the interval with. -/
theorem toInt_multiplier (regular : Regular event) (inRange : InRange now)
    (isDue : event.absoluteTime.toInt ≤ now.toInt) :
    (if ((now - event.absoluteTime) / event.interval).toInt32 ≤ 0 then 1
      else ((now - event.absoluteTime) / event.interval).toInt32).toInt =
      multiplier now event := by
  have narrowed : ((now - event.absoluteTime) / event.interval).toInt32.toInt =
      ((now.toInt - event.absoluteTime.toInt) /
        event.interval.toInt).bmod (2 ^ 32) := by
    rw [Int64.toInt_toInt32, toInt_quotient regular inRange isDue]
  rw [multiplier, ← narrowed]
  split
  · next isLow =>
    have low := Int32.le_iff_toInt_le.mp isLow
    exact (max_eq_left (low.trans (by decide))).symm
  · next isHigh =>
    have high : ¬((now - event.absoluteTime) / event.interval).toInt32.toInt ≤
        (0 : Int32).toInt := fun low => isHigh (Int32.le_iff_toInt_le.mpr low)
    rw [Int32.toInt_zero] at high
    exact (max_eq_right (by omega)).symm

/-- The next time of an event that is due. -/
theorem toInt_updateNextEventTime (regular : Regular event)
    (inRange : InRange now)
    (isDue : event.absoluteTime.toInt ≤ now.toInt) :
    (updateNextEventTime now event).absoluteTime.toInt =
      event.absoluteTime.toInt +
        multiplier now event * event.interval.toInt := by
  have moves := multiplier_spec regular isDue
  have least := @one_le_multiplier now event
  have product : 0 ≤ multiplier now event * event.interval.toInt :=
    Int.mul_nonneg (by omega) regular.positive.le
  rcases regular with ⟨positive, interval, nonneg⟩
  rcases inRange with ⟨-, early⟩
  have below : event.absoluteTime.toInt +
      multiplier now event * event.interval.toInt < 2 ^ 63 := by
    rcases moves with one | within
    · rw [one]
      omega
    · omega
  have exact :
      (multiplier now event * event.interval.toInt).bmod (2 ^ 64) =
        multiplier now event * event.interval.toInt :=
    bmod_of_range (by omega) (by omega)
  rw [updateNextEventTime]
  dsimp only
  rw [Int64.toInt_add, Int64.toInt_mul, Int32.toInt_toInt64,
    toInt_multiplier ⟨positive, interval, nonneg⟩ ⟨by omega, early⟩ isDue,
    exact]
  exact bmod_of_range (by omega) (by omega)

/-- An event that was visited stays regular. -/
theorem Regular.updateNextEventTime (regular : Regular event)
    (inRange : InRange now)
    (isDue : event.absoluteTime.toInt ≤ now.toInt) :
    Regular (updateNextEventTime now event) := by
  refine ⟨regular.positive, regular.interval, ?_⟩
  rw [toInt_updateNextEventTime regular inRange isDue]
  have least := @one_le_multiplier now event
  have product : 0 ≤ multiplier now event * event.interval.toInt :=
    Int.mul_nonneg (by omega) regular.positive.le
  have nonneg := regular.nonneg
  omega

end

/-! ## What a pass does -/

/-- An event after a pass. -/
def advance (now : Int64) (event : RecurrentEvent) : RecurrentEvent :=
  if event.absoluteTime ≤ now then updateNextEventTime now event else event

theorem timer_visitEvent (now : Int64) (pass : Pass)
    (it : Int32 × RecurrentEvent) :
    (visitEvent now pass it).timer =
      pass.timer.insert it.1 (advance now it.2) := rfl

theorem nextEventTime_visitEvent (now : Int64) (pass : Pass)
    (it : Int32 × RecurrentEvent) :
    (visitEvent now pass it).nextEventTime =
      if (advance now it.2).absoluteTime < pass.nextEventTime then
        (advance now it.2).absoluteTime
      else pass.nextEventTime := rfl

theorem cookies_visitEvent (now : Int64) (pass : Pass)
    (it : Int32 × RecurrentEvent) :
    (visitEvent now pass it).cookies =
      pass.cookies ++
        if it.2.absoluteTime ≤ now then [it.2.cookie] else [] := by
  rw [visitEvent]
  dsimp only
  by_cases isDue : it.2.absoluteTime ≤ now
  · rw [if_pos isDue, if_pos isDue, if_pos isDue]
    rfl
  · rw [if_neg isDue, if_neg isDue, List.append_nil]

/-- The loop leaves events alone that it does not visit. -/
theorem timer_visit_of_not_mem {now : Int64}
    {entries : List (Int32 × RecurrentEvent)} {cookie : Int32}
    (absent : cookie ∉ entries.map Prod.fst) (pass : Pass) :
    (entries.foldl (visitEvent now) pass).timer[cookie]? =
      pass.timer[cookie]? := by
  induction entries generalizing pass with
  | nil => rfl
  | cons it entries inductionHypothesis =>
      rw [List.map_cons, List.mem_cons, not_or] at absent
      rw [List.foldl_cons, inductionHypothesis absent.2, timer_visitEvent,
        OrderedMap.getElem?_insert_eq, if_neg absent.1]

/-- The loop moves each event that it visits. -/
theorem timer_visit_of_mem {now : Int64}
    {entries : List (Int32 × RecurrentEvent)} {cookie : Int32}
    {event : RecurrentEvent} (isVisited : (cookie, event) ∈ entries)
    (nodup : (entries.map Prod.fst).Nodup) (pass : Pass) :
    (entries.foldl (visitEvent now) pass).timer[cookie]? =
      some (advance now event) := by
  induction entries generalizing pass with
  | nil => cases isVisited
  | cons it entries inductionHypothesis =>
      rw [List.map_cons, List.nodup_cons] at nodup
      rw [List.foldl_cons]
      rcases List.mem_cons.mp isVisited with rfl | later
      · rw [timer_visit_of_not_mem nodup.1, timer_visitEvent,
          OrderedMap.getElem?_insert_eq, if_pos rfl]
      · exact inductionHypothesis later nodup.2 _

theorem nodup_keys (timer : RecurrentTimer) :
    (timer.toList.map Prod.fst).Nodup := by
  rw [TreeMap.map_fst_toList_eq_keys]
  refine TreeMap.distinct_keys.imp ?_
  rintro first second different rfl
  exact different ReflCmp.compare_self

/-- A pass moves the events that are due. -/
theorem timer_visitEvents (now : Int64) (timer : RecurrentTimer)
    (cookie : Int32) :
    (visitEvents now timer).timer[cookie]? =
      timer[cookie]?.map (advance now) := by
  rw [visitEvents]
  cases found : timer[cookie]? with
  | none =>
      rw [timer_visit_of_not_mem, Option.map_none]
      · exact found
      · rw [TreeMap.map_fst_toList_eq_keys, TreeMap.mem_keys]
        simp [TreeMap.mem_iff_isSome_getElem?, found]
  | some event =>
      exact timer_visit_of_mem
        (TreeMap.mem_toList_iff_getElem?_eq_some.mpr found)
        (nodup_keys timer) _

theorem cookies_visit (now : Int64) (entries : List (Int32 × RecurrentEvent))
    (pass : Pass) :
    (entries.foldl (visitEvent now) pass).cookies =
      pass.cookies ++
        (entries.filter fun it => it.2.absoluteTime ≤ now).map
          fun it => it.2.cookie := by
  induction entries generalizing pass with
  | nil => exact (List.append_nil _).symm
  | cons it entries inductionHypothesis =>
      rw [List.foldl_cons, inductionHypothesis, cookies_visitEvent,
        List.append_assoc, List.filter_cons]
      by_cases isDue : it.2.absoluteTime ≤ now
      · rw [if_pos isDue, if_pos (decide_eq_true isDue)]
        rfl
      · rw [if_neg isDue, if_neg (by simp [isDue])]
        rfl

/-- The events of a timer have the cookies under which they are found. -/
def OwnCookies (timer : RecurrentTimer) : Prop :=
  ∀ (cookie : Int32) (event : RecurrentEvent),
    timer[cookie]? = some event → event.cookie = cookie

/-- A pass takes the cookies of the events that are due, each once. -/
theorem count_visitEvents (now : Int64) {timer : RecurrentTimer}
    (own : OwnCookies timer) (cookie : Int32) :
    (visitEvents now timer).cookies.count cookie =
      if (timer[cookie]?.any fun event => event.absoluteTime ≤ now) then 1
      else 0 := by
  have keyed : (timer.toList.filter fun it => it.2.absoluteTime ≤ now).map
        (fun it => it.2.cookie) =
      (timer.toList.filter fun it => it.2.absoluteTime ≤ now).map Prod.fst := by
    refine List.map_congr_left ?_
    rintro ⟨key, event⟩ member
    exact own key event (TreeMap.mem_toList_iff_getElem?_eq_some.mp
      (List.mem_of_mem_filter member))
  rw [visitEvents, cookies_visit, List.nil_append, keyed, List.count_eq_countP,
    List.countP_map, List.countP_filter]
  have split : (fun it : Int32 × RecurrentEvent =>
        ((· == cookie) ∘ Prod.fst) it && decide (it.2.absoluteTime ≤ now)) =
      fun it => decide (it.2.absoluteTime ≤ now) && decide (it.1 = cookie) := by
    funext it
    rw [Bool.and_comm]
    rfl
  rw [split, ← List.countP_filter, OrderedMap.toList_filter_key]
  cases timer[cookie]? with
  | none => rfl
  | some event => simp [List.countP_cons]

/-- A pass looks for the earliest of the moved events. -/
theorem nextEventTime_visit (now : Int64)
    (entries : List (Int32 × RecurrentEvent)) (pass : Pass) :
    (entries.foldl (visitEvent now) pass).nextEventTime ≤
        pass.nextEventTime ∧
      ∀ it ∈ entries,
        (entries.foldl (visitEvent now) pass).nextEventTime ≤
          (advance now it.2).absoluteTime := by
  induction entries generalizing pass with
  | nil => exact ⟨Int64.le_refl _, List.forall_mem_nil _⟩
  | cons it entries inductionHypothesis =>
      rcases inductionHypothesis (visitEvent now pass it) with ⟨lower, least⟩
      rw [nextEventTime_visitEvent] at lower
      rw [List.forall_mem_cons, List.foldl_cons]
      split at lower
      · next earlier =>
        exact ⟨Int64.le_trans lower (Int64.le_of_lt earlier), lower, least⟩
      · next later =>
        exact ⟨lower, Int64.le_trans lower (Int64.not_lt.mp later), least⟩

theorem nextEventTime_visitEvents_le (now : Int64) {timer : RecurrentTimer}
    {cookie : Int32} {event : RecurrentEvent}
    (found : (visitEvents now timer).timer[cookie]? = some event) :
    (visitEvents now timer).nextEventTime ≤ event.absoluteTime := by
  rw [timer_visitEvents] at found
  rcases Option.map_eq_some_iff.mp found with ⟨before, isBefore, rfl⟩
  exact (nextEventTime_visit now timer.toList _).2 (cookie, before)
    (TreeMap.mem_toList_iff_getElem?_eq_some.mpr isBefore)

end Anbox.SensorHal.TimerLoop
