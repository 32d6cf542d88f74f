import Anbox.Foundation.Runs
import Mathlib.Algebra.Order.Ring.Int
import Mathlib.Data.List.Basic

/-!
# The event queue of the sensors HAL

Events are inserted under `mEventLock` by the threads that produce them.  One
poll at a time waits for events, under `mPollLock`; it looks at the queue under
`mEventLock`, takes what there is up to `maxCount` and returns, or waits for
some time and looks again.  An insertion that makes the queue too long drops
the oldest event.

`Log` says what the queue is for: the events in the order of their insertion,
with a cursor up to which they have been returned.
-/

namespace Anbox.SensorHal.EventQueue

open Anbox.Foundation.Runs

variable {Event : Type}

/-! ## The queue -/

def kMaxEventQueueSize : Nat := 10000

def insertEventUnlocked (event : Event) (eventQueue : List Event) :
    List Event :=
  let pushed := eventQueue ++ [event]
  if pushed.length > kMaxEventQueueSize then pushed.tail else pushed

/-- `size_t eventCnt = maxCount`. -/
def eventCnt (maxCount : Int32) : Nat := (maxCount.toInt % 2 ^ 64).toNat

/-- How many events a poll takes from a queue that is not empty. -/
def takenCount (maxCount : Int32) (size : Nat) : Nat :=
  if eventCnt maxCount ≥ size then size else eventCnt maxCount

theorem takenCount_le_size (maxCount : Int32) (size : Nat) :
    takenCount maxCount size ≤ size := by
  unfold takenCount
  split
  · exact Nat.le_refl size
  · omega

/-- From a queue with events, a poll takes some and not too many. -/
theorem takenCount_bounds {maxCount : Int32} (positive : 0 < maxCount)
    {size : Nat} (some : size > 0) :
    1 ≤ takenCount maxCount size ∧
      (takenCount maxCount size : Int) ≤ maxCount.toInt := by
  have asked : 0 < maxCount.toInt := Int32.lt_iff_toInt_lt.mp positive
  have below := maxCount.toInt_lt
  unfold takenCount eventCnt
  split
  · omega
  · omega

structure Hal (Event : Type) where
  eventQueue : List Event
  /-- What the poll that holds `mPollLock` has asked for. -/
  polling : Option Int32
  /-- What the polls have asked for and returned, in the order of returns. -/
  polled : List (Int32 × List Event)

def Hal.initial : Hal Event := ⟨[], none, []⟩

/-- The steps that are taken under a lock. -/
inductive Step (Event : Type) where
  | insertEvent (event : Event)
  | pollEnters (maxCount : Int32)
  | pollLooks

def step (hal : Hal Event) : Step Event → Hal Event
  | .insertEvent event =>
      { hal with eventQueue := insertEventUnlocked event hal.eventQueue }
  | .pollEnters maxCount =>
      if maxCount = 0 then
        { hal with polled := hal.polled ++ [(maxCount, [])] }
      -- other polls wait for the lock
      else if hal.polling.isSome then hal
      else { hal with polling := some maxCount }
  | .pollLooks =>
      match hal.polling with
      | none => hal
      | some maxCount =>
          if hal.eventQueue.length > 0 then
            let count := takenCount maxCount hal.eventQueue.length
            { eventQueue := hal.eventQueue.drop count
              polling := none
              polled :=
                hal.polled ++ [(maxCount, hal.eventQueue.take count)] }
          else hal

def reached (steps : List (Step Event)) : Hal Event :=
  runFrom step Hal.initial steps

/-! ## The log -/

/--
The events in the order of their insertion, how many of them have been
returned, and how many others have been dropped.
-/
structure Log (Event : Type) where
  events : List Event
  returned : Nat
  dropped : Nat
  polling : Option Int32

def Log.initial : Log Event := ⟨[], 0, 0, none⟩

/-- How many events have been neither returned nor dropped. -/
def Log.queued (log : Log Event) : Nat := log.events.length - log.returned

/--
An event is recorded at the end.  If too many are queued then the oldest of
them goes.
-/
def Log.insert (log : Log Event) (event : Event) : Log Event :=
  if log.queued + 1 > kMaxEventQueueSize then
    { log with
      events := (log.events ++ [event]).eraseIdx log.returned
      dropped := log.dropped + 1 }
  else { log with events := log.events ++ [event] }

def Log.step (log : Log Event) : Step Event → Log Event
  | .insertEvent event => log.insert event
  | .pollEnters maxCount =>
      if maxCount = 0 then log
      else if log.polling.isSome then log
      else { log with polling := some maxCount }
  | .pollLooks =>
      match log.polling with
      | none => log
      | some maxCount =>
          if log.queued > 0 then
            { log with
              returned := log.returned + takenCount maxCount log.queued
              polling := none }
          else log

def Log.reached (steps : List (Step Event)) : Log Event :=
  runFrom Log.step Log.initial steps

/-- The events of the insertions, in their order. -/
def inserted : List (Step Event) → List Event
  | [] => []
  | .insertEvent event :: steps => event :: inserted steps
  | .pollEnters _ :: steps => inserted steps
  | .pollLooks :: steps => inserted steps

theorem inserted_append (first second : List (Step Event)) :
    inserted (first ++ second) = inserted first ++ inserted second := by
  induction first with
  | nil => rfl
  | cons made first inductionHypothesis =>
      cases made with
      | insertEvent event => simp [inserted, inductionHypothesis]
      | pollEnters maxCount => simp [inserted, inductionHypothesis]
      | pollLooks => simp [inserted, inductionHypothesis]

/-! ## The queue follows the log -/

/-- All events that the polls have returned. -/
def Hal.returned (hal : Hal Event) : List Event :=
  (hal.polled.map Prod.snd).flatten

/-- A poll that asked for events has got some, and not too many. -/
def WellAnswered (answer : Int32 × List Event) : Prop :=
  0 < answer.1 →
    1 ≤ answer.2.length ∧ (answer.2.length : Int) ≤ answer.1.toInt

/-- The queue and the results of the polls are the two parts of the log. -/
structure Follows (hal : Hal Event) (log : Log Event) : Prop where
  events : hal.returned ++ hal.eventQueue = log.events
  returned : hal.returned.length = log.returned
  polling : hal.polling = log.polling
  bounded : hal.eventQueue.length ≤ kMaxEventQueueSize
  answered : ∀ answer ∈ hal.polled, WellAnswered answer

namespace Follows

variable {hal : Hal Event} {log : Log Event}

theorem queued (follows : Follows hal log) :
    log.queued = hal.eventQueue.length := by
  rw [Log.queued, ← follows.events, ← follows.returned,
    List.length_append, Nat.add_sub_cancel_left]

theorem insertEvent (follows : Follows hal log) (event : Event) :
    Follows (step hal (.insertEvent event))
      (log.step (.insertEvent event)) := by
  have bounded := follows.bounded
  have events := follows.events
  simp only [step, Log.step, Log.insert, insertEventUnlocked,
    follows.queued, List.length_append, List.length_singleton]
  split
  · refine ⟨?_, follows.returned, follows.polling, ?_, follows.answered⟩
    · rw [← events, ← follows.returned, List.append_assoc,
        List.eraseIdx_append_of_length_le (Nat.le_refl _), Nat.sub_self,
        List.eraseIdx_zero]
      rfl
    · simpa using bounded
  · rename_i room
    refine ⟨?_, follows.returned, follows.polling, ?_, follows.answered⟩
    · rw [← events, ← List.append_assoc]
      rfl
    · simp only [List.length_append, List.length_singleton]
      omega

theorem pollEnters (follows : Follows hal log) (maxCount : Int32) :
    Follows (step hal (.pollEnters maxCount))
      (log.step (.pollEnters maxCount)) := by
  simp only [step, Log.step, ← follows.polling]
  split
  · rename_i zero
    have nothing :
        ({ hal with polled := hal.polled ++ [(maxCount, [])] } :
          Hal Event).returned = hal.returned := by
      simp [Hal.returned]
    refine ⟨?_, ?_, follows.polling, follows.bounded, ?_⟩
    · rw [nothing]
      exact follows.events
    · rw [nothing]
      exact follows.returned
    · intro answer member
      rcases List.mem_append.mp member with before | last
      · exact follows.answered answer before
      · rw [List.mem_singleton.mp last, zero]
        intro positive
        exact absurd positive (show ¬(0 : Int32) < 0 by decide)
  · split
    · exact follows
    · exact ⟨follows.events, follows.returned, rfl, follows.bounded,
        follows.answered⟩

/-- What a poll takes moves from the queue to what has been returned. -/
theorem pollLooks (follows : Follows hal log) :
    Follows (step hal .pollLooks) (log.step .pollLooks) := by
  simp only [step, Log.step, ← follows.polling]
  split
  · exact follows
  · rename_i maxCount _
    rw [follows.queued]
    split
    · rename_i some
      let count := takenCount maxCount hal.eventQueue.length
      have taken :
          ({ eventQueue := hal.eventQueue.drop count
             polling := none
             polled :=
               hal.polled ++ [(maxCount, hal.eventQueue.take count)] } :
            Hal Event).returned =
          hal.returned ++ hal.eventQueue.take count := by
        simp [Hal.returned]
      have enough : count ≤ hal.eventQueue.length :=
        takenCount_le_size maxCount hal.eventQueue.length
      refine ⟨?_, ?_, rfl, ?_, ?_⟩
      · rw [taken, List.append_assoc, List.take_append_drop]
        exact follows.events
      · rw [taken, List.length_append, follows.returned,
          List.length_take, Nat.min_eq_left enough]
      · exact Nat.le_trans
          (List.drop_sublist count hal.eventQueue).length_le
          follows.bounded
      · intro answer member
        rcases List.mem_append.mp member with before | last
        · exact follows.answered answer before
        · rw [List.mem_singleton.mp last]
          intro positive
          rw [List.length_take, Nat.min_eq_left enough]
          exact takenCount_bounds positive some
    · exact follows

theorem run (follows : Follows hal log) (steps : List (Step Event)) :
    Follows (runFrom step hal steps) (runFrom Log.step log steps) := by
  induction steps generalizing hal log with
  | nil => exact follows
  | cons made steps inductionHypothesis =>
      apply inductionHypothesis
      cases made with
      | insertEvent event => exact follows.insertEvent event
      | pollEnters maxCount => exact follows.pollEnters maxCount
      | pollLooks => exact follows.pollLooks

end Follows

theorem follows_initial :
    Follows (Hal.initial : Hal Event) Log.initial := by
  refine ⟨rfl, rfl, rfl, Nat.zero_le _, ?_⟩
  intro answer member
  cases member

/-! ## The log against the insertions -/

/-- The log has the insertions in their order, less the dropped ones. -/
structure Log.Records (log : Log Event) (events : List Event) : Prop where
  order : log.events.Sublist events
  count : events.length = log.events.length + log.dropped
  returned : log.returned ≤ log.events.length

namespace Log.Records

variable {log : Log Event} {events : List Event}

theorem insert (records : log.Records events) (event : Event) :
    (log.insert event).Records (events ++ [event]) := by
  have count := records.count
  have returned := records.returned
  have longer :
      (log.events ++ [event]).Sublist (events ++ [event]) :=
    records.order.append (List.Sublist.refl [event])
  unfold Log.insert
  split
  · have length :
        ((log.events ++ [event]).eraseIdx log.returned).length =
          log.events.length := by
      rw [List.length_eraseIdx_of_lt (by simp; omega)]
      simp
    refine ⟨(List.eraseIdx_sublist _ _).trans longer, ?_, ?_⟩
    · simp only [length, List.length_append, List.length_singleton]
      omega
    · simpa only [length] using returned
  · refine ⟨longer, ?_, ?_⟩
    · simp only [List.length_append, List.length_singleton]
      omega
    · simp only [List.length_append, List.length_singleton]
      omega

theorem step (records : log.Records events) (made : Step Event) :
    (log.step made).Records (events ++ inserted [made]) := by
  cases made with
  | insertEvent event => exact records.insert event
  | pollEnters maxCount =>
      rw [inserted, inserted, List.append_nil]
      simp only [Log.step]
      split
      · exact records
      · split
        · exact records
        · exact ⟨records.order, records.count, records.returned⟩
  | pollLooks =>
      rw [inserted, inserted, List.append_nil]
      simp only [Log.step]
      split
      · exact records
      · split
        · rename_i maxCount _ _
          refine ⟨records.order, records.count, ?_⟩
          have most := takenCount_le_size maxCount log.queued
          have returned := records.returned
          unfold Log.queued at most ⊢
          dsimp only
          omega
        · exact records

end Log.Records

theorem records_reached (steps : List (Step Event)) :
    (Log.reached steps).Records (inserted steps) := by
  refine @run_history (Log Event) (Step Event) Log.step Log.initial
    (fun steps log => log.Records (inserted steps)) ?_ ?_ steps
  · exact ⟨List.Sublist.refl [], rfl, Nat.le_refl _⟩
  · intro earlier made records
    rw [inserted_append]
    exact records.step made

/--
After any steps, the queue is not too long, what the polls have returned
followed by what is queued are the events of the log, and every poll for
events has got some of them.  The log has the insertions in their order, one
less for each overflow.
-/
theorem eventQueue_follows_log (steps : List (Step Event)) :
    (reached steps).eventQueue.length ≤ kMaxEventQueueSize ∧
    (reached steps).returned ++ (reached steps).eventQueue =
      (Log.reached steps).events ∧
    (reached steps).returned.length = (Log.reached steps).returned ∧
    (Log.reached steps).events.Sublist (inserted steps) ∧
    (inserted steps).length =
      (Log.reached steps).events.length + (Log.reached steps).dropped ∧
    ∀ answer ∈ (reached steps).polled, WellAnswered answer := by
  have follows : Follows (reached steps) (Log.reached steps) :=
    follows_initial.run steps
  have records := records_reached steps
  exact ⟨follows.bounded, follows.events, follows.returned, records.order,
    records.count, follows.answered⟩

end Anbox.SensorHal.EventQueue
