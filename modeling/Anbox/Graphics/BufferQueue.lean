import Anbox.Foundation.RingBuffer
import Anbox.Foundation.Runs

/-!
# The buffer queue

`BufferQueue` passes buffers from producers to consumers.  It keeps them in an
array of `capacity_` slots that it uses as a ring.  Once it is closed, nothing
can be pushed any more; what is stored can still be popped.

All operations run under a lock of the caller.  `push_locked` and `pop_locked`
give the lock up while they wait for a condition variable and look at the
queue again whenever they are woken up, so a run is a sequence of attempts.
`new Buffer[capacity]` has allocated the slots, so that sums of a position and
a count are far from the limit of `size_t`.
-/

namespace Anbox.Graphics.BufferQueue

open Anbox.Foundation.RingBuffer
open Anbox.Foundation.Runs

universe u

variable {Buffer : Type u}

/-- The members of a `BufferQueue`. -/
structure Queue (Buffer : Type u) where
  capacity : Nat
  pos : Nat
  count : Nat
  closed : Bool
  buffers : Nat → Buffer

/-- A new queue; the slots hold default-constructed buffers. -/
def Queue.initial (capacity : Nat) (buffers : Nat → Buffer) :
    Queue Buffer :=
  ⟨capacity, 0, 0, false, buffers⟩

/-- The results `0`, `-EIO` and `-EAGAIN`. -/
inductive Status where
  | ok
  | eio
  | eagain
deriving DecidableEq, Repr

/-! ## Operations

`residue` is what a buffer holds after it was moved from.  Each operation
returns the queue, its result and the buffer of the caller.
-/

section

variable (residue : Buffer → Buffer)

def tryPushLocked (queue : Queue Buffer) (buffer : Buffer) :
    Queue Buffer × Status × Buffer :=
  if queue.closed then (queue, .eio, buffer)
  else if queue.capacity ≤ queue.count then (queue, .eagain, buffer)
  else
    let pos := queue.pos + queue.count
    let slot :=
      if queue.capacity ≤ pos then pos - queue.capacity else pos
    ({ queue with
      buffers := Function.update queue.buffers slot buffer
      count := queue.count + 1 }, .ok, residue buffer)

/-- One round of the loop; `none` if it waits for `can_push_`. -/
def pushLocked (queue : Queue Buffer) (buffer : Buffer) :
    Option (Queue Buffer × Status × Buffer) :=
  if queue.count = queue.capacity then
    if queue.closed then some (queue, .eio, buffer) else none
  else some (tryPushLocked residue queue buffer)

def tryPopLocked (queue : Queue Buffer) (buffer : Buffer) :
    Queue Buffer × Status × Buffer :=
  if queue.count = 0 then
    (queue, if queue.closed then .eio else .eagain, buffer)
  else
    let popped := queue.buffers queue.pos
    let pos := queue.pos + 1
    let next := if queue.capacity ≤ pos then pos - queue.capacity else pos
    ({ queue with
      buffers := Function.update queue.buffers queue.pos (residue popped)
      pos := next
      count := queue.count - 1 }, .ok, popped)

/-- One round of the loop; `none` if it waits for `can_pop_`. -/
def popLocked (queue : Queue Buffer) (buffer : Buffer) :
    Option (Queue Buffer × Status × Buffer) :=
  if queue.count = 0 then
    if queue.closed then some (queue, .eio, buffer) else none
  else some (tryPopLocked residue queue buffer)

def closeLocked (queue : Queue Buffer) : Queue Buffer :=
  { queue with closed := true }

end

/-! ## Any number of threads -/

abbrev ThreadId := Nat

/-- An operation with the buffer it was called with. -/
inductive Operation (Buffer : Type u) where
  | tryPush (buffer : Buffer)
  | push (buffer : Buffer)
  | tryPop (buffer : Buffer)
  | pop (buffer : Buffer)

/-- An operation that has returned. -/
structure Completed (Buffer : Type u) where
  operation : Operation Buffer
  before : Queue Buffer
  after : Queue Buffer
  status : Status
  /-- The buffer of the caller after the operation. -/
  buffer : Buffer

/-- Let an operation look at the queue; `none` if it waits. -/
def attempt (residue : Buffer → Buffer) (queue : Queue Buffer) :
    Operation Buffer → Option (Queue Buffer × Status × Buffer)
  | .tryPush buffer => some (tryPushLocked residue queue buffer)
  | .push buffer => pushLocked residue queue buffer
  | .tryPop buffer => some (tryPopLocked residue queue buffer)
  | .pop buffer => popLocked residue queue buffer

structure System (Buffer : Type u) where
  queue : Queue Buffer
  /-- What each thread waits for. -/
  waiting : ThreadId → Option (Operation Buffer)
  completed : List (Completed Buffer)

def System.initial (capacity : Nat) (buffers : Nat → Buffer) :
    System Buffer :=
  ⟨Queue.initial capacity buffers, fun _ => none, []⟩

inductive Label (Buffer : Type u) where
  | call (thread : ThreadId) (operation : Operation Buffer)
  /-- A thread that waits is woken up, with or without a notification. -/
  | resume (thread : ThreadId)
  | close

/-- A thread looks at the queue and either returns or waits. -/
def System.attempt (residue : Buffer → Buffer) (system : System Buffer)
    (thread : ThreadId) (operation : Operation Buffer) : System Buffer :=
  match BufferQueue.attempt residue system.queue operation with
  | none =>
      { system with
        waiting := Function.update system.waiting thread (some operation) }
  | some (queue, status, buffer) =>
      { queue := queue
        waiting := Function.update system.waiting thread none
        completed := system.completed ++
          [⟨operation, system.queue, queue, status, buffer⟩] }

def step (residue : Buffer → Buffer) (system : System Buffer) :
    Label Buffer → System Buffer
  | .call thread operation =>
      match system.waiting thread with
      | some _ => system
      | none => system.attempt residue thread operation
  | .resume thread =>
      match system.waiting thread with
      | some operation => system.attempt residue thread operation
      | none => system
  | .close => { system with queue := closeLocked system.queue }

def after (residue : Buffer → Buffer) (capacity : Nat)
    (buffers : Nat → Buffer) (labels : List (Label Buffer)) :
    System Buffer :=
  runFrom (step residue) (System.initial capacity buffers) labels

/-! ## A bounded first-in first-out queue -/

/-- The buffers that are stored, in the order in which they are popped. -/
def Queue.stored (queue : Queue Buffer) : List Buffer :=
  contents queue.buffers queue.capacity queue.pos queue.count

/-- The bounds of the ring. -/
structure Queue.Bounded (queue : Queue Buffer) : Prop where
  count : queue.count ≤ queue.capacity
  pos : queue.pos < queue.capacity

/-- How a push is related to what is stored. -/
structure PushLaw (blocking : Bool) (before after : Queue Buffer)
    (pushed : Buffer) (status : Status) : Prop where
  eio : status = .eio ↔ before.closed = true
  eagain :
    status = .eagain ↔
      blocking = false ∧ before.closed = false ∧
        before.stored.length = before.capacity
  ok :
    status = .ok →
      after.stored = before.stored ++ [pushed] ∧
        after.closed = before.closed
  failed : status ≠ .ok → after = before

/-- How a pop is related to what is stored. -/
structure PopLaw (blocking : Bool) (before after : Queue Buffer)
    (given returned : Buffer) (status : Status) : Prop where
  ok : status = .ok ↔ before.stored ≠ []
  eio : status = .eio ↔ before.stored = [] ∧ before.closed = true
  eagain :
    status = .eagain ↔
      blocking = false ∧ before.stored = [] ∧ before.closed = false
  first :
    status = .ok →
      before.stored = returned :: after.stored ∧
        after.closed = before.closed
  failed : status ≠ .ok → after = before ∧ returned = given

/-- An operation has done what it does on a bounded queue. -/
def Completed.Lawful (completed : Completed Buffer) : Prop :=
  match completed.operation with
  | .tryPush buffer =>
      PushLaw false completed.before completed.after buffer completed.status
  | .push buffer =>
      PushLaw true completed.before completed.after buffer completed.status
  | .tryPop buffer =>
      PopLaw false completed.before completed.after buffer completed.buffer
        completed.status
  | .pop buffer =>
      PopLaw true completed.before completed.after buffer completed.buffer
        completed.status

/-- The operation has to wait: a full or an empty queue that is still open. -/
def Operation.Waits (queue : Queue Buffer) : Operation Buffer → Prop
  | .tryPush _ => False
  | .push _ =>
      queue.closed = false ∧ queue.stored.length = queue.capacity
  | .tryPop _ => False
  | .pop _ => queue.closed = false ∧ queue.stored = []

/-- The buffer that an operation has pushed. -/
def Completed.pushed (completed : Completed Buffer) : Option Buffer :=
  match completed.operation, completed.status with
  | .tryPush buffer, .ok => some buffer
  | .push buffer, .ok => some buffer
  | _, _ => none

/-- The buffer that an operation has popped. -/
def Completed.popped (completed : Completed Buffer) : Option Buffer :=
  match completed.operation, completed.status with
  | .tryPop _, .ok => some completed.buffer
  | .pop _, .ok => some completed.buffer
  | _, _ => none

/-- The buffers pushed so far, in order. -/
def System.pushed (system : System Buffer) : List Buffer :=
  system.completed.filterMap Completed.pushed

/-- The buffers popped so far, in order. -/
def System.popped (system : System Buffer) : List Buffer :=
  system.completed.filterMap Completed.popped

section

variable {residue : Buffer → Buffer} {queue : Queue Buffer}

theorem Queue.stored_length (queue : Queue Buffer) :
    queue.stored.length = queue.count :=
  contents_length ..

theorem Queue.stored_eq_nil_iff :
    queue.stored = [] ↔ queue.count = 0 := by
  rw [← List.length_eq_zero_iff, queue.stored_length]

/-! ### Pushing -/

theorem tryPushLocked_bounded (bounded : queue.Bounded) (buffer : Buffer) :
    (tryPushLocked residue queue buffer).1.Bounded ∧
      (tryPushLocked residue queue buffer).1.capacity = queue.capacity := by
  unfold tryPushLocked
  split
  · exact ⟨bounded, rfl⟩
  · split
    · exact ⟨bounded, rfl⟩
    · next room => exact ⟨⟨Nat.lt_of_not_le room, bounded.pos⟩, rfl⟩

theorem tryPushLocked_law (bounded : queue.Bounded) (buffer : Buffer) :
    PushLaw false queue (tryPushLocked residue queue buffer).1 buffer
      (tryPushLocked residue queue buffer).2.1 := by
  have atMost := bounded.count
  unfold tryPushLocked
  split
  · next closed =>
    constructor <;> simp [closed]
  · next isOpen =>
    split
    · next full =>
      have exact : queue.count = queue.capacity := by omega
      constructor <;> simp [isOpen, queue.stored_length, exact]
    · next room =>
      have less : queue.count < queue.capacity := by omega
      constructor
      case ok =>
        intro _
        exact ⟨contents_push less buffer, rfl⟩
      case eagain =>
        rw [queue.stored_length]
        simp [isOpen, Nat.ne_of_lt less]
      all_goals simp [isOpen]

/-- A push that does not wait behaves like the non-blocking one. -/
theorem pushLocked_cases (bounded : queue.Bounded) {buffer : Buffer}
    {result : Queue Buffer × Status × Buffer}
    (returned : pushLocked residue queue buffer = some result) :
    result = tryPushLocked residue queue buffer ∧
      (queue.closed = true ∨ queue.count < queue.capacity) := by
  have atMost := bounded.count
  unfold pushLocked at returned
  split at returned
  · split at returned
    · next closed =>
      cases returned
      simp [tryPushLocked, closed]
    · cases returned
  · next notFull =>
    cases returned
    exact ⟨rfl, Or.inr (by omega)⟩

theorem PushLaw.blocking {after : Queue Buffer} {buffer : Buffer}
    {status : Status} (law : PushLaw false queue after buffer status)
    (free : queue.closed = true ∨ queue.count < queue.capacity) :
    PushLaw true queue after buffer status where
  eio := law.eio
  eagain := by
    rw [law.eagain, queue.stored_length]
    constructor
    · rintro ⟨-, isOpen, full⟩
      rcases free with closed | room
      · rw [closed] at isOpen
        cases isOpen
      · omega
    · rintro ⟨impossible, -⟩
      cases impossible
  ok := law.ok
  failed := law.failed

/-! ### Popping -/

theorem tryPopLocked_bounded (bounded : queue.Bounded) (buffer : Buffer) :
    (tryPopLocked residue queue buffer).1.Bounded ∧
      (tryPopLocked residue queue buffer).1.capacity = queue.capacity := by
  have atMost := bounded.count
  have inside := bounded.pos
  unfold tryPopLocked
  split
  · exact ⟨bounded, rfl⟩
  · refine ⟨⟨?_, ?_⟩, rfl⟩
    · exact Nat.le_trans (Nat.sub_le _ _) atMost
    · exact wrap_lt inside (show 1 ≤ queue.capacity by omega)

/-- A pop that finds something takes the first buffer. -/
theorem tryPopLocked_stored (bounded : queue.Bounded)
    (nonempty : queue.count ≠ 0) (buffer : Buffer) :
    queue.stored =
      (tryPopLocked residue queue buffer).2.2 ::
        (tryPopLocked residue queue buffer).1.stored := by
  obtain ⟨count, counted⟩ := Nat.exists_eq_succ_of_ne_zero nonempty
  have within : count + 1 ≤ queue.capacity := by
    have atMost := bounded.count
    omega
  have unused : ∀ offset < count,
      wrap queue.capacity (wrap queue.capacity queue.pos 1) offset ≠
        queue.pos := by
    intro offset before same
    rw [wrap_next bounded.pos (by omega)] at same
    have first := wrap_zero bounded.pos
    have equal := wrap_inj (show offset + 1 < queue.capacity by omega)
      (show 0 < queue.capacity by omega) (same.trans first.symm)
    omega
  simp only [tryPopLocked, if_neg nonempty, Queue.stored]
  rw [counted, Nat.succ_eq_add_one, Nat.add_sub_cancel,
    contents_pop bounded.pos within]
  congr 1
  exact (contents_update _ unused).symm

theorem tryPopLocked_law (bounded : queue.Bounded) (buffer : Buffer) :
    PopLaw false queue (tryPopLocked residue queue buffer).1 buffer
      (tryPopLocked residue queue buffer).2.2
      (tryPopLocked residue queue buffer).2.1 := by
  by_cases empty : queue.count = 0
  · have nothing := Queue.stored_eq_nil_iff.mpr empty
    cases closed : queue.closed with
    | true =>
        constructor <;> simp [tryPopLocked, empty, nothing, closed]
    | false =>
        constructor <;> simp [tryPopLocked, empty, nothing, closed]
  · have something : queue.stored ≠ [] :=
      mt Queue.stored_eq_nil_iff.mp empty
    constructor
    case first =>
      intro _
      refine ⟨tryPopLocked_stored bounded empty buffer, ?_⟩
      simp [tryPopLocked, empty]
    all_goals simp [tryPopLocked, empty, something]

/-- A pop that does not wait behaves like the non-blocking one. -/
theorem popLocked_cases {buffer : Buffer}
    {result : Queue Buffer × Status × Buffer}
    (returned : popLocked residue queue buffer = some result) :
    result = tryPopLocked residue queue buffer ∧
      (queue.closed = true ∨ queue.count ≠ 0) := by
  unfold popLocked at returned
  split at returned
  · next empty =>
    split at returned
    · next closed =>
      cases returned
      simp [tryPopLocked, empty, closed]
    · cases returned
  · next nonempty =>
    cases returned
    exact ⟨rfl, Or.inr nonempty⟩

theorem PopLaw.blocking {after : Queue Buffer} {given returned : Buffer}
    {status : Status} (law : PopLaw false queue after given returned status)
    (available : queue.closed = true ∨ queue.count ≠ 0) :
    PopLaw true queue after given returned status where
  ok := law.ok
  eio := law.eio
  eagain := by
    rw [law.eagain]
    constructor
    · rintro ⟨-, empty, isOpen⟩
      rcases available with closed | nonempty
      · rw [closed] at isOpen
        cases isOpen
      · exact absurd (Queue.stored_eq_nil_iff.mp empty) nonempty
    · rintro ⟨impossible, -⟩
      cases impossible
  first := law.first
  failed := law.failed

end

/-- A push that waits for room fails only if the queue is closed. -/
theorem PushLaw.closed_of_failed {before after : Queue Buffer}
    {buffer : Buffer} {status : Status}
    (law : PushLaw true before after buffer status)
    (failed : status ≠ .ok) : before.closed = true := by
  cases status with
  | ok => exact absurd rfl failed
  | eio => exact law.eio.mp rfl
  | eagain => exact absurd (law.eagain.mp rfl).1 (by decide)

/-- A pop that waits for a buffer gets one unless the queue is closed. -/
theorem PopLaw.ok_of_ne_eio {before after : Queue Buffer}
    {given returned : Buffer} {status : Status}
    (law : PopLaw true before after given returned status)
    (notEio : status ≠ .eio) : status = .ok := by
  cases status with
  | ok => rfl
  | eio => exact absurd rfl notEio
  | eagain => exact absurd (law.eagain.mp rfl).1 (by decide)

/-! ## Every run -/

/-- What holds of a system between two steps. -/
structure Valid (capacity : Nat) (system : System Buffer) : Prop where
  capacity : system.queue.capacity = capacity
  bounded : system.queue.Bounded
  conserved : system.popped ++ system.queue.stored = system.pushed
  lawful : ∀ completed ∈ system.completed, completed.Lawful

theorem valid_initial {capacity : Nat} (positive : 0 < capacity)
    (buffers : Nat → Buffer) :
    Valid capacity (System.initial capacity buffers) := by
  constructor
  case capacity => rfl
  case bounded => exact ⟨Nat.zero_le _, positive⟩
  case conserved => rfl
  case lawful =>
    intro completed member
    cases member

/-- What an operation that returns has done. -/
structure Returned (completed : Completed Buffer) : Prop where
  bounded : completed.after.Bounded
  capacity : completed.after.capacity = completed.before.capacity
  conserved :
    completed.popped.toList ++ completed.after.stored =
      completed.before.stored ++ completed.pushed.toList
  lawful : completed.Lawful

theorem PushLaw.stored {blocking : Bool} {before after : Queue Buffer}
    {buffer : Buffer} {status : Status}
    (law : PushLaw blocking before after buffer status) :
    after.stored =
      before.stored ++ (if status = .ok then [buffer] else []) := by
  by_cases success : status = .ok
  · rw [if_pos success, (law.ok success).1]
  · rw [if_neg success, law.failed success, List.append_nil]

theorem PopLaw.stored {blocking : Bool} {before after : Queue Buffer}
    {given returned : Buffer} {status : Status}
    (law : PopLaw blocking before after given returned status) :
    (if status = .ok then [returned] else []) ++ after.stored =
      before.stored := by
  by_cases success : status = .ok
  · rw [if_pos success, (law.first success).1, List.singleton_append]
  · rw [if_neg success, (law.failed success).1, List.nil_append]

theorem attempt_eq_none_iff (residue : Buffer → Buffer)
    (queue : Queue Buffer) (operation : Operation Buffer) :
    attempt residue queue operation = none ↔ operation.Waits queue := by
  cases operation with
  | tryPush buffer | tryPop buffer => simp [attempt, Operation.Waits]
  | push buffer =>
      rw [Operation.Waits, queue.stored_length, attempt, pushLocked]
      by_cases full : queue.count = queue.capacity
      · simp [full]
      · simp [full]
  | pop buffer =>
      rw [Operation.Waits, Queue.stored_eq_nil_iff, attempt, popLocked]
      by_cases empty : queue.count = 0
      · simp [empty]
      · simp [empty]

theorem attempt_returned {residue : Buffer → Buffer} {queue : Queue Buffer}
    (bounded : queue.Bounded) {operation : Operation Buffer}
    {next : Queue Buffer} {status : Status} {buffer : Buffer}
    (returned :
      attempt residue queue operation = some (next, status, buffer)) :
    Returned ⟨operation, queue, next, status, buffer⟩ := by
  cases operation with
  | tryPush pushed =>
      have result := Option.some.inj returned
      have limits := @tryPushLocked_bounded _ residue _ bounded pushed
      have law := @tryPushLocked_law _ residue _ bounded pushed
      rw [result] at limits law
      refine ⟨limits.1, limits.2, ?_, law⟩
      simp only [law.stored]
      cases status <;> simp [Completed.pushed, Completed.popped]
  | push pushed =>
      rcases pushLocked_cases bounded returned with ⟨result, free⟩
      have limits := @tryPushLocked_bounded _ residue _ bounded pushed
      have law := @tryPushLocked_law _ residue _ bounded pushed
      rw [← result] at limits law
      have law := law.blocking free
      refine ⟨limits.1, limits.2, ?_, law⟩
      simp only [law.stored]
      cases status <;> simp [Completed.pushed, Completed.popped]
  | tryPop given =>
      have result := Option.some.inj returned
      have limits := @tryPopLocked_bounded _ residue _ bounded given
      have law := @tryPopLocked_law _ residue _ bounded given
      rw [result] at limits law
      refine ⟨limits.1, limits.2, ?_, law⟩
      simp only [← law.stored]
      cases status <;> simp [Completed.pushed, Completed.popped]
  | pop given =>
      rcases popLocked_cases returned with ⟨result, available⟩
      have limits := @tryPopLocked_bounded _ residue _ bounded given
      have law := @tryPopLocked_law _ residue _ bounded given
      rw [← result] at limits law
      have law := law.blocking available
      refine ⟨limits.1, limits.2, ?_, law⟩
      simp only [← law.stored]
      cases status <;> simp [Completed.pushed, Completed.popped]

theorem filterMap_snoc {Item Image : Type u} (function : Item → Option Image)
    (items : List Item) (last : Item) :
    (items ++ [last]).filterMap function =
      items.filterMap function ++ (function last).toList := by
  rw [List.filterMap_append]
  cases image : function last <;> simp [image]

theorem Valid.attempt {capacity : Nat} {system : System Buffer}
    (valid : Valid capacity system) (residue : Buffer → Buffer)
    (thread : ThreadId) (operation : Operation Buffer) :
    Valid capacity (system.attempt residue thread operation) := by
  unfold System.attempt
  split
  · exact ⟨valid.capacity, valid.bounded, valid.conserved, valid.lawful⟩
  · next queue status buffer result =>
    have returned := attempt_returned valid.bounded result
    constructor
    case capacity => exact returned.capacity.trans valid.capacity
    case bounded => exact returned.bounded
    case conserved =>
      have conserved := valid.conserved
      unfold System.popped System.pushed at conserved ⊢
      rw [filterMap_snoc, filterMap_snoc, ← conserved, List.append_assoc,
        List.append_assoc, returned.conserved]
    case lawful =>
      intro completed member
      rcases List.mem_append.mp member with earlier | last
      · exact valid.lawful completed earlier
      · rw [List.mem_singleton.mp last]
        exact returned.lawful

theorem Valid.step {capacity : Nat} {system : System Buffer}
    (residue : Buffer → Buffer) (label : Label Buffer)
    (valid : Valid capacity system) :
    Valid capacity (step residue system label) := by
  cases label with
  | call thread operation =>
      simp only [BufferQueue.step]
      split
      · exact valid
      · exact valid.attempt residue thread operation
  | resume thread =>
      simp only [BufferQueue.step]
      split
      · exact valid.attempt residue thread _
      · exact valid
  | close =>
      exact ⟨valid.capacity, ⟨valid.bounded.count, valid.bounded.pos⟩,
        valid.conserved, valid.lawful⟩

/--
In every run the queue is a bounded first-in first-out queue: what was popped
followed by what is stored is what was pushed, every operation that has
returned has done what it does on such a queue, and only those operations wait
that have to.
-/
theorem bufferQueue_refines_fifo (residue : Buffer → Buffer)
    (capacity : Nat) (positive : 0 < capacity) (buffers : Nat → Buffer)
    (labels : List (Label Buffer)) :
    (after residue capacity buffers labels).queue.count ≤ capacity ∧
      (after residue capacity buffers labels).queue.pos < capacity ∧
      (after residue capacity buffers labels).popped ++
          (after residue capacity buffers labels).queue.stored =
        (after residue capacity buffers labels).pushed ∧
      (∀ completed ∈ (after residue capacity buffers labels).completed,
        completed.Lawful) ∧
      ∀ operation,
        attempt residue (after residue capacity buffers labels).queue
            operation = none ↔
          operation.Waits
            (after residue capacity buffers labels).queue := by
  have valid : Valid capacity (after residue capacity buffers labels) :=
    run_invariant (fun _ label => Valid.step residue label)
      (valid_initial positive buffers) labels
  have bounded := valid.bounded
  have count := bounded.count
  have pos := bounded.pos
  rw [valid.capacity] at count pos
  exact ⟨count, pos, valid.conserved, valid.lawful,
    attempt_eq_none_iff residue _⟩

/-- A second push waits until the first buffer was popped. -/
def handedOver : List (Label Nat) :=
  [.call 0 (.push 5), .call 0 (.push 6), .call 1 (.pop 0), .resume 0,
    .close, .call 1 (.tryPop 0), .call 1 (.pop 0)]

theorem bufferQueue_refines_fifo_handed_over :
    (after id 1 (fun _ => 0) handedOver).popped = [5, 6] ∧
      (after id 1 (fun _ => 0) handedOver).popped ++
          (after id 1 (fun _ => 0) handedOver).queue.stored =
        (after id 1 (fun _ => 0) handedOver).pushed :=
  ⟨rfl, (bufferQueue_refines_fifo id 1 Nat.one_pos (fun _ => 0)
    handedOver).2.2.1⟩

end Anbox.Graphics.BufferQueue
