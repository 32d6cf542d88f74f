import Anbox.Graphics.BufferQueue

/-!
# The output of a buffered stream

The render thread fills `write_buffer_` and commits it to `out_queue_`.  The
worker of `BufferedIOStream` takes one buffer after another and hands it to
`send_raw`, which may take fewer bytes than it is given, fail for the moment
or fail for good.  The worker keeps `out_lock_` while it sends a buffer.
-/

namespace Anbox.Graphics.StreamOutput

open Anbox.Foundation.Runs
open Anbox.Graphics.BufferQueue

/-- The bytes of a buffer. -/
abbrev Buffer := List UInt8

/-! ## The buffer of the render thread -/

/-- `write_buffer_`, whose bytes are inside the object or allocated. -/
structure WriteBuffer where
  bytes : Buffer
  allocated : Bool

/-- The number of bytes that a buffer can have inside the object. -/
def smallSize : Nat := 512

/-- Grow to a size; `memory` is what the new bytes happen to be. -/
def WriteBuffer.resizeNoinit (buffer : WriteBuffer) (size : Nat)
    (memory : Nat → UInt8) : WriteBuffer :=
  { bytes := buffer.bytes ++
      (List.range (size - buffer.bytes.length)).map memory
    allocated := buffer.allocated || decide (smallSize < size) }

/-- The state of a vector whose allocated bytes were moved away. -/
def WriteBuffer.movedFrom : WriteBuffer := ⟨[], false⟩

/-! ## The worker and the committing thread -/

/-- Where `thread_main` is. -/
inductive Worker where
  /-- At the start of its loop or waiting for `can_pop_`. -/
  | idle
  | sending (buffer : Buffer) (bytesLeft : Nat)
  | finished
deriving DecidableEq, Repr

/-- The bytes that the worker has still to send. -/
def Worker.unsent : Worker → List UInt8
  | .idle => []
  | .sending buffer bytesLeft => buffer.drop (buffer.length - bytesLeft)
  | .finished => []

@[simp]
theorem unsent_idle : Worker.idle.unsent = [] :=
  rfl

@[simp]
theorem unsent_sending (buffer : Buffer) (bytesLeft : Nat) :
    (Worker.sending buffer bytesLeft).unsent =
      buffer.drop (buffer.length - bytesLeft) :=
  rfl

/-- The result of `send_raw`. -/
inductive SendResult where
  | written (count : Nat)
  /-- `-1` with `EINTR` or `EAGAIN`. -/
  | busy
  /-- `-1` with any other error. -/
  | error
deriving DecidableEq, Repr

structure System where
  outQueue : Queue Buffer
  writeBuffer : WriteBuffer
  worker : Worker
  /-- The buffer of a `commitBuffer` that waits for `can_push_`. -/
  committing : Option Buffer
  /-- The buffers that `commitBuffer` was called for, in order. -/
  committed : List Buffer
  /-- The bytes that `send_raw` has accepted. -/
  sent : List UInt8
  /-- `send_raw` has failed for good. -/
  writeFailed : Bool

/-- The constructor; `memory` is what the buffer happens to hold. -/
def System.initial (buffers : Nat → Buffer) (bufferSize : Nat)
    (memory : Nat → UInt8) : System :=
  { outQueue := Queue.initial 16 buffers
    writeBuffer := WriteBuffer.movedFrom.resizeNoinit bufferSize memory
    worker := .idle
    committing := none
    committed := []
    sent := []
    writeFailed := false }

inductive Label where
  | allocBuffer (minSize : Nat) (memory : Nat → UInt8)
  /-- The render thread writes to the memory it got. -/
  | fill (bytes : Buffer)
  | commitBuffer (size : Nat)
  /-- A commit that waits looks at the queue again. -/
  | resumeCommit
  /-- The worker looks at the queue. -/
  | work
  | sendRaw (result : SendResult)
  | forceStop

/-- The render thread can get `out_lock_` and is not inside a commit. -/
def System.free (system : System) : Bool :=
  system.committing.isNone &&
    match system.worker with
    | .sending _ _ => false
    | _ => true

def System.allocBuffer (system : System) (minSize : Nat)
    (memory : Nat → UInt8) : System :=
  if system.writeBuffer.bytes.length < minSize then
    { system with
      writeBuffer := system.writeBuffer.resizeNoinit minSize memory }
  else system

/-- The call of `push_locked` inside `commitBuffer`. -/
def System.push (residue : Buffer → Buffer) (system : System)
    (buffer : Buffer) : System :=
  match pushLocked residue system.outQueue buffer with
  | none => { system with committing := some buffer }
  | some (queue, status, _) =>
      { system with
        outQueue := queue
        committing := none
        writeBuffer :=
          if system.writeBuffer.allocated && status == .ok then
            WriteBuffer.movedFrom
          else system.writeBuffer }

def System.commitBuffer (residue : Buffer → Buffer) (system : System)
    (size : Nat) : System :=
  -- An assertion; `IOStream` commits at most what it has allocated.
  if system.writeBuffer.bytes.length < size then system
  else
    let buffer := system.writeBuffer.bytes.take size
    System.push residue
      { system with
        committed := system.committed ++ [buffer]
        writeBuffer :=
          if system.writeBuffer.allocated then
            { system.writeBuffer with bytes := buffer }
          else system.writeBuffer } buffer

/-- The inner loop of `thread_main` goes on while bytes are left. -/
def sendOn (buffer : Buffer) (bytesLeft : Nat) : Worker :=
  if 0 < bytesLeft then .sending buffer bytesLeft else .idle

def System.work (residue : Buffer → Buffer) (system : System) : System :=
  match system.worker with
  | .idle =>
      match popLocked residue system.outQueue [] with
      | none => system
      | some (queue, .eio, _) =>
          { system with outQueue := queue, worker := .finished }
      | some (queue, _, buffer) =>
          { system with
            outQueue := queue
            worker := sendOn buffer buffer.length }
  | _ => system

def System.sendRaw (system : System) (result : SendResult) : System :=
  match system.worker with
  | .sending buffer bytesLeft =>
      match result with
      | .written count =>
          -- `send` never takes more than it is given.
          if bytesLeft < count then system
          else
            let rest := buffer.drop (buffer.length - bytesLeft)
            { system with
              sent := system.sent ++ rest.take count
              worker := sendOn buffer (bytesLeft - count) }
      | .busy => system
      | .error => { system with worker := .idle, writeFailed := true }
  | _ => system

def step (residue : Buffer → Buffer) (system : System) : Label → System
  | .allocBuffer minSize memory =>
      if system.free then system.allocBuffer minSize memory else system
  | .fill bytes =>
      if system.committing.isNone &&
          bytes.length == system.writeBuffer.bytes.length then
        { system with writeBuffer := { system.writeBuffer with bytes } }
      else system
  | .commitBuffer size =>
      if system.free then system.commitBuffer residue size else system
  | .resumeCommit =>
      match system.committing, system.worker with
      | some _, .sending _ _ => system
      | some buffer, _ => system.push residue buffer
      | none, _ => system
  | .work =>
      system.work residue
  | .sendRaw result => system.sendRaw result
  | .forceStop => { system with outQueue := closeLocked system.outQueue }

def after (residue : Buffer → Buffer) (buffers : Nat → Buffer)
    (bufferSize : Nat) (memory : Nat → UInt8) (labels : List Label) :
    System :=
  runFrom (step residue) (System.initial buffers bufferSize memory) labels

/-- `send_raw` takes no byte after it has failed for good. -/
def SilentAfterError (system : System) : Label → Prop
  | .sendRaw (.written count) => system.writeFailed = true → count = 0
  | _ => True

/-! ## What is on its way -/

/-- The bytes that have left the committing thread. -/
def System.handed (system : System) : List UInt8 :=
  system.sent ++ system.worker.unsent ++ system.outQueue.stored.flatten

/--
What holds between two steps if `waiting` are the bytes of a commit that has
not got its buffer into the queue.
-/
structure ValidWith (system : System) (waiting : List UInt8) : Prop where
  bounded : system.outQueue.Bounded
  left :
    ∀ buffer bytesLeft, system.worker = .sending buffer bytesLeft →
      bytesLeft ≤ buffer.length
  sent : system.sent <+: system.committed.flatten
  handed :
    system.writeFailed = false → system.handed <+: system.committed.flatten
  all :
    system.writeFailed = false → system.outQueue.closed = false →
      system.handed ++ waiting = system.committed.flatten

def Valid (system : System) : Prop :=
  ValidWith system (system.committing.getD [])

section

variable {residue : Buffer → Buffer} {system : System}

theorem valid_initial (buffers : Nat → Buffer) (bufferSize : Nat)
    (memory : Nat → UInt8) :
    Valid (System.initial buffers bufferSize memory) where
  bounded := ⟨Nat.zero_le 16, Nat.succ_pos 15⟩
  left := fun _ _ isSending => by cases isSending
  sent := List.nil_prefix
  handed := fun _ => List.nil_prefix
  all := fun _ _ => rfl

theorem unsent_sendOn {buffer : Buffer} {bytesLeft : Nat} :
    (sendOn buffer bytesLeft).unsent =
      buffer.drop (buffer.length - bytesLeft) := by
  unfold sendOn
  split
  · rfl
  · next none =>
    have zero : bytesLeft = 0 := by omega
    simp [zero]

theorem sendOn_left {buffer other : Buffer} {bytesLeft otherLeft : Nat}
    (within : bytesLeft ≤ buffer.length)
    (isSending : sendOn buffer bytesLeft = .sending other otherLeft) :
    otherLeft ≤ other.length := by
  unfold sendOn at isSending
  split at isSending
  · cases isSending
    exact within
  · cases isSending

theorem ValidWith.push {buffer : Buffer} (valid : ValidWith system buffer) :
    Valid (system.push residue buffer) := by
  unfold System.push
  split
  · exact ⟨valid.bounded, valid.left, valid.sent, valid.handed, valid.all⟩
  · next queue status moved returned =>
    have done := @attempt_returned _ residue _ valid.bounded (.push buffer)
      _ _ _ returned
    have law : PushLaw true system.outQueue queue buffer status :=
      done.lawful
    by_cases success : status = .ok
    · have isOpen : system.outQueue.closed = false := by
        cases closed : system.outQueue.closed with
        | false => rfl
        | true => exact absurd (law.eio.mpr closed) (by simp [success])
      have all : system.writeFailed = false →
          system.sent ++ system.worker.unsent ++ queue.stored.flatten =
            system.committed.flatten := by
        intro intact
        rw [(law.ok success).1, List.flatten_append, ← List.append_assoc,
          List.flatten_singleton]
        exact valid.all intact isOpen
      constructor
      case bounded => exact done.bounded
      case left => exact valid.left
      case sent => exact valid.sent
      case handed => exact fun intact => all intact ▸ List.prefix_refl _
      case all =>
        intro intact _
        exact (List.append_nil _).trans (all intact)
    · obtain rfl := law.failed success
      have closed := law.closed_of_failed success
      constructor
      case bounded => exact valid.bounded
      case left => exact valid.left
      case sent => exact valid.sent
      case handed => exact valid.handed
      case all =>
        intro _ isOpen
        exact absurd closed (Bool.eq_false_iff.mp isOpen)

theorem ValidWith.commit {buffer : Buffer} (valid : ValidWith system [])
    (writeBuffer : WriteBuffer) :
    ValidWith
      { system with
        committed := system.committed ++ [buffer]
        writeBuffer } buffer where
  bounded := valid.bounded
  left := valid.left
  sent := by
    rw [List.flatten_append]
    exact valid.sent.trans (List.prefix_append _ _)
  handed := by
    intro intact
    rw [List.flatten_append]
    exact (valid.handed intact).trans (List.prefix_append _ _)
  all := by
    intro intact isOpen
    have all := valid.all intact isOpen
    rw [List.append_nil] at all
    rw [List.flatten_append, List.flatten_singleton, ← all]
    rfl

/-- The worker moves bytes on their way and loses none of them. -/
theorem Valid.moved {worker : Worker} {queue : Queue Buffer}
    {sent : List UInt8} (valid : Valid system) (bounded : queue.Bounded)
    (left :
      ∀ buffer bytesLeft, worker = .sending buffer bytesLeft →
        bytesLeft ≤ buffer.length)
    (sentPrefix : sent <+: system.committed.flatten)
    (closed : queue.closed = system.outQueue.closed)
    (same :
      sent ++ worker.unsent ++ queue.stored.flatten = system.handed) :
    Valid { system with worker, outQueue := queue, sent } where
  bounded := bounded
  left := left
  sent := sentPrefix
  handed := by
    intro intact
    have handed := valid.handed intact
    rwa [← same] at handed
  all := by
    intro intact isOpen
    have all := valid.all intact (closed.symm.trans isOpen)
    rwa [← same] at all

theorem Valid.work (valid : Valid system) :
    Valid (system.work residue) := by
  unfold System.work
  split
  · next isIdle =>
    split
    · exact valid
    · next queue buffer returned =>
      have done := @attempt_returned _ residue _ valid.bounded (.pop [])
        _ _ _ returned
      have law : PopLaw true system.outQueue queue [] buffer .eio :=
        done.lawful
      obtain ⟨rfl, -⟩ := law.failed (by decide)
      apply valid.moved valid.bounded _ valid.sent rfl
      · simp [System.handed, isIdle, Worker.unsent]
      · exact nofun
    · next queue status buffer notEio returned =>
      have done := @attempt_returned _ residue _ valid.bounded (.pop [])
        _ _ _ returned
      have law : PopLaw true system.outQueue queue [] buffer status :=
        done.lawful
      rcases law.first (law.ok_of_ne_eio notEio) with ⟨stored, closed⟩
      apply valid.moved done.bounded _ valid.sent closed
      · simp [System.handed, isIdle, stored, unsent_sendOn]
      · exact fun _ _ isSending => sendOn_left (Nat.le_refl _) isSending
  · exact valid

/-- Bytes that `send_raw` has taken are no longer to be sent. -/
theorem handed_of_written {buffer : Buffer} {bytesLeft count : Nat}
    (isSending : system.worker = .sending buffer bytesLeft)
    (within : bytesLeft ≤ buffer.length) (atMost : count ≤ bytesLeft) :
    system.sent ++ (buffer.drop (buffer.length - bytesLeft)).take count ++
        (sendOn buffer (bytesLeft - count)).unsent ++
          system.outQueue.stored.flatten =
      system.handed := by
  have offset : buffer.length - (bytesLeft - count) =
      buffer.length - bytesLeft + count := by
    omega
  simp only [System.handed, isSending, unsent_sending, unsent_sendOn, offset]
  rw [← List.drop_drop, List.append_assoc system.sent,
    List.take_append_drop]

theorem Valid.sendRaw {result : SendResult} (valid : Valid system)
    (silent : SilentAfterError system (.sendRaw result)) :
    Valid (system.sendRaw result) := by
  unfold System.sendRaw
  split
  · next buffer bytesLeft isSending =>
    have within := valid.left buffer bytesLeft isSending
    cases result with
    | busy => exact valid
    | error =>
        constructor
        case bounded => exact valid.bounded
        case left => exact nofun
        case sent => exact valid.sent
        case handed => exact nofun
        case all => exact nofun
    | written count =>
        simp only
        split
        · exact valid
        · next atMost =>
          have moved := handed_of_written isSending within
            (Nat.le_of_not_lt atMost)
          refine valid.moved valid.bounded ?_ ?_ rfl moved
          · intro other otherLeft sending
            exact sendOn_left (by omega) sending
          · cases failed : system.writeFailed with
            | true =>
                obtain rfl := silent failed
                simpa using valid.sent
            | false =>
                have handed := valid.handed failed
                rw [← moved, List.append_assoc] at handed
                exact (List.prefix_append _ _).trans handed
  · exact valid

theorem ValidWith.frame {waiting : List UInt8}
    (valid : ValidWith system waiting) (writeBuffer : WriteBuffer) :
    ValidWith { system with writeBuffer } waiting :=
  ⟨valid.bounded, valid.left, valid.sent, valid.handed, valid.all⟩

theorem Valid.preserved (label : Label) (valid : Valid system)
    (silent : SilentAfterError system label) :
    Valid (step residue system label) := by
  cases label with
  | allocBuffer minSize memory =>
      simp only [step]
      split
      · unfold System.allocBuffer
        split
        · exact valid.frame _
        · exact valid
      · exact valid
  | fill bytes =>
      simp only [step]
      split
      · exact valid.frame _
      · exact valid
  | commitBuffer size =>
      simp only [step]
      split
      · next free =>
        unfold System.commitBuffer
        split
        · exact valid
        · have notCommitting : system.committing = none := by
            simp only [System.free, Bool.and_eq_true,
              Option.isNone_iff_eq_none] at free
            exact free.1
          have nothingWaits : ValidWith system [] := by
            simpa only [Valid, notCommitting, Option.getD_none] using valid
          exact (nothingWaits.commit _).push
      · exact valid
  | resumeCommit =>
      simp only [step]
      split
      · exact valid
      · next buffer isCommitting _ =>
        have waits : ValidWith system buffer := by
          simpa only [Valid, isCommitting, Option.getD_some] using valid
        exact waits.push
      · exact valid
  | work => exact valid.work
  | sendRaw result => exact valid.sendRaw silent
  | forceStop =>
      exact ⟨⟨valid.bounded.count, valid.bounded.pos⟩, valid.left,
        valid.sent, valid.handed, fun _ isOpen => by cases isOpen⟩

theorem push_frame (buffer : Buffer) :
    (system.push residue buffer).sent = system.sent ∧
      (system.push residue buffer).writeFailed = system.writeFailed := by
  unfold System.push
  split <;> exact ⟨rfl, rfl⟩

/-- After an error for good nothing is sent any more. -/
theorem silent_preserved (label : Label)
    (failed : system.writeFailed = true)
    (silent : SilentAfterError system label) :
    (step residue system label).sent = system.sent ∧
      (step residue system label).writeFailed = true := by
  cases label with
  | allocBuffer minSize memory =>
      simp only [step, System.allocBuffer]
      split
      · split <;> exact ⟨rfl, failed⟩
      · exact ⟨rfl, failed⟩
  | fill bytes =>
      simp only [step]
      split <;> exact ⟨rfl, failed⟩
  | commitBuffer size =>
      simp only [step, System.commitBuffer]
      split
      · split
        · exact ⟨rfl, failed⟩
        · rw [(push_frame _).1, (push_frame _).2]
          exact ⟨rfl, failed⟩
      · exact ⟨rfl, failed⟩
  | resumeCommit =>
      simp only [step]
      split
      · exact ⟨rfl, failed⟩
      · rw [(push_frame _).1, (push_frame _).2]
        exact ⟨rfl, failed⟩
      · exact ⟨rfl, failed⟩
  | work =>
      simp only [step, System.work]
      split
      · split <;> exact ⟨rfl, failed⟩
      · exact ⟨rfl, failed⟩
  | sendRaw result =>
      simp only [step, System.sendRaw]
      split
      · cases result with
        | written count =>
            obtain rfl := silent failed
            simp [failed]
        | busy => exact ⟨rfl, failed⟩
        | error => exact ⟨rfl, rfl⟩
      · exact ⟨rfl, failed⟩
  | forceStop => exact ⟨rfl, failed⟩

end

/--
If `send_raw` takes no byte after it has failed for good then in every state
of the run what it has taken is a prefix of what was committed, and nothing of
a later buffer follows the bytes that were dropped.
-/
theorem output_stream_intact (residue : Buffer → Buffer)
    (buffers : Nat → Buffer) (bufferSize : Nat) (memory : Nat → UInt8)
    (labels : List Label)
    (silent :
      Admitted (step residue) SilentAfterError
        (System.initial buffers bufferSize memory) labels) :
    (∀ earlier, earlier <+: labels →
      (after residue buffers bufferSize memory earlier).sent <+:
        (after residue buffers bufferSize memory earlier).committed.flatten) ∧
    ∀ earlier later, earlier ++ later <+: labels →
      (after residue buffers bufferSize memory earlier).writeFailed = true →
        (after residue buffers bufferSize memory (earlier ++ later)).sent =
          (after residue buffers bufferSize memory earlier).sent := by
  constructor
  · intro earlier isPrefix
    have valid : Valid (after residue buffers bufferSize memory earlier) :=
      (silent.earlier isPrefix).invariant
        (fun _ label => Valid.preserved label)
        (valid_initial buffers bufferSize memory)
    exact valid.sent
  · intro earlier later isPrefix failed
    have unchanged := (silent.earlier isPrefix).later.invariant
      (fun system label (kept : system.sent =
          (after residue buffers bufferSize memory earlier).sent ∧
            system.writeFailed = true) admits =>
        have next := silent_preserved label kept.2 admits
        ⟨next.1.trans kept.1, next.2⟩)
      ⟨rfl, failed⟩
    rw [after, runFrom_append]
    exact unchanged.1

/-- A buffer that is sent in two parts, one of them at the second attempt. -/
theorem output_stream_intact_two_parts :
    let labels : List Label :=
      [.fill [1, 2], .commitBuffer 2, .work, .sendRaw (.written 1),
        .sendRaw .busy, .sendRaw (.written 1), .sendRaw .error]
    (after id (fun _ => []) 2 (fun _ => 0) labels).sent = [1, 2] ∧
      (after id (fun _ => []) 2 (fun _ => 0) labels).sent <+:
        (after id (fun _ => []) 2 (fun _ => 0) labels).committed.flatten := by
  intro labels
  refine ⟨by decide, (output_stream_intact id (fun _ => []) 2 (fun _ => 0)
    labels ?_).1 labels (List.prefix_refl labels)⟩
  refine ⟨trivial, trivial, trivial, ?_, trivial, ?_, trivial, trivial⟩
  · exact fun failed => by cases failed
  · exact fun failed => by cases failed

/-- The rest of the first buffer is dropped and the second buffer is sent. -/
theorem second_buffer_sent_after_error :
    let system := after id (fun _ => []) 2 (fun _ => 0)
      [.fill [1, 2], .commitBuffer 2, .fill [3, 4], .commitBuffer 2, .work,
        .sendRaw (.written 1), .sendRaw .error, .work,
        .sendRaw (.written 2)]
    system.committed = [[1, 2], [3, 4]] ∧ system.sent = [1, 3, 4] ∧
      ¬system.sent <+: system.committed.flatten := by
  decide

end Anbox.Graphics.StreamOutput
