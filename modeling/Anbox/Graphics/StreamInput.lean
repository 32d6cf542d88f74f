import Anbox.Graphics.BufferQueue

/-!
# The input of a buffered stream

`BufferedIOStream::post_data` puts the buffers that arrive from the guest into
`in_queue_`, from any thread.  `read` hands their bytes to the render thread,
which is the only one that reads.  A buffer that was read in part stays in
`read_buffer_`; `read_buffer_left_` counts its unread bytes from the end.

Everything runs under `lock_`, which is given up only while a push or a pop
waits.  A read waits only while it has no byte yet.
-/

namespace Anbox.Graphics.StreamInput

open Anbox.Foundation.Runs
open Anbox.Graphics.BufferQueue

/-- The bytes of a buffer. -/
abbrev Buffer := List UInt8

/-! ## Reading -/

/-- What `lock_` guards. -/
structure Stream where
  inQueue : Queue Buffer
  readBuffer : Buffer
  readBufferLeft : Nat

/-- A pop, as a round of the loop that waits or without waiting. -/
def popFor (residue : Buffer → Buffer) (blocking : Bool)
    (queue : Queue Buffer) (buffer : Buffer) :
    Option (Queue Buffer × Status × Buffer) :=
  if blocking then popLocked residue queue buffer
  else some (tryPopLocked residue queue buffer)

theorem popFor_cases {residue : Buffer → Buffer} {blocking : Bool}
    {queue : Queue Buffer} {buffer : Buffer}
    {result : Queue Buffer × Status × Buffer}
    (returned : popFor residue blocking queue buffer = some result) :
    result = tryPopLocked residue queue buffer := by
  cases blocking with
  | false => exact (Option.some.inj returned).symm
  | true => exact (popLocked_cases returned).1

theorem popFor_count_lt {residue : Buffer → Buffer} {blocking : Bool}
    {queue next : Queue Buffer} {buffer popped : Buffer}
    (returned :
      popFor residue blocking queue buffer = some (next, .ok, popped)) :
    next.count < queue.count := by
  have result := popFor_cases returned
  unfold tryPopLocked at result
  split at result
  · split at result
    · cases result
    · cases result
  · next nonempty =>
    cases result
    exact Nat.sub_one_lt nonempty

/-- How a call of `read` goes on. -/
inductive ReadOutcome where
  /-- It waits for `can_pop_`. -/
  | waits
  /-- It returns a null pointer. -/
  | null
  | bytes (copied : List UInt8)
deriving DecidableEq, Repr

/-- The loop of `read` with `count` bytes in the memory of the caller. -/
def readLoop (residue : Buffer → Buffer) (wanted : Nat) (stream : Stream)
    (count : Nat) (copied : List UInt8) : ReadOutcome × Stream :=
  if count < wanted then
    if 0 < stream.readBufferLeft then
      let avail := min (wanted - count) stream.readBufferLeft
      let offset := stream.readBuffer.length - stream.readBufferLeft
      readLoop residue wanted
        { stream with readBufferLeft := stream.readBufferLeft - avail }
        (count + avail)
        (copied ++ (stream.readBuffer.drop offset).take avail)
    else
      match _popped : popFor residue (count == 0) stream.inQueue
          stream.readBuffer with
      | none => (.waits, stream)
      | some (queue, .ok, buffer) =>
          readLoop residue wanted ⟨queue, buffer, buffer.length⟩ count copied
      | some (queue, _, buffer) =>
          let next :=
            { stream with inQueue := queue, readBuffer := buffer }
          if 0 < count then (.bytes copied, next) else (.null, next)
  else (.bytes copied, stream)
termination_by stream.inQueue.count + (wanted - count)
decreasing_by
  · omega
  · have less := popFor_count_lt _popped
    omega

/-! ## Any number of posting threads and one reader -/

/-- A call of `read` that has returned. -/
structure Read where
  wanted : Nat
  /-- `none` is a null pointer. -/
  result : Option (List UInt8)

structure System where
  stream : Stream
  /-- The buffers whose push waits, by thread. -/
  posting : ThreadId → Option Buffer
  /-- The length that the waiting call of `read` was asked for. -/
  reading : Option Nat
  /-- The buffers that the queue has accepted, in order. -/
  accepted : List Buffer
  /-- The calls of `read` that have returned, in order. -/
  reads : List Read

def System.initial (buffers : Nat → Buffer) : System :=
  { stream := ⟨Queue.initial 1024 buffers, [], 0⟩
    posting := fun _ => none
    reading := none
    accepted := []
    reads := [] }

/-- The bytes that `read` has returned. -/
def System.returned (system : System) : List UInt8 :=
  system.reads.flatMap fun read => read.result.getD []

def System.postData (residue : Buffer → Buffer) (system : System)
    (thread : ThreadId) (data : Buffer) : System :=
  match pushLocked residue system.stream.inQueue data with
  | none =>
      { system with
        posting := Function.update system.posting thread (some data) }
  | some (queue, status, _) =>
      { system with
        stream := { system.stream with inQueue := queue }
        posting := Function.update system.posting thread none
        accepted := system.accepted ++ if status = .ok then [data] else [] }

def System.read (residue : Buffer → Buffer) (system : System)
    (wanted : Nat) : System :=
  match readLoop residue wanted system.stream 0 [] with
  | (.waits, stream) =>
      { system with stream := stream, reading := some wanted }
  | (.null, stream) =>
      { system with
        stream := stream
        reading := none
        reads := system.reads ++ [⟨wanted, none⟩] }
  | (.bytes copied, stream) =>
      { system with
        stream := stream
        reading := none
        reads := system.reads ++ [⟨wanted, some copied⟩] }

def System.forceStop (system : System) : System :=
  { system with
    stream :=
      { system.stream with inQueue := closeLocked system.stream.inQueue } }

inductive Label where
  | postData (thread : ThreadId) (data : Buffer)
  /-- A push that waits looks at the queue again. -/
  | resumePost (thread : ThreadId)
  | read (wanted : Nat)
  /-- The read that waits looks at the queue again. -/
  | resumeRead
  | forceStop

def step (residue : Buffer → Buffer) (system : System) : Label → System
  | .postData thread data =>
      match system.posting thread with
      | some _ => system
      | none => system.postData residue thread data
  | .resumePost thread =>
      match system.posting thread with
      | some data => system.postData residue thread data
      | none => system
  | .read wanted =>
      match system.reading with
      | some _ => system
      | none => system.read residue wanted
  | .resumeRead =>
      match system.reading with
      -- Nothing is left in the read buffer, so the loop is where it was.
      | some wanted => system.read residue wanted
      | none => system
  | .forceStop => system.forceStop

def after (residue : Buffer → Buffer) (buffers : Nat → Buffer)
    (labels : List Label) : System :=
  runFrom (step residue) (System.initial buffers) labels

/-! ## One call of `read` -/

/-- The bounds of the stream. -/
structure Stream.Valid (stream : Stream) : Prop where
  bounded : stream.inQueue.Bounded
  left : stream.readBufferLeft ≤ stream.readBuffer.length

/-- The bytes that were accepted and not returned. -/
def Stream.unread (stream : Stream) : List UInt8 :=
  stream.readBuffer.drop
      (stream.readBuffer.length - stream.readBufferLeft) ++
    stream.inQueue.stored.flatten

/-- What the loop does to the bytes that are copied and not yet read. -/
structure LoopSpec (wanted : Nat) (before : Stream) (copied : List UInt8)
    (outcome : ReadOutcome) (after : Stream) : Prop where
  valid : after.Valid
  closed : after.inQueue.closed = before.inQueue.closed
  waits : outcome = .waits → copied = [] ∧ after.unread = before.unread
  null :
    outcome = .null →
      copied = [] ∧ before.inQueue.closed = true ∧ before.unread = [] ∧
        after.unread = []
  bytes :
    ∀ all, outcome = .bytes all →
      all ++ after.unread = copied ++ before.unread ∧
        all.length ≤ wanted ∧ (0 < wanted → 0 < all.length)

/-- Bytes that were moved to the caller before the rest of the loop. -/
theorem LoopSpec.prepend {wanted : Nat} {before middle after : Stream}
    {copied taken : List UInt8} {outcome : ReadOutcome}
    (spec : LoopSpec wanted middle (copied ++ taken) outcome after)
    (closed : middle.inQueue.closed = before.inQueue.closed)
    (moved : taken ++ middle.unread = before.unread) :
    LoopSpec wanted before copied outcome after where
  valid := spec.valid
  closed := spec.closed.trans closed
  waits := by
    intro waits
    rcases spec.waits waits with ⟨nothing, same⟩
    rcases List.append_eq_nil_iff.mp nothing with ⟨rfl, rfl⟩
    exact ⟨rfl, same.trans moved⟩
  null := by
    intro null
    rcases spec.null null with ⟨nothing, isClosed, nothingBefore, nothingAfter⟩
    rcases List.append_eq_nil_iff.mp nothing with ⟨rfl, rfl⟩
    exact ⟨rfl, closed ▸ isClosed, moved ▸ nothingBefore, nothingAfter⟩
  bytes := by
    intro all returned
    rcases spec.bytes all returned with ⟨same, lengths⟩
    rw [List.append_assoc, moved] at same
    exact ⟨same, lengths⟩

theorem popFor_law {residue : Buffer → Buffer} {blocking : Bool}
    {queue next : Queue Buffer} (bounded : queue.Bounded)
    {buffer popped : Buffer} {status : Status}
    (returned :
      popFor residue blocking queue buffer = some (next, status, popped)) :
    next.Bounded ∧ PopLaw blocking queue next buffer popped status := by
  cases blocking with
  | false =>
      have done := @attempt_returned _ residue _ bounded (.tryPop buffer)
        _ _ _ returned
      exact ⟨done.bounded, done.lawful⟩
  | true =>
      have done := @attempt_returned _ residue _ bounded (.pop buffer)
        _ _ _ returned
      exact ⟨done.bounded, done.lawful⟩

/-- Copying moves bytes from the read buffer to the caller. -/
theorem Stream.unread_of_copy {stream : Stream} {avail : Nat}
    (left : stream.readBufferLeft ≤ stream.readBuffer.length)
    (within : avail ≤ stream.readBufferLeft) :
    (stream.readBuffer.drop
          (stream.readBuffer.length - stream.readBufferLeft)).take avail ++
        Stream.unread
          { stream with readBufferLeft := stream.readBufferLeft - avail } =
      stream.unread := by
  have offset : stream.readBuffer.length - (stream.readBufferLeft - avail) =
      stream.readBuffer.length - stream.readBufferLeft + avail := by
    omega
  simp only [Stream.unread, offset]
  rw [← List.append_assoc, ← List.drop_drop, List.take_append_drop]

/-- A pop without a result leaves everything unread. -/
theorem Stream.unread_of_left_eq_zero {stream : Stream}
    (empty : ¬0 < stream.readBufferLeft) :
    stream.unread = stream.inQueue.stored.flatten := by
  have zero : stream.readBufferLeft = 0 := by omega
  simp [Stream.unread, zero]

/-! How the loop ends; the stream is as it was then. -/

theorem loopSpec_waits {wanted : Nat} {stream : Stream}
    {copied : List UInt8} (valid : stream.Valid) (nothing : copied = []) :
    LoopSpec wanted stream copied .waits stream := by
  constructor
  case valid => exact valid
  case closed => rfl
  case waits => exact fun _ => ⟨nothing, rfl⟩
  case null => exact nofun
  case bytes => exact nofun

theorem loopSpec_null {wanted : Nat} {stream : Stream}
    {copied : List UInt8} (valid : stream.Valid) (nothing : copied = [])
    (isClosed : stream.inQueue.closed = true)
    (noneUnread : stream.unread = []) :
    LoopSpec wanted stream copied .null stream := by
  constructor
  case valid => exact valid
  case closed => rfl
  case waits => exact nofun
  case null => exact fun _ => ⟨nothing, isClosed, noneUnread, noneUnread⟩
  case bytes => exact nofun

theorem loopSpec_bytes {wanted : Nat} {stream : Stream}
    {copied : List UInt8} (valid : stream.Valid)
    (within : copied.length ≤ wanted)
    (some : 0 < wanted → 0 < copied.length) :
    LoopSpec wanted stream copied (.bytes copied) stream := by
  constructor
  case valid => exact valid
  case closed => rfl
  case waits => exact nofun
  case null => exact nofun
  case bytes =>
    rintro all same
    cases same
    exact ⟨rfl, within, some⟩

theorem readLoop_spec {residue : Buffer → Buffer} {wanted : Nat}
    {stream : Stream} {count : Nat} {copied : List UInt8}
    (valid : stream.Valid) (counted : copied.length = count)
    (within : count ≤ wanted) :
    LoopSpec wanted stream copied
      (readLoop residue wanted stream count copied).1
      (readLoop residue wanted stream count copied).2 := by
  fun_induction readLoop residue wanted stream count copied with
  | case1 stream count copied more left avail offset inductionHypothesis =>
      have inside := valid.left
      have availLe : avail ≤ stream.readBufferLeft := Nat.min_le_right _ _
      refine (inductionHypothesis ⟨valid.bounded, ?_⟩ ?_ ?_).prepend rfl
        (Stream.unread_of_copy inside availLe)
      · exact Nat.le_trans (Nat.sub_le _ _) inside
      · rw [List.length_append, counted, List.length_take,
          List.length_drop]
        omega
      · omega
  | case2 stream count copied more empty popped =>
      have zero : count = 0 := by
        by_contra nonzero
        simp [popFor, nonzero] at popped
      exact loopSpec_waits valid
        (List.eq_nil_of_length_eq_zero (counted.trans zero))
  | case3 stream count copied more empty queue buffer popped
      inductionHypothesis =>
      rcases popFor_law valid.bounded popped with ⟨bounded, law⟩
      rcases law.first rfl with ⟨stored, closed⟩
      have spec := inductionHypothesis ⟨bounded, Nat.le_refl _⟩ counted within
      have moved : [] ++ Stream.unread ⟨queue, buffer, buffer.length⟩ =
          stream.unread := by
        rw [Stream.unread_of_left_eq_zero empty, stored]
        simp [Stream.unread]
      apply LoopSpec.prepend _ closed moved
      rwa [List.append_nil]
  | case4 stream count copied more empty queue status buffer failed popped
      next some =>
      rcases popFor_law valid.bounded popped with ⟨bounded, law⟩
      rcases law.failed failed with ⟨rfl, rfl⟩
      exact loopSpec_bytes valid (counted.symm ▸ within)
        fun _ => counted.symm ▸ some
  | case5 stream count copied more empty queue status buffer failed popped
      next none =>
      have zero : count = 0 := by omega
      have nothing : copied = [] :=
        List.eq_nil_of_length_eq_zero (counted.trans zero)
      rcases popFor_law valid.bounded popped with ⟨bounded, law⟩
      rcases law.failed failed with ⟨rfl, rfl⟩
      have isClosed : stream.inQueue.stored = [] ∧
          stream.inQueue.closed = true := by
        cases status with
        | ok => exact absurd rfl failed
        | eio => exact law.eio.mp rfl
        | eagain => simpa [zero] using (law.eagain.mp rfl).1
      have noneUnread : stream.unread = [] := by
        rw [Stream.unread_of_left_eq_zero empty, isClosed.1]
        rfl
      exact loopSpec_null valid nothing isClosed.2 noneUnread
  | case6 stream count copied enough =>
      exact loopSpec_bytes valid (by omega) (by omega)

/-! ## Every run -/

/-- What holds between two steps. -/
structure Valid (system : System) : Prop where
  stream : system.stream.Valid
  conserved :
    system.returned ++ system.stream.unread = system.accepted.flatten
  lengths :
    ∀ read ∈ system.reads, ∀ bytes, read.result = some bytes →
      bytes.length ≤ read.wanted ∧ (0 < read.wanted → 0 < bytes.length)
  null :
    ∀ read ∈ system.reads, read.result = none →
      system.stream.inQueue.closed = true ∧ system.stream.unread = []

theorem valid_initial (buffers : Nat → Buffer) :
    Valid (System.initial buffers) := by
  constructor
  case stream => exact ⟨⟨Nat.zero_le 1024, Nat.succ_pos 1023⟩, Nat.le_refl 0⟩
  case conserved => rfl
  case lengths =>
    intro read member
    cases member
  case null =>
    intro read member
    cases member

theorem Valid.postData {system : System} (valid : Valid system)
    (residue : Buffer → Buffer) (thread : ThreadId) (data : Buffer) :
    Valid (system.postData residue thread data) := by
  unfold System.postData
  split
  · exact ⟨valid.stream, valid.conserved, valid.lengths, valid.null⟩
  · next queue status buffer returned =>
    have done := @attempt_returned _ residue _ valid.stream.bounded
      (.push data) _ _ _ returned
    have law : PushLaw true system.stream.inQueue queue data status :=
      done.lawful
    constructor
    case stream => exact ⟨done.bounded, valid.stream.left⟩
    case conserved =>
      have conserved := valid.conserved
      simp only [System.returned, Stream.unread] at conserved ⊢
      rw [law.stored, List.flatten_append, List.flatten_append, ← conserved]
      simp only [List.append_assoc]
    case lengths => exact valid.lengths
    case null =>
      intro read member isNull
      rcases valid.null read member isNull with ⟨isClosed, nothing⟩
      -- The queue was closed, so it has not taken the buffer.
      obtain rfl := law.eio.mpr isClosed
      obtain rfl := law.failed (by decide)
      exact ⟨isClosed, nothing⟩

theorem returned_snoc (system : System) (read : Read) :
    (system.reads ++ [read]).flatMap (fun read => read.result.getD []) =
      system.returned ++ read.result.getD [] := by
  simp [System.returned]

theorem Valid.read {system : System} (valid : Valid system)
    (residue : Buffer → Buffer) (wanted : Nat) :
    Valid (system.read residue wanted) := by
  have spec := @readLoop_spec residue wanted system.stream 0 [] valid.stream
    rfl (Nat.zero_le wanted)
  have conserved := valid.conserved
  unfold System.read
  split
  · next stream looped =>
    rw [looped] at spec
    rcases spec.waits rfl with ⟨-, same⟩
    constructor
    case stream => exact spec.valid
    case conserved => simpa only [System.returned, same] using conserved
    case lengths => exact valid.lengths
    case null =>
      intro read member isNull
      rcases valid.null read member isNull with ⟨isClosed, nothing⟩
      exact ⟨spec.closed.trans isClosed, same.trans nothing⟩
  · next stream looped =>
    rw [looped] at spec
    rcases spec.null rfl with ⟨-, isClosed, nothingBefore, nothingAfter⟩
    constructor
    case stream => exact spec.valid
    case conserved =>
      rw [nothingBefore] at conserved
      simpa only [System.returned, returned_snoc, nothingAfter,
        Option.getD_none, List.append_nil] using conserved
    case lengths =>
      intro read member bytes result
      rcases List.mem_append.mp member with earlier | last
      · exact valid.lengths read earlier bytes result
      · rw [List.mem_singleton.mp last] at result
        cases result
    case null => exact fun _ _ _ => ⟨spec.closed.trans isClosed, nothingAfter⟩
  · next copied stream looped =>
    rw [looped] at spec
    rcases spec.bytes copied rfl with ⟨moved, lengths⟩
    rw [List.nil_append] at moved
    constructor
    case stream => exact spec.valid
    case conserved =>
      simp only [System.returned, returned_snoc, Option.getD_some,
        List.append_assoc, moved]
      exact conserved
    case lengths =>
      intro read member bytes result
      rcases List.mem_append.mp member with earlier | last
      · exact valid.lengths read earlier bytes result
      · rw [List.mem_singleton.mp last] at result ⊢
        cases result
        exact lengths
    case null =>
      intro read member isNull
      rcases List.mem_append.mp member with earlier | last
      · rcases valid.null read earlier isNull with ⟨isClosed, nothing⟩
        rw [nothing] at moved
        exact ⟨spec.closed.trans isClosed,
          (List.append_eq_nil_iff.mp moved).2⟩
      · rw [List.mem_singleton.mp last] at isNull
        cases isNull

theorem Valid.forceStop {system : System} (valid : Valid system) :
    Valid system.forceStop where
  stream := ⟨⟨valid.stream.bounded.count, valid.stream.bounded.pos⟩,
    valid.stream.left⟩
  conserved := valid.conserved
  lengths := valid.lengths
  null := fun read member isNull => ⟨rfl, (valid.null read member isNull).2⟩

theorem Valid.step {system : System} (residue : Buffer → Buffer)
    (label : Label) (valid : Valid system) :
    Valid (step residue system label) := by
  cases label with
  | postData thread data =>
      simp only [StreamInput.step]
      split
      · exact valid
      · exact valid.postData residue thread data
  | resumePost thread =>
      simp only [StreamInput.step]
      split
      · exact valid.postData residue thread _
      · exact valid
  | read wanted =>
      simp only [StreamInput.step]
      split
      · exact valid
      · exact valid.read residue wanted
  | resumeRead =>
      simp only [StreamInput.step]
      split
      · exact valid.read residue _
      · exact valid
  | forceStop => exact valid.forceStop

/--
In every run what `read` has returned followed by what is unread is what the
queue has accepted.  A read that returns bytes returns at least one of those
it was asked for, and it returns a null pointer only after everything, from a
queue that is closed.
-/
theorem input_stream_intact (residue : Buffer → Buffer)
    (buffers : Nat → Buffer) (labels : List Label) :
    let system := after residue buffers labels
    system.returned ++ system.stream.unread = system.accepted.flatten ∧
      system.returned <+: system.accepted.flatten ∧
      (∀ read ∈ system.reads, ∀ bytes, read.result = some bytes →
        bytes.length ≤ read.wanted ∧
          (0 < read.wanted → 1 ≤ bytes.length)) ∧
      ∀ read ∈ system.reads, read.result = none →
        system.stream.inQueue.closed = true ∧
          system.returned = system.accepted.flatten := by
  intro system
  have valid : Valid system :=
    run_invariant (fun _ label => Valid.step residue label)
      (valid_initial buffers) labels
  refine ⟨valid.conserved, ⟨_, valid.conserved⟩, valid.lengths, ?_⟩
  intro read member isNull
  rcases valid.null read member isNull with ⟨isClosed, nothing⟩
  have conserved := valid.conserved
  rw [nothing, List.append_nil] at conserved
  exact ⟨isClosed, conserved⟩

end Anbox.Graphics.StreamInput
