import Anbox.Foundation.Runs
import Mathlib.Algebra.Order.Ring.Nat

/-!
# The read buffer of a render thread

A render thread reads commands from its stream into a `ReadBuffer`, which keeps
the bytes that are not consumed yet.  `getData` moves them to the front, makes
the buffer larger if they fill it, and lets the stream write behind them.

The memory is a list of `m_size` bytes.  An access outside of it, or an
assertion that fails, has no result.
-/

namespace Anbox.Graphics.ReadBuffer

open Anbox.Foundation.Runs

abbrev Bytes := List UInt8

/-! ## Memory -/

/-- Write bytes at an offset. -/
def store (memory : Bytes) (offset : Nat) (bytes : Bytes) :
    Option Bytes :=
  if offset + bytes.length ≤ memory.length then
    some
      (memory.take offset ++ bytes ++ memory.drop (offset + bytes.length))
  else none

/-- Read some bytes at an offset. -/
def fetch (memory : Bytes) (offset length : Nat) : Option Bytes :=
  if offset + length ≤ memory.length then
    some ((memory.drop offset).take length)
  else none

/-- `memmove` within the memory. -/
def memmove (memory : Bytes) (destination source length : Nat) :
    Option Bytes := do
  let bytes ← fetch memory source length
  store memory destination bytes

/-- `realloc`; what is behind the old bytes was there before. -/
def realloc (memory : Bytes) (newSize : Nat) (garbage : Nat → UInt8) :
    Bytes :=
  memory.take newSize ++
    (List.range (newSize - memory.length)).map garbage

/-! ## The buffer -/

/-- `m_readPtr` is the offset in `m_buf`. -/
structure Buffer where
  buf : Bytes
  readPtr : Nat
  size : Nat
  validData : Nat
deriving DecidableEq, Repr

/-- The buffer that is made with the memory of `malloc`. -/
def Buffer.initial (memory : Bytes) : Buffer :=
  ⟨memory, 0, memory.length, 0⟩

/-- What a stream does with memory of this length. -/
structure Delivery (length : Nat) where
  /-- What it writes at the start of the memory. -/
  written : Bytes
  /-- How many bytes it has read, unless it fails. -/
  count : Option Nat
  fits : written.length ≤ length
  within : ∀ {number}, count = some number → number ≤ written.length

/-- `read` of an `IOStream`. -/
abbrev IOStream := (length : Nat) → Delivery length

/-- A difference of two `size_t`. -/
def sizeSub (first second : Nat) : Nat :=
  (2 ^ 64 + first - second) % 2 ^ 64

/-- `INT_MAX`. -/
def intMax : Nat := 2 ^ 31 - 1

/-- The size of the memory when it is full. -/
def grownSize (size : Nat) : Nat :=
  let newSize := size * 2 % 2 ^ 64
  if newSize < size then intMax else newSize

/-- Move what is valid to the front. -/
def moveToFront (buffer : Buffer) : Option Buffer :=
  if 0 < buffer.validData ∧ 0 < buffer.readPtr then do
    let memory ← memmove buffer.buf 0 buffer.readPtr buffer.validData
    some { buffer with buf := memory }
  else some buffer

/-- Let the stream write behind what is valid. -/
def readBehind (buffer : Buffer) (stream : IOStream) :
    Option (Buffer × Option Bytes) := do
  let buffer := { buffer with readPtr := 0 }
  let length := sizeSub buffer.size buffer.validData
  -- The stream may write as much as it is told.
  let _ ← fetch buffer.buf buffer.validData length
  let delivery := stream length
  let memory ← store buffer.buf buffer.validData delivery.written
  let buffer := { buffer with buf := memory }
  match delivery.count with
  | none => some (buffer, none)
  | some number =>
      some
        ({ buffer with validData := buffer.validData + number },
          some (delivery.written.take number))

/--
The bytes that were read; the number of them is returned, or -1 if there are
none to tell of.  `garbage` is what `realloc` finds behind the old memory, if
it succeeds.
-/
def getData (garbage : Option (Nat → UInt8)) (stream : Option IOStream)
    (buffer : Buffer) : Option (Buffer × Option Bytes) :=
  match stream with
  | none => some (buffer, none)
  | some stream => do
      let buffer ← moveToFront buffer
      if sizeSub buffer.size buffer.validData = 0 then
        match garbage with
        | none => some (buffer, none)
        | some garbage =>
            let newSize := grownSize buffer.size
            readBehind
              { buffer with
                buf := realloc buffer.buf newSize garbage
                size := newSize } stream
      else readBehind buffer stream

def consume (buffer : Buffer) (amount : Nat) : Option Buffer :=
  if amount ≤ buffer.validData then
    some
      { buffer with
        validData := buffer.validData - amount
        readPtr := buffer.readPtr + amount }
  else none

/-- The bytes at `buf()`, as many as are valid. -/
def Buffer.contents (buffer : Buffer) : Option Bytes :=
  fetch buffer.buf buffer.readPtr buffer.validData

/-! ## Runs -/

structure System where
  /-- `none` after an access outside of the memory. -/
  buffer : Option Buffer
  /-- The bytes that the streams have delivered. -/
  received : Bytes
  consumed : Nat

def System.initial (memory : Bytes) : System :=
  ⟨some (Buffer.initial memory), [], 0⟩

inductive Label where
  | getData (garbage : Option (Nat → UInt8)) (stream : Option IOStream)
  | consume (amount : Nat)

def step (system : System) (label : Label) : System :=
  match system.buffer with
  | none => system
  | some buffer =>
      match label with
      | .getData garbage stream =>
          match getData garbage stream buffer with
          | none => { system with buffer := none }
          | some (next, bytes) =>
              { system with
                buffer := some next
                received := system.received ++ bytes.getD [] }
      | .consume amount =>
          { system with
            buffer := consume buffer amount
            consumed := system.consumed + amount }

/-- No more is consumed than is valid, and the total is below 2^31 bytes. -/
def Allowed (system : System) (label : Label) : Prop :=
  match label with
  | .getData _ _ => (step system label).received.length < 2 ^ 31
  | .consume amount =>
      ∀ buffer, system.buffer = some buffer → amount ≤ buffer.validData

/-! ## Accesses inside the memory -/

theorem store_eq {memory bytes : Bytes} {offset : Nat}
    (inside : offset + bytes.length ≤ memory.length) :
    store memory offset bytes =
      some
        (memory.take offset ++ bytes ++
          memory.drop (offset + bytes.length)) :=
  if_pos inside

theorem fetch_eq {memory : Bytes} {offset length : Nat}
    (inside : offset + length ≤ memory.length) :
    fetch memory offset length = some ((memory.drop offset).take length) :=
  if_pos inside

theorem length_fetched {memory : Bytes} {offset length : Nat}
    (inside : offset + length ≤ memory.length) :
    ((memory.drop offset).take length).length = length := by
  rw [List.length_take, List.length_drop]
  omega

theorem length_stored {memory bytes : Bytes} {offset : Nat}
    (inside : offset + bytes.length ≤ memory.length) :
    (memory.take offset ++ bytes ++
      memory.drop (offset + bytes.length)).length = memory.length := by
  simp only [List.length_append, List.length_take, List.length_drop]
  omega

theorem sizeSub_eq {first second : Nat} (atMost : second ≤ first)
    (fits : first < 2 ^ 64) : sizeSub first second = first - second := by
  rw [sizeSub]
  omega

theorem grownSize_eq {size : Nat} (small : size < 2 ^ 31) :
    grownSize size = size * 2 := by
  have fits : size * 2 % 2 ^ 64 = size * 2 := Nat.mod_eq_of_lt (by omega)
  rw [grownSize, fits]
  exact if_neg (by omega)

/-! ## The unread bytes -/

/-- The memory has the size that is known, and the unread bytes are in it. -/
structure Holds (buffer : Buffer) (unread : Bytes) : Prop where
  size : buffer.buf.length = buffer.size
  positive : 0 < buffer.size
  fits : buffer.size < 2 ^ 64
  inside : buffer.readPtr + buffer.validData ≤ buffer.size
  contents :
    (buffer.buf.drop buffer.readPtr).take buffer.validData = unread

theorem Holds.length {buffer : Buffer} {unread : Bytes}
    (holds : Holds buffer unread) : unread.length = buffer.validData := by
  rw [← holds.contents]
  exact length_fetched (holds.size ▸ holds.inside)

theorem Holds.contents_eq {buffer : Buffer} {unread : Bytes}
    (holds : Holds buffer unread) : buffer.contents = some unread := by
  rw [Buffer.contents, fetch_eq (holds.size ▸ holds.inside),
    holds.contents]

theorem holds_initial {memory : Bytes} (nonempty : 0 < memory.length)
    (fits : memory.length < 2 ^ 64) :
    Holds (Buffer.initial memory) [] where
  size := rfl
  positive := nonempty
  fits := fits
  inside := Nat.zero_le _
  contents := rfl

/-- The unread bytes are at the front, wherever the pointer is. -/
structure Fronted (before buffer : Buffer) (unread : Bytes) : Prop where
  readPtr : buffer.readPtr = before.readPtr
  sameSize : buffer.size = before.size
  validData : buffer.validData = before.validData
  size : buffer.buf.length = buffer.size
  front : buffer.buf.take buffer.validData = unread

theorem Holds.moveToFront {buffer : Buffer} {unread : Bytes}
    (holds : Holds buffer unread) :
    ∃ moved, moveToFront buffer = some moved ∧
      Fronted buffer moved unread := by
  have inside := holds.inside
  rw [← holds.size] at inside
  unfold ReadBuffer.moveToFront
  split
  · have length := holds.length
    have room : 0 + unread.length ≤ buffer.buf.length := by omega
    simp only [memmove, fetch_eq inside, holds.contents,
      Option.bind_eq_bind, Option.bind_some, store_eq room]
    refine ⟨_, rfl, rfl, rfl, rfl, ?_, ?_⟩
    · exact (length_stored room).trans holds.size
    · simp [← length]
  · rename_i still
    refine ⟨buffer, rfl, rfl, rfl, rfl, holds.size, ?_⟩
    by_cases nothing : buffer.validData = 0
    · have contents := holds.contents
      rw [nothing] at contents ⊢
      simpa using contents
    · have atFront : buffer.readPtr = 0 := by omega
      have contents := holds.contents
      rwa [atFront, List.drop_zero] at contents

/-- What the stream delivers stands behind the unread bytes. -/
theorem readBehind_holds {buffer : Buffer} {unread : Bytes}
    (size : buffer.buf.length = buffer.size) (positive : 0 < buffer.size)
    (fits : buffer.size < 2 ^ 64) (valid : buffer.validData ≤ buffer.size)
    (front : buffer.buf.take buffer.validData = unread)
    (stream : IOStream) :
    ∃ next bytes, readBehind buffer stream = some (next, bytes) ∧
      Holds next (unread ++ bytes.getD []) := by
  have told := sizeSub_eq valid fits
  have unreadLength : unread.length = buffer.validData := by
    rw [← front, List.length_take]
    omega
  unfold readBehind
  dsimp only
  generalize sizeSub buffer.size buffer.validData = length at told ⊢
  have written := (stream length).fits
  have room : buffer.validData + length ≤ buffer.buf.length := by omega
  have within : buffer.validData + (stream length).written.length ≤
      buffer.buf.length := by
    omega
  have stored := length_stored within
  simp only [fetch_eq room, store_eq within, Option.bind_eq_bind,
    Option.bind_some]
  rw [front] at stored ⊢
  cases counted : (stream length).count with
  | none =>
      refine ⟨_, _, rfl, stored.trans size, positive, fits, ?_, ?_⟩
      · simpa using valid
      · simp [← unreadLength]
  | some number =>
      have delivered := (stream length).within counted
      refine ⟨_, _, rfl, stored.trans size, positive, fits, ?_, ?_⟩
      · dsimp only
        omega
      · simp only [List.drop_zero, ← unreadLength, Option.getD_some,
          List.append_assoc]
        rw [List.take_length_add_append,
          List.take_append_of_le_length delivered]

theorem length_realloc {memory : Bytes} {newSize : Nat}
    (larger : memory.length ≤ newSize) (garbage : Nat → UInt8) :
    (realloc memory newSize garbage).length = newSize := by
  simp only [realloc, List.length_append, List.length_take,
    List.length_map, List.length_range]
  omega

theorem take_realloc {memory : Bytes} {newSize number : Nat}
    (larger : memory.length ≤ newSize) (old : number ≤ memory.length)
    (garbage : Nat → UInt8) :
    (realloc memory newSize garbage).take number = memory.take number := by
  rw [realloc, List.take_of_length_le larger,
    List.take_append_of_le_length old]

section Full

variable {buffer moved : Buffer} {unread : Bytes}

/-- Without more memory a full buffer has its unread bytes at the front. -/
theorem Fronted.stays (fronted : Fronted buffer moved unread)
    (holds : Holds buffer unread) (full : moved.validData = moved.size) :
    Holds moved unread := by
  have atFront : moved.readPtr = 0 := by
    have inside := holds.inside
    rw [fronted.readPtr]
    rw [fronted.validData, fronted.sameSize] at full
    omega
  constructor
  case size => exact fronted.size
  case positive => exact fronted.sameSize ▸ holds.positive
  case fits => exact fronted.sameSize ▸ holds.fits
  case inside => omega
  case contents =>
    rw [atFront, List.drop_zero]
    exact fronted.front

/-- In twice the memory there is room for what the stream delivers. -/
theorem Fronted.doubled (fronted : Fronted buffer moved unread)
    (positive : 0 < moved.size) (full : moved.validData = moved.size)
    (small : moved.size < 2 ^ 31) (garbage : Nat → UInt8)
    (stream : IOStream) :
    ∃ next bytes,
      readBehind
          { moved with
            buf := realloc moved.buf (grownSize moved.size) garbage
            size := grownSize moved.size } stream = some (next, bytes) ∧
        Holds next (unread ++ bytes.getD []) := by
  have doubled := grownSize_eq small
  have larger : moved.buf.length ≤ grownSize moved.size := by
    rw [fronted.size, doubled]
    omega
  have old : moved.validData ≤ moved.buf.length := by
    rw [fronted.size, full]
  have front := (take_realloc larger old garbage).trans fronted.front
  refine readBehind_holds (length_realloc larger garbage) ?_ ?_ ?_ front
    stream
  · dsimp only
    omega
  · dsimp only
    omega
  · dsimp only
    omega

end Full

/-- `getData` adds what it reads, if a full buffer can be doubled. -/
theorem Holds.getData {buffer : Buffer} {unread : Bytes}
    (holds : Holds buffer unread) (small : unread.length < 2 ^ 31)
    (garbage : Option (Nat → UInt8)) (stream : Option IOStream) :
    ∃ next bytes, getData garbage stream buffer = some (next, bytes) ∧
      Holds next (unread ++ bytes.getD []) := by
  cases stream with
  | none =>
      refine ⟨buffer, none, rfl, ?_⟩
      simpa using holds
  | some stream =>
      rcases holds.moveToFront with ⟨moved, moves, fronted⟩
      have valid : moved.validData ≤ moved.size := by
        have inside := holds.inside
        rw [fronted.validData, fronted.sameSize]
        omega
      have positive : 0 < moved.size := fronted.sameSize ▸ holds.positive
      have fits : moved.size < 2 ^ 64 := fronted.sameSize ▸ holds.fits
      simp only [ReadBuffer.getData, moves, Option.bind_eq_bind,
        Option.bind_some]
      rw [sizeSub_eq valid fits]
      by_cases room : moved.size - moved.validData = 0
      · rw [if_pos room]
        have full : moved.validData = moved.size := by omega
        cases garbage with
        | none =>
            refine ⟨moved, none, rfl, ?_⟩
            rw [Option.getD_none, List.append_nil]
            exact fronted.stays holds full
        | some garbage =>
            have length : moved.size < 2 ^ 31 := by
              rw [← full, fronted.validData, ← holds.length]
              exact small
            exact fronted.doubled positive full length garbage stream
      · rw [if_neg room]
        exact readBehind_holds fronted.size positive fits valid
          fronted.front stream

theorem Holds.consume {buffer : Buffer} {unread : Bytes}
    (holds : Holds buffer unread) {amount : Nat}
    (atMost : amount ≤ buffer.validData) :
    ∃ next, consume buffer amount = some next ∧
      Holds next (unread.drop amount) := by
  have inside := holds.inside
  refine ⟨_, if_pos atMost, holds.size, holds.positive, holds.fits, ?_, ?_⟩
  · dsimp only
    omega
  · rw [← holds.contents, List.drop_take, List.drop_drop]

/-! ## Every run -/

/-- The buffer holds what was received and not consumed. -/
structure Valid (system : System) : Prop where
  holds :
    ∃ buffer, system.buffer = some buffer ∧
      Holds buffer (system.received.drop system.consumed)
  consumed : system.consumed ≤ system.received.length

theorem Valid.step {system : System} {label : Label}
    (valid : Valid system) (allowed : Allowed system label) :
    Valid (step system label) := by
  rcases valid.holds with ⟨buffer, held, holds⟩
  have consumed := valid.consumed
  cases label with
  | getData garbage stream =>
      have total : system.received.length < 2 ^ 31 := by
        refine Nat.lt_of_le_of_lt ?_ allowed
        simp only [ReadBuffer.step, held]
        split
        · exact Nat.le_refl _
        · simp
      have small : (system.received.drop system.consumed).length < 2 ^ 31 := by
        rw [List.length_drop]
        omega
      rcases holds.getData small garbage stream with
        ⟨next, bytes, got, after⟩
      simp only [ReadBuffer.step, held, got]
      constructor
      · refine ⟨next, rfl, ?_⟩
        rwa [List.drop_append_of_le_length consumed]
      · dsimp only
        rw [List.length_append]
        omega
  | consume amount =>
      have atMost : amount ≤ buffer.validData := allowed buffer held
      have length := holds.length
      rw [List.length_drop] at length
      rcases holds.consume atMost with ⟨next, used, after⟩
      simp only [ReadBuffer.step, held, used]
      constructor
      · refine ⟨next, rfl, ?_⟩
        rwa [List.drop_drop] at after
      · dsimp only
        omega

/--
After every run the buffer has not been left, its bytes are those that were
received and not consumed, and there are no more of them than it has room for.
-/
theorem contents_unread {memory : Bytes} (nonempty : 1 ≤ memory.length)
    (fits : memory.length < 2 ^ 64) {labels : List Label}
    (allowed : Admitted step Allowed (System.initial memory) labels) :
    let system := runFrom step (System.initial memory) labels
    ∃ buffer, system.buffer = some buffer ∧
      buffer.contents =
        some (system.received.drop system.consumed) ∧
      buffer.validData ≤ buffer.size ∧
      buffer.buf.length = buffer.size := by
  intro system
  have initial : Valid (System.initial memory) :=
    ⟨⟨_, rfl, holds_initial nonempty fits⟩, Nat.le_refl 0⟩
  have valid : Valid system :=
    allowed.invariant (fun _ _ valid allowed => valid.step allowed) initial
  rcases valid.holds with ⟨buffer, held, holds⟩
  have inside := holds.inside
  exact ⟨buffer, held, holds.contents_eq, by omega, holds.size⟩

/-- A stream that has these bytes. -/
def streamOf (bytes : Bytes) : IOStream := fun length =>
  { written := bytes.take length
    count := some (bytes.take length).length
    fits := List.length_take_le length bytes
    within := by
      rintro number ⟨⟩
      exact Nat.le_refl _ }

/-- The buffer is filled, used in part, filled again and doubled. -/
def fillAndGrow : List Label :=
  [.getData none (some (streamOf [1, 2, 3])), .consume 1,
    .getData none (some (streamOf [3, 4])),
    .getData (some fun _ => 0) (some (streamOf [4]))]

theorem contents_unread_fillAndGrow :
    ∃ buffer,
      (runFrom step (System.initial [0, 0]) fillAndGrow).buffer =
          some buffer ∧
        buffer.contents = some [2, 3, 4] ∧ buffer.validData ≤ buffer.size ∧
          buffer.buf.length = buffer.size := by
  have allowed :
      Admitted step Allowed (System.initial [0, 0]) fillAndGrow := by
    refine ⟨?_, ?_, ?_, ?_, trivial⟩
    · change List.length _ < 2 ^ 31
      decide
    · rintro buffer ⟨⟩
      decide
    · change List.length _ < 2 ^ 31
      decide
    · change List.length _ < 2 ^ 31
      decide
  exact contents_unread (by decide) (by decide) allowed

end Anbox.Graphics.ReadBuffer
