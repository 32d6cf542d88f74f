import Mathlib.Data.List.Basic
import Mathlib.Data.List.Induction
import Mathlib.Algebra.BigOperators.Group.List.Basic
import Mathlib.Algebra.Order.BigOperators.Group.List
import Mathlib.Algebra.Order.Ring.Nat

/-!
# The qemud message processor

`QemudMessageProcessor` cuts the byte stream of a qemud client into commands.
A frame is a header of four hexadecimal digits, which give the size of the
body, followed by the body.  Received bytes are appended to `buffer_` and
`process_commands` hands one body after another to `handle_command`.

The loop of `process_commands` ends with a test of
`buffer_.size() - consumed` made after the consumed bytes have been erased.
The subtraction is unsigned, so the test only succeeds when exactly as many
bytes are left as the last frame had.  This module models the loop as it
stands and determines, from the sizes of the frames and the ends of the
deliveries alone, when complete frames are left behind.
-/

namespace Anbox.Qemu.QemudMessageProcessor

/-! ## Scanning the header -/

/-- The size of a frame header in bytes. -/
def headerSize : Nat := 4

/-- White space of the C locale, which `scanf` skips before a number. -/
def isSpace (character : UInt8) : Bool :=
  character == 0x20 || (0x09 ≤ character && character ≤ 0x0d)

/-- The value of a hexadecimal digit of either case. -/
def hexValue? (character : UInt8) : Option Nat :=
  if 0x30 ≤ character && character ≤ 0x39 then
    some (character.toNat - 0x30)
  else if 0x61 ≤ character && character ≤ 0x66 then
    some (character.toNat - 0x61 + 10)
  else if 0x41 ≤ character && character ≤ 0x46 then
    some (character.toNat - 0x41 + 10)
  else none

/-- Read at most `width` digits. -/
def scanDigits : Nat → List UInt8 → Nat → Nat
  | 0, _, value => value
  | _, [], value => value
  | width + 1, character :: rest, value =>
      match hexValue? character with
      | none => value
      | some digit => scanDigits width rest (16 * value + digit)

/-- Read a number after its sign; a leading `0x` counts towards the width. -/
def scanMagnitude (width : Nat) : List UInt8 → Nat
  | 0x30 :: mark :: rest =>
      if 2 ≤ width && (mark == 0x78 || mark == 0x58) then
        scanDigits (width - 2) rest 0
      else scanDigits width (0x30 :: mark :: rest) 0
  | characters => scanDigits width characters 0

/--
The value `sscanf(text, "%04x", &body_size)` leaves in `body_size`, which is
zero before the call.  A minus sign negates the number as an unsigned one.
-/
def sscanf04x (text : List UInt8) : UInt32 :=
  match text.dropWhile isSpace with
  | [] => 0
  | sign :: rest =>
      if sign == 0x2d then 0 - UInt32.ofNat (scanMagnitude 3 rest)
      else if sign == 0x2b then UInt32.ofNat (scanMagnitude 3 rest)
      else UInt32.ofNat (scanMagnitude 4 (sign :: rest))

/-! ## The processor -/

/-- `buffer_` and the strings passed to `handle_command` so far. -/
structure Processor where
  buffer : List UInt8
  commands : List (List UInt8)
deriving DecidableEq, Repr

/-- The processor of a new connection. -/
def Processor.initial : Processor := ⟨[], []⟩

/-- Subtraction of values of type `size_t`. -/
def sizeSub (left right : Nat) : Nat :=
  (left + (2 ^ 64 - right % 2 ^ 64)) % 2 ^ 64

/--
The loop of `process_commands`.

The header is copied to an array without a terminating zero, so a scan that
skips white space continues in whatever lies behind the array;
`past size` stands for these bytes when `size` bytes are buffered.
-/
def processCommandsFuel (past : Nat → List UInt8) :
    Nat → Processor → Processor
  | 0, processor => processor
  | fuel + 1, processor =>
      if processor.buffer.length < headerSize then processor
      else
        let header := processor.buffer.take headerSize
        let bodySize :=
          (sscanf04x (header ++ past processor.buffer.length)).toNat
        let totalSize := headerSize + bodySize
        if processor.buffer.length < totalSize then processor
        else
          let command := (processor.buffer.drop headerSize).take bodySize
          let consumed := headerSize + bodySize
          let buffer := processor.buffer.drop consumed
          let handled : Processor :=
            ⟨buffer, processor.commands ++ [command]⟩
          -- `remaining <= 0` on an unsigned value
          if sizeSub buffer.length consumed = 0 then handled
          else processCommandsFuel past fuel handled

/-- One call of `process_data` and the stack bytes it may run into. -/
structure Delivery where
  data : List UInt8
  past : Nat → List UInt8

/-- Append the received bytes and process what is complete. -/
def processData (processor : Processor) (delivery : Delivery) : Processor :=
  let buffer := processor.buffer ++ delivery.data
  processCommandsFuel delivery.past buffer.length
    ⟨buffer, processor.commands⟩

/-- Successive calls of `process_data` on a new connection. -/
def deliverAll (deliveries : List Delivery) : Processor :=
  deliveries.foldl processData Processor.initial

/-- All bytes delivered by a sequence of calls. -/
def received (deliveries : List Delivery) : List UInt8 :=
  deliveries.flatMap Delivery.data

/-! ## Well-formed frames -/

/-- A command whose size fits the four digits of the header. -/
structure Command where
  text : List UInt8
  fits : text.length < 16 ^ 4

/-- A lower-case hexadecimal digit. -/
def hexDigit (digit : Nat) : UInt8 :=
  if digit < 10 then UInt8.ofNat (0x30 + digit)
  else UInt8.ofNat (0x61 + (digit - 10))

/-- Four lower-case hexadecimal digits. -/
def hexHeader (size : Nat) : List UInt8 :=
  [hexDigit (size / 16 ^ 3 % 16), hexDigit (size / 16 ^ 2 % 16),
    hexDigit (size / 16 % 16), hexDigit (size % 16)]

/-- The frame that carries a command. -/
def Command.frame (command : Command) : List UInt8 :=
  hexHeader command.text.length ++ command.text

/-- The size of the frame that carries a command. -/
def Command.size (command : Command) : Nat :=
  headerSize + command.text.length

@[simp]
theorem hexHeader_length (size : Nat) :
    (hexHeader size).length = headerSize :=
  rfl

@[simp]
theorem Command.frame_length (command : Command) :
    command.frame.length = command.size := by
  simp [Command.frame, Command.size]

theorem Command.size_pos (command : Command) : 0 < command.size := by
  simp only [Command.size, headerSize]
  omega

/-- A proper initial part of a well-formed frame. -/
def IncompleteFrame (bytes : List UInt8) : Prop :=
  ∃ command : Command, bytes <+: command.frame ∧ bytes ≠ command.frame

/-- Everything the scan asks about a digit. -/
theorem hexDigit_scanned (digit : Fin 16) :
    isSpace (hexDigit digit) = false ∧
      (hexDigit digit == 0x2d) = false ∧
      (hexDigit digit == 0x2b) = false ∧
      (hexDigit digit == 0x78) = false ∧
      (hexDigit digit == 0x58) = false ∧
      hexValue? (hexDigit digit) = some digit.val := by
  revert digit
  decide

theorem scanMagnitude_eq_scanDigits
    {width : Nat} {first second : UInt8} {rest : List UInt8}
    (notLower : (second == 0x78) = false)
    (notUpper : (second == 0x58) = false) :
    scanMagnitude width (first :: second :: rest) =
      scanDigits width (first :: second :: rest) 0 := by
  unfold scanMagnitude
  split
  · rename_i equal
    simp only [List.cons.injEq] at equal
    obtain ⟨rfl, rfl, rfl⟩ := equal
    simp [notLower, notUpper]
  · rfl

theorem sscanf04x_digits (first second third fourth : Fin 16)
    (beyond : List UInt8) :
    sscanf04x
        ([hexDigit first, hexDigit second, hexDigit third, hexDigit fourth] ++
          beyond) =
      UInt32.ofNat
        (16 ^ 3 * first + 16 ^ 2 * second + 16 * third + fourth) := by
  obtain ⟨space, minus, plus, -, -, firstValue⟩ := hexDigit_scanned first
  obtain ⟨-, -, -, lower, upper, secondValue⟩ := hexDigit_scanned second
  obtain ⟨-, -, -, -, -, thirdValue⟩ := hexDigit_scanned third
  obtain ⟨-, -, -, -, -, fourthValue⟩ := hexDigit_scanned fourth
  have value :
      scanMagnitude 4
          (hexDigit first :: hexDigit second :: hexDigit third ::
            hexDigit fourth :: beyond) =
        16 ^ 3 * first + 16 ^ 2 * second + 16 * third + fourth := by
    rw [scanMagnitude_eq_scanDigits lower upper]
    simp only [scanDigits, firstValue, secondValue, thirdValue, fourthValue]
    omega
  simp only [sscanf04x, List.cons_append, List.nil_append,
    List.dropWhile_cons_of_neg (Bool.eq_false_iff.mp space), minus, plus,
    Bool.false_eq_true, if_false, value]

/-- A header of four lower-case digits is read as the size it was written for. -/
theorem sscanf04x_hexHeader {size : Nat} (fits : size < 16 ^ 4)
    (beyond : List UInt8) :
    (sscanf04x (hexHeader size ++ beyond)).toNat = size := by
  have scanned :=
    sscanf04x_digits
      ⟨size / 16 ^ 3 % 16, Nat.mod_lt _ (by decide)⟩
      ⟨size / 16 ^ 2 % 16, Nat.mod_lt _ (by decide)⟩
      ⟨size / 16 % 16, Nat.mod_lt _ (by decide)⟩
      ⟨size % 16, Nat.mod_lt _ (by decide)⟩ beyond
  rw [hexHeader, scanned, UInt32.toNat_ofNat']
  simp only
  omega

/-! ## One iteration of the loop -/

/-- A buffer that starts with a complete frame loses exactly that frame. -/
theorem processCommandsFuel_frame
    (past : Nat → List UInt8) (fuel : Nat) (command : Command)
    (rest : List UInt8) (commands : List (List UInt8)) :
    processCommandsFuel past (fuel + 1) ⟨command.frame ++ rest, commands⟩ =
      if sizeSub rest.length command.size = 0 then
        ⟨rest, commands ++ [command.text]⟩
      else
        processCommandsFuel past fuel
          ⟨rest, commands ++ [command.text]⟩ := by
  have headerTake :
      (command.frame ++ rest).take headerSize =
        hexHeader command.text.length := by
    simp [Command.frame, headerSize, hexHeader]
  have bodyTake :
      ((command.frame ++ rest).drop headerSize).take command.text.length =
        command.text := by
    simp [Command.frame, headerSize, hexHeader]
  have restDrop :
      (command.frame ++ rest).drop command.size = rest := by
    rw [← command.frame_length, List.drop_left]
  have length :
      (command.frame ++ rest).length = command.size + rest.length := by
    simp
  have headerEnough : ¬ command.size + rest.length < headerSize := by
    simp only [Command.size]
    omega
  have bodyEnough :
      ¬ command.size + rest.length < headerSize + command.text.length := by
    simp only [Command.size]
    omega
  simp only [processCommandsFuel, length, headerTake, bodyTake,
    sscanf04x_hexHeader command.fits, if_neg headerEnough, if_neg bodyEnough]
  rw [← Command.size, restDrop]

/-- An incomplete frame is left for the next call. -/
theorem processCommandsFuel_incomplete
    (past : Nat → List UInt8) (fuel : Nat)
    {buffer : List UInt8} (incomplete : IncompleteFrame buffer)
    (commands : List (List UInt8)) :
    processCommandsFuel past fuel ⟨buffer, commands⟩ =
      ⟨buffer, commands⟩ := by
  obtain ⟨command, ⟨missing, whole⟩, proper⟩ := incomplete
  cases fuel with
  | zero => rfl
  | succ fuel =>
      by_cases short : buffer.length < headerSize
      · simp [processCommandsFuel, short]
      · have missingPos : 0 < missing.length := by
          apply List.length_pos_of_ne_nil
          intro empty
          simp [empty] at whole
          exact proper whole
        have header :
            buffer.take headerSize = hexHeader command.text.length := by
          have taken := congrArg (List.take headerSize) whole
          rw [List.take_append_of_le_length (by omega)] at taken
          rw [taken]
          simp [Command.frame, headerSize, hexHeader]
        have lengths := congrArg List.length whole
        simp only [List.length_append, Command.frame_length] at lengths
        have tooShort :
            buffer.length < headerSize + command.text.length := by
          rw [← Command.size]
          omega
        simp only [processCommandsFuel, if_neg short, header,
          sscanf04x_hexHeader command.fits, if_pos tooShort]

/-! ## Frame boundaries -/

/-- The position in the stream at which frame number `index` starts. -/
def boundary (sizes : List Nat) (index : Nat) : Nat :=
  (sizes.take index).sum

/-- The number of bytes of frame number `index`. -/
def frameSize (sizes : List Nat) (index : Nat) : Nat :=
  sizes.getD index 0

theorem boundary_succ {sizes : List Nat} {index : Nat}
    (inside : index < sizes.length) :
    boundary sizes (index + 1) =
      boundary sizes index + frameSize sizes index := by
  rw [boundary, List.take_add_one, List.sum_append,
    List.getElem?_eq_getElem inside]
  simp [boundary, frameSize, inside]

theorem boundary_mono (sizes : List Nat) {first second : Nat}
    (ordered : first ≤ second) :
    boundary sizes first ≤ boundary sizes second := by
  obtain ⟨gap, rfl⟩ := Nat.exists_eq_add_of_le ordered
  simp [boundary, List.take_add, List.sum_append]

theorem boundary_lt {sizes : List Nat}
    (positive : ∀ size ∈ sizes, 0 < size)
    {first second : Nat} (ordered : first < second)
    (inside : first < sizes.length) :
    boundary sizes first < boundary sizes second := by
  have stepUp := boundary_succ inside
  have rest := boundary_mono sizes (show first + 1 ≤ second by omega)
  have sizePos : 0 < frameSize sizes first := by
    simpa [frameSize, inside] using
      positive _ (List.getElem_mem inside)
  omega

/--
The number of frames consumed by one call that starts with frame number
`index` when `position` bytes have been delivered, computed from sizes only.
-/
def advance (sizes : List Nat) (position : Nat) : Nat → Nat → Nat
  | 0, index => index
  | fuel + 1, index =>
      if index < sizes.length ∧ boundary sizes (index + 1) ≤ position then
        if sizeSub (position - boundary sizes (index + 1))
            (frameSize sizes index) = 0 then index + 1
        else advance sizes position fuel (index + 1)
      else index

/--
A call that reaches frame `index` stops behind it although the next frame is
complete: the bytes that follow the frame are as many as it has itself.
-/
def Stalls (sizes : List Nat) (position index : Nat) : Prop :=
  index + 1 < sizes.length ∧
    boundary sizes (index + 2) ≤ position ∧
    sizeSub (position - boundary sizes (index + 1))
      (frameSize sizes index) = 0

theorem advance_le_iff {sizes : List Nat}
    (positive : ∀ size ∈ sizes, 0 < size)
    {position fuel index : Nat}
    (enough : position ≤ boundary sizes index + fuel)
    {later : Nat} (inside : later < sizes.length)
    (complete : boundary sizes (later + 1) ≤ position) :
    advance sizes position fuel index ≤ later ↔
      ∃ stop, index ≤ stop ∧ stop < later ∧ Stalls sizes position stop := by
  -- Frame `later` is complete, so the call passes it unless it stops earlier.
  have reached : ∀ first, first ≤ later →
      first < sizes.length ∧ boundary sizes (first + 1) ≤ position := by
    intro first ordered
    have := boundary_mono sizes (Nat.add_le_add_right ordered 1)
    omega
  induction fuel generalizing index with
  | zero =>
      constructor
      · intro ordered
        have below := boundary_lt positive
          (show index < later + 1 from Nat.lt_add_one_of_le ordered)
          (reached index ordered).1
        omega
      · rintro ⟨stop, ordered, before, -⟩
        have below := boundary_lt positive
          (show index < later + 1 by omega) (reached index (by omega)).1
        omega
  | succ fuel inductionHypothesis =>
      by_cases available :
          index < sizes.length ∧ boundary sizes (index + 1) ≤ position
      · have sizeStep := boundary_lt positive
          (Nat.lt_add_one index) available.1
        have hypothesis :=
          inductionHypothesis
            (show position ≤ boundary sizes (index + 1) + fuel by omega)
        simp only [advance, if_pos available]
        split
        · rename_i stops
          constructor
          · intro ordered
            exact ⟨index, le_rfl, ordered,
              (reached (index + 1) ordered).1,
              (reached (index + 1) ordered).2, stops⟩
          · rintro ⟨stop, ordered, before, -⟩
            omega
        · rename_i continues
          apply hypothesis.trans
          constructor
          · rintro ⟨stop, ordered, before, stalls⟩
            exact ⟨stop, by omega, before, stalls⟩
          · rintro ⟨stop, ordered, before, stalls⟩
            have different : stop ≠ index := by
              rintro rfl
              exact continues stalls.2.2
            exact ⟨stop, by omega, before, stalls⟩
      · simp only [advance, if_neg available]
        constructor
        · intro ordered
          exact absurd (reached index ordered) available
        · rintro ⟨stop, ordered, before, -⟩
          exact absurd (reached index (by omega)) available

/-- A call never goes beyond the delivered bytes. -/
theorem boundary_advance_le {sizes : List Nat} {position fuel index : Nat}
    (delivered : boundary sizes index ≤ position)
    (inside : index ≤ sizes.length) :
    boundary sizes (advance sizes position fuel index) ≤ position ∧
      advance sizes position fuel index ≤ sizes.length := by
  induction fuel generalizing index with
  | zero => exact ⟨delivered, inside⟩
  | succ fuel inductionHypothesis =>
      simp only [advance]
      split
      · rename_i available
        split
        · exact ⟨available.2, available.1⟩
        · exact inductionHypothesis available.2 available.1
      · exact ⟨delivered, inside⟩

/-! ## Streams of frames -/

/-- The frames of a list of commands, one after another. -/
def frames (commands : List Command) : List UInt8 :=
  commands.flatMap Command.frame

/-- The sizes of the frames of a list of commands. -/
def sizes (commands : List Command) : List Nat :=
  commands.map Command.size

theorem sizes_pos (commands : List Command) :
    ∀ size ∈ sizes commands, 0 < size := by
  intro size member
  obtain ⟨command, -, rfl⟩ := List.mem_map.mp member
  exact command.size_pos

theorem frames_length (commands : List Command) :
    (frames commands).length = (sizes commands).sum := by
  simp [frames, sizes, List.length_flatMap]

theorem frames_drop {commands : List Command} {index : Nat}
    (inside : index < commands.length) :
    frames (commands.drop index) =
      (commands.get ⟨index, inside⟩).frame ++
        frames (commands.drop (index + 1)) := by
  rw [List.drop_eq_getElem_cons inside]
  rfl

theorem boundary_sizes_succ {commands : List Command} {index : Nat}
    (inside : index < commands.length) :
    boundary (sizes commands) (index + 1) =
      boundary (sizes commands) index +
        (commands.get ⟨index, inside⟩).size := by
  rw [boundary_succ (by simpa [sizes] using inside)]
  simp [frameSize, sizes, inside]

/-- Dropping whole frames from the stream drops the commands they carry. -/
theorem stream_drop (commands : List Command) (tail : List UInt8)
    (index : Nat) :
    (frames commands ++ tail).drop (boundary (sizes commands) index) =
      frames (commands.drop index) ++ tail := by
  have split : frames commands =
      frames (commands.take index) ++ frames (commands.drop index) := by
    rw [frames, frames, frames, ← List.flatMap_append,
      List.take_append_drop]
  have length : (frames (commands.take index)).length =
      boundary (sizes commands) index := by
    rw [frames_length, boundary, sizes, sizes, List.map_take]
  rw [split, List.append_assoc, ← length, List.drop_left]

theorem IncompleteFrame.of_isPrefix {bytes shorter : List UInt8}
    (incomplete : IncompleteFrame bytes) (isPart : shorter <+: bytes) :
    IncompleteFrame shorter := by
  obtain ⟨command, extended, proper⟩ := incomplete
  refine ⟨command, isPart.trans extended, ?_⟩
  intro equal
  have lengths := isPart.length_le
  apply proper
  exact extended.eq_of_length_le (by rw [← equal]; exact lengths)

section Stream

variable (commands : List Command) (tail : List UInt8)

/-- The bytes delivered up to `position` that frame `index` starts with. -/
def unread (position index : Nat) : List UInt8 :=
  ((frames commands ++ tail).take position).drop
    (boundary (sizes commands) index)

theorem unread_complete {position index : Nat}
    (inside : index < commands.length)
    (complete : boundary (sizes commands) (index + 1) ≤ position) :
    unread commands tail position index =
      (commands.get ⟨index, inside⟩).frame ++
        unread commands tail position (index + 1) := by
  have stepUp := boundary_sizes_succ inside
  have frameLength := (commands.get ⟨index, inside⟩).frame_length
  rw [unread, unread, List.drop_take, List.drop_take,
    stream_drop, stream_drop,
    frames_drop inside, List.append_assoc, List.take_append,
    List.take_of_length_le (by omega)]
  congr 2
  omega

theorem unread_incomplete (incomplete : IncompleteFrame tail)
    {position index : Nat}
    (missing :
      ¬ (index < commands.length ∧
        boundary (sizes commands) (index + 1) ≤ position)) :
    IncompleteFrame (unread commands tail position index) := by
  rw [unread, List.drop_take, stream_drop]
  rcases Nat.lt_or_ge index commands.length with more | none
  · have stepUp := boundary_sizes_succ more
    have frameLength := (commands.get ⟨index, more⟩).frame_length
    have short : position - boundary (sizes commands) index <
        (commands.get ⟨index, more⟩).frame.length := by
      have := (commands.get ⟨index, more⟩).size_pos
      omega
    rw [frames_drop more, List.append_assoc,
      List.take_append_of_le_length short.le]
    refine ⟨commands.get ⟨index, more⟩, List.take_prefix _ _, ?_⟩
    intro equal
    have lengths := congrArg List.length equal
    rw [List.length_take] at lengths
    omega
  · rw [List.drop_of_length_le none]
    exact incomplete.of_isPrefix (List.take_prefix _ _)

/-- The loop on the unread bytes computes what `advance` says. -/
theorem processCommandsFuel_unread (incomplete : IncompleteFrame tail)
    (past : Nat → List UInt8) {position : Nat}
    (delivered : position ≤ (frames commands ++ tail).length)
    (fuel index : Nat) :
    processCommandsFuel past fuel
        ⟨unread commands tail position index,
          (commands.take index).map Command.text⟩ =
      ⟨unread commands tail position
          (advance (sizes commands) position fuel index),
        (commands.take
          (advance (sizes commands) position fuel index)).map
            Command.text⟩ := by
  induction fuel generalizing index with
  | zero => rfl
  | succ fuel inductionHypothesis =>
      by_cases available : index < commands.length ∧
          boundary (sizes commands) (index + 1) ≤ position
      · have available' : index < (sizes commands).length ∧
            boundary (sizes commands) (index + 1) ≤ position := by
          simpa [sizes] using available
        have size : frameSize (sizes commands) index =
            (commands.get ⟨index, available.1⟩).size := by
          simp [frameSize, sizes, available.1]
        have left :
            (unread commands tail position (index + 1)).length =
              position - boundary (sizes commands) (index + 1) := by
          rw [unread, List.length_drop, List.length_take,
            Nat.min_eq_left delivered]
        have taken :
            (commands.take index).map Command.text ++
                [(commands.get ⟨index, available.1⟩).text] =
              (commands.take (index + 1)).map Command.text := by
          rw [List.take_add_one, List.getElem?_eq_getElem available.1,
            List.map_append]
          rfl
        rw [unread_complete commands tail available.1 available.2,
          processCommandsFuel_frame, left, taken, ← size]
        simp only [advance, if_pos available']
        split
        · rfl
        · exact inductionHypothesis (index + 1)
      · have available' : ¬ (index < (sizes commands).length ∧
            boundary (sizes commands) (index + 1) ≤ position) := by
          simpa [sizes] using available
        simp only [advance, if_neg available']
        exact processCommandsFuel_incomplete past (fuel + 1)
          (unread_incomplete commands tail incomplete available) _

end Stream

/-! ## Sequences of deliveries -/

/-- How many bytes had been delivered after each call, the latest first. -/
def deliveredEnds (deliveries : List Delivery) : List Nat :=
  deliveries.foldl
    (fun ends delivery => (ends.headD 0 + delivery.data.length) :: ends) []

/-- How many frames have been consumed after calls that ended at `ends`. -/
def consumedAfter (sizes : List Nat) : List Nat → Nat
  | [] => 0
  | position :: earlier =>
      advance sizes position
        (position - boundary sizes (consumedAfter sizes earlier))
        (consumedAfter sizes earlier)

/--
The last call stops behind frame `index` with a complete frame behind it.

It reaches the frame because the frame was not complete before this call, or
because the call before had already stopped behind an earlier frame.
-/
def LeavesBehind (sizes : List Nat) : List Nat → Nat → Prop
  | [], _ => False
  | position :: earlier, index =>
      Stalls sizes position index ∧
        (earlier.headD 0 < boundary sizes (index + 1) ∨
          ∃ before < index, LeavesBehind sizes earlier before)

theorem deliveredEnds_snoc (deliveries : List Delivery)
    (delivery : Delivery) :
    deliveredEnds (deliveries ++ [delivery]) =
      ((deliveredEnds deliveries).headD 0 + delivery.data.length) ::
        deliveredEnds deliveries := by
  simp [deliveredEnds]

theorem deliveredEnds_headD (deliveries : List Delivery) :
    (deliveredEnds deliveries).headD 0 = (received deliveries).length := by
  induction deliveries using List.reverseRecOn with
  | nil => rfl
  | append_singleton deliveries delivery inductionHypothesis =>
      rw [deliveredEnds_snoc, List.headD_cons, inductionHypothesis]
      simp [received]

theorem consumedAfter_bounds (sizes : List Nat)
    (deliveries : List Delivery) :
    boundary sizes (consumedAfter sizes (deliveredEnds deliveries)) ≤
        (deliveredEnds deliveries).headD 0 ∧
      consumedAfter sizes (deliveredEnds deliveries) ≤ sizes.length := by
  induction deliveries using List.reverseRecOn with
  | nil => simp [deliveredEnds, consumedAfter, boundary]
  | append_singleton deliveries delivery inductionHypothesis =>
      rw [deliveredEnds_snoc]
      exact boundary_advance_le
        (Nat.le_add_right_of_le inductionHypothesis.1)
        inductionHypothesis.2

/-- A complete frame is unread exactly if a call stopped behind an earlier one. -/
theorem consumedAfter_le_iff {sizes : List Nat}
    (positive : ∀ size ∈ sizes, 0 < size)
    (deliveries : List Delivery) {index : Nat}
    (inside : index < sizes.length)
    (complete :
      boundary sizes (index + 1) ≤ (deliveredEnds deliveries).headD 0) :
    consumedAfter sizes (deliveredEnds deliveries) ≤ index ↔
      ∃ before < index,
        LeavesBehind sizes (deliveredEnds deliveries) before := by
  induction deliveries using List.reverseRecOn generalizing index with
  | nil =>
      have positiveEnd := boundary_lt positive
        (Nat.lt_add_one index) inside
      simp [deliveredEnds] at complete
      omega
  | append_singleton deliveries delivery inductionHypothesis =>
      have bounds := consumedAfter_bounds sizes deliveries
      rw [deliveredEnds_snoc] at complete ⊢
      rw [List.headD_cons] at complete
      -- Where the last call starts, in terms of the calls before it.
      have starts : ∀ stop < sizes.length,
          consumedAfter sizes (deliveredEnds deliveries) ≤ stop ↔
            (deliveredEnds deliveries).headD 0 < boundary sizes (stop + 1) ∨
              ∃ before < stop,
                LeavesBehind sizes (deliveredEnds deliveries) before := by
        intro stop stopInside
        rcases Nat.lt_or_ge ((deliveredEnds deliveries).headD 0)
            (boundary sizes (stop + 1)) with pending | available
        · have notBeyond :
              consumedAfter sizes (deliveredEnds deliveries) ≤ stop := by
            by_contra beyond
            have := boundary_mono sizes
              (show stop + 1 ≤
                  consumedAfter sizes (deliveredEnds deliveries) by omega)
            omega
          exact ⟨fun _ => Or.inl pending, fun _ => notBeyond⟩
        · rw [inductionHypothesis stopInside available]
          constructor
          · exact Or.inr
          · rintro (pending | behind)
            · omega
            · exact behind
      rw [consumedAfter, advance_le_iff positive (by omega) inside complete]
      constructor
      · rintro ⟨stop, started, before, stalls⟩
        have stopInside : stop < sizes.length := by omega
        exact ⟨stop, before, stalls, (starts stop stopInside).mp started⟩
      · rintro ⟨stop, before, stalls, reason⟩
        have stopInside : stop < sizes.length := by omega
        exact ⟨stop, (starts stop stopInside).mpr reason, before, stalls⟩

/-- The processor holds the unread bytes and has handled the frames before. -/
theorem deliverAll_eq {commands : List Command} {tail : List UInt8}
    (incomplete : IncompleteFrame tail) {deliveries : List Delivery}
    (part : received deliveries <+: frames commands ++ tail) :
    deliverAll deliveries =
      ⟨unread commands tail (received deliveries).length
          (consumedAfter (sizes commands) (deliveredEnds deliveries)),
        (commands.take
          (consumedAfter (sizes commands) (deliveredEnds deliveries))).map
            Command.text⟩ := by
  induction deliveries using List.reverseRecOn with
  | nil => simp [deliverAll, received, unread, consumedAfter, deliveredEnds,
      Processor.initial]
  | append_singleton deliveries delivery inductionHypothesis =>
      have receivedEq : received (deliveries ++ [delivery]) =
          received deliveries ++ delivery.data := by
        simp [received]
      rw [receivedEq] at part
      have earlier := (List.prefix_append _ _).trans part
      have bounds := consumedAfter_bounds (sizes commands) deliveries
      rw [deliveredEnds_headD] at bounds
      have buffer :
          unread commands tail (received deliveries).length
                (consumedAfter (sizes commands) (deliveredEnds deliveries)) ++
              delivery.data =
            unread commands tail
              (received deliveries ++ delivery.data).length
              (consumedAfter (sizes commands)
                (deliveredEnds deliveries)) := by
        rw [unread, unread, ← List.prefix_iff_eq_take.mp earlier,
          ← List.prefix_iff_eq_take.mp part,
          List.drop_append_of_le_length bounds.1]
      have length :
          (unread commands tail
            (received deliveries ++ delivery.data).length
            (consumedAfter (sizes commands)
              (deliveredEnds deliveries))).length =
            (received deliveries ++ delivery.data).length -
              boundary (sizes commands)
                (consumedAfter (sizes commands)
                  (deliveredEnds deliveries)) := by
        rw [unread, ← List.prefix_iff_eq_take.mp part, List.length_drop]
      rw [deliverAll, List.foldl_append, ← deliverAll,
        inductionHypothesis earlier]
      simp only [List.foldl_cons, List.foldl_nil, processData]
      rw [buffer, length,
        processCommandsFuel_unread commands tail incomplete delivery.past
          part.length_le,
        receivedEq, deliveredEnds_snoc, consumedAfter, deliveredEnds_headD,
        List.length_append]

/--
All complete frames have been handled, and only the incomplete one is still
buffered, exactly if the last call leaves nothing behind.
-/
theorem deliverAll_complete_iff {commands : List Command} {tail : List UInt8}
    (incomplete : IncompleteFrame tail) {deliveries : List Delivery}
    (whole : received deliveries = frames commands ++ tail) :
    deliverAll deliveries = ⟨tail, commands.map Command.text⟩ ↔
      ∀ index,
        ¬ LeavesBehind (sizes commands) (deliveredEnds deliveries) index := by
  have total : (deliveredEnds deliveries).headD 0 =
      (frames commands ++ tail).length := by
    rw [deliveredEnds_headD, whole]
  have sizesLength : (sizes commands).length = commands.length := by
    simp [sizes]
  have allFrames : boundary (sizes commands) commands.length =
      (frames commands).length := by
    rw [frames_length, boundary, ← sizesLength, List.take_length]
  have bounds := consumedAfter_bounds (sizes commands) deliveries
  have part : received deliveries <+: frames commands ++ tail :=
    whole ▸ List.prefix_refl (received deliveries)
  rw [deliverAll_eq incomplete part]
  constructor
  · intro handled index leaves
    -- A frame behind the stop is complete but has not been handled.
    have stalls : Stalls (sizes commands)
        ((deliveredEnds deliveries).headD 0) index := by
      cases ends : deliveredEnds deliveries with
      | nil => simp [ends, LeavesBehind] at leaves
      | cons position earlier =>
          rw [ends] at leaves
          exact leaves.1
    have stopped :=
      (consumedAfter_le_iff (sizes_pos commands) deliveries
        stalls.1 stalls.2.1).mpr
        ⟨index, Nat.lt_add_one index, leaves⟩
    have lengths := congrArg (fun processor => processor.commands.length) handled
    simp only [List.length_map, List.length_take] at lengths
    have := stalls.1
    omega
  · intro nothing
    have all : consumedAfter (sizes commands) (deliveredEnds deliveries) =
        commands.length := by
      by_contra different
      have inside : commands.length - 1 < (sizes commands).length := by omega
      have complete : boundary (sizes commands) (commands.length - 1 + 1) ≤
          (deliveredEnds deliveries).headD 0 := by
        rw [Nat.sub_add_cancel (by omega), allFrames, total,
          List.length_append]
        exact Nat.le_add_right _ _
      obtain ⟨before, -, leaves⟩ :=
        (consumedAfter_le_iff (sizes_pos commands) deliveries
          inside complete).mp (by omega)
      exact nothing before leaves
    rw [all, List.take_length, unread, ← whole, List.take_length, whole,
      allFrames, List.drop_left]

/-- A command of four bytes, as a qemud client sends it. -/
def ping : Command := ⟨[0x70, 0x69, 0x6e, 0x67], by decide⟩

theorem incompleteFrame_digit : IncompleteFrame [0x30] :=
  ⟨ping, by decide, by decide⟩

theorem deliverAll_complete_iff_ping :
    IncompleteFrame [0x30] ∧
      (deliverAll [⟨ping.frame ++ [0x30], fun _ => []⟩] =
          ⟨[0x30], [ping.text]⟩ ↔
        ∀ index, ¬ LeavesBehind (sizes [ping]) [9] index) :=
  ⟨incompleteFrame_digit,
    @deliverAll_complete_iff [ping] [0x30] incompleteFrame_digit
      [⟨ping.frame ++ [0x30], fun _ => []⟩] rfl⟩

/-- Two commands of the same size in one delivery: the second is not handled. -/
theorem second_ping_left_behind :
    IncompleteFrame [] ∧
      received [⟨ping.frame ++ ping.frame, fun _ => []⟩] =
        frames [ping, ping] ++ [] ∧
      deliverAll [⟨ping.frame ++ ping.frame, fun _ => []⟩] =
        ⟨ping.frame, [ping.text]⟩ ∧
      deliverAll [⟨ping.frame ++ ping.frame, fun _ => []⟩] ≠
        ⟨[], [ping, ping].map Command.text⟩ :=
  ⟨⟨ping, by decide, by decide⟩, rfl, by decide, by decide⟩

end Anbox.Qemu.QemudMessageProcessor
