import Mathlib.Tactic.Ring
import Anbox.Qemu.QemudMessageProcessor

/-!
# The size in a qemud header

The loop of `process_commands` waits until as many bytes are buffered as the
header says.  The size comes from `sscanf` with the format `%04x`, which takes
white space, a sign and a prefix `0x` as well as digits.  A number with a minus
sign is negated as an unsigned one, so such a header asks for almost `2 ^ 32`
bytes and the decoder waits for them.
-/

namespace Anbox.Qemu.HeaderSize

open Anbox.Qemu.QemudMessageProcessor

/-! ## Waiting for a body -/

/--
The `body_size` scanned from the bytes in the buffer.  The bytes `beyond` lie
behind the copy of the header, which has no terminating zero.
-/
def bodySize (buffer beyond : List UInt8) : Nat :=
  (sscanf04x (buffer.take headerSize ++ beyond)).toNat

/--
The `total_size` the loop waits for: the header is of type `long` and the sum
is computed with 64 bits.  A buffer without a whole header is left before the
size is scanned.
-/
def totalSize? (buffer beyond : List UInt8) : Option Nat :=
  if buffer.length < headerSize then none
  else some ((headerSize + bodySize buffer beyond) % 2 ^ 64)

/-- No header makes the sum of the two sizes wrap. -/
theorem headerSize_add_bodySize_lt (buffer beyond : List UInt8) :
    headerSize + bodySize buffer beyond < 2 ^ 64 := by
  have scanned : bodySize buffer beyond < 2 ^ 32 :=
    UInt32.toNat_lt (sscanf04x (buffer.take headerSize ++ beyond))
  simp only [headerSize]
  omega

theorem totalSize?_eq_some {buffer : List UInt8}
    (complete : headerSize ≤ buffer.length) (beyond : List UInt8) :
    totalSize? buffer beyond = some (headerSize + bodySize buffer beyond) := by
  rw [totalSize?, if_neg (Nat.not_lt.mpr complete),
    Nat.mod_eq_of_lt (headerSize_add_bodySize_lt buffer beyond)]

/-- The loop handles nothing as long as less than the total size is there. -/
theorem processCommandsFuel_waits
    {past : Nat → List UInt8} {processor : Processor} {total : Nat}
    (waited :
      totalSize? processor.buffer (past processor.buffer.length) =
        some total)
    (short : processor.buffer.length < total) (fuel : Nat) :
    processCommandsFuel past fuel processor = processor := by
  cases fuel with
  | zero => rfl
  | succ fuel =>
      unfold processCommandsFuel
      split
      · rfl
      · rename_i complete
        rw [totalSize?_eq_some (Nat.not_lt.mp complete),
          Option.some.injEq] at waited
        have incomplete :
            processor.buffer.length <
              headerSize +
                (sscanf04x
                  (processor.buffer.take headerSize ++
                    past processor.buffer.length)).toNat := by
          simpa only [← waited, bodySize] using short
        exact if_pos incomplete

/-! ## The numbers a header can hold -/

/-- The text of a number other than zero behind a minus sign. -/
def Negated (text : List UInt8) : Prop :=
  ∃ rest, text.dropWhile isSpace = 0x2d :: rest ∧ scanMagnitude 3 rest ≠ 0

theorem hexValue?_lt {character : UInt8} {digit : Nat}
    (scanned : hexValue? character = some digit) : digit < 16 := by
  unfold hexValue? at scanned
  split at scanned
  · rename_i decimal
    simp only [Bool.and_eq_true, decide_eq_true_eq,
      UInt8.le_iff_toNat_le] at decimal
    cases scanned
    have above : character.toNat ≤ 0x39 := decimal.2
    omega
  · split at scanned
    · rename_i lower
      simp only [Bool.and_eq_true, decide_eq_true_eq,
        UInt8.le_iff_toNat_le] at lower
      cases scanned
      have above : character.toNat ≤ 0x66 := lower.2
      omega
    · split at scanned
      · rename_i upper
        simp only [Bool.and_eq_true, decide_eq_true_eq,
          UInt8.le_iff_toNat_le] at upper
        cases scanned
        have above : character.toNat ≤ 0x46 := upper.2
        omega
      · cases scanned

/-- At most as many digits as the width says are read. -/
theorem scanDigits_lt (width : Nat) (text : List UInt8) (value : Nat) :
    scanDigits width text value < 16 ^ width * (value + 1) := by
  induction width generalizing text value with
  | zero => simp [scanDigits]
  | succ width inductionHypothesis =>
      have grows : value < 16 ^ (width + 1) * (value + 1) :=
        Nat.lt_of_lt_of_le (Nat.lt_succ_self value)
          (Nat.le_mul_of_pos_left _ (Nat.pow_pos (by decide)))
      cases text with
      | nil => exact grows
      | cons character rest =>
          unfold scanDigits
          split
          · exact grows
          · rename_i digit scanned
            have small : digit < 16 := hexValue?_lt scanned
            calc
              scanDigits width rest (16 * value + digit)
                  < 16 ^ width * (16 * value + digit + 1) :=
                inductionHypothesis rest (16 * value + digit)
              _ ≤ 16 ^ width * (16 * (value + 1)) :=
                Nat.mul_le_mul_left _ (by omega)
              _ = 16 ^ (width + 1) * (value + 1) := by ring

/-- A mark `0x` leaves fewer digits, so the bound holds with it as well. -/
theorem scanMagnitude_lt (width : Nat) (text : List UInt8) :
    scanMagnitude width text < 16 ^ width := by
  have digits (text : List UInt8) : scanDigits width text 0 < 16 ^ width := by
    simpa using scanDigits_lt width text 0
  unfold scanMagnitude
  split
  · rename_i mark rest
    split
    · have fewer : scanDigits (width - 2) rest 0 < 16 ^ (width - 2) := by
        simpa using scanDigits_lt (width - 2) rest 0
      exact Nat.lt_of_lt_of_le fewer
        (Nat.pow_le_pow_right (by decide) (Nat.sub_le width 2))
    · exact digits _
  · exact digits _

/-- What the scan reads fits four digits unless it negates a number. -/
theorem sscanf04x_le_iff (text : List UInt8) :
    (sscanf04x text).toNat ≤ 0xffff ↔ ¬ Negated text := by
  unfold sscanf04x Negated
  split
  · rename_i blank
    simp [blank]
  · rename_i sign rest found
    have magnitude : scanMagnitude 3 rest < 16 ^ 3 := scanMagnitude_lt 3 rest
    split
    · rename_i minus
      have isMinus : sign = 0x2d := by simpa using minus
      rw [UInt32.toNat_sub, UInt32.toNat_ofNat']
      simp only [found, isMinus, List.cons.injEq, true_and]
      constructor
      · rintro bounded ⟨_, rfl, nonzero⟩
        simp only [UInt32.toNat_zero] at bounded
        omega
      · intro notNegated
        have zero : scanMagnitude 3 rest = 0 := by
          by_contra nonzero
          exact notNegated ⟨rest, rfl, nonzero⟩
        simp [zero]
    · rename_i notMinus
      have unsigned :
          ¬ ∃ digits,
            text.dropWhile isSpace = 0x2d :: digits ∧
              scanMagnitude 3 digits ≠ 0 := by
        rintro ⟨digits, negative, -⟩
        rw [found, List.cons.injEq] at negative
        simp [negative.1] at notMinus
      refine iff_of_true ?_ (by simpa only [found] using unsigned)
      split
      · rw [UInt32.toNat_ofNat']
        omega
      · have wide : scanMagnitude 4 (sign :: rest) < 16 ^ 4 :=
          scanMagnitude_lt 4 (sign :: rest)
        rw [UInt32.toNat_ofNat']
        omega

/-! ## Writing a header -/

/-- The sixteen hexadecimal digits of a `size_t`, the highest first. -/
def hexDigits (size : Nat) : List UInt8 :=
  (List.range 16).reverse.map fun position =>
    hexDigit (size / 16 ^ position % 16)

/-- The text of a `size_t` in the format `%04zx`. -/
def format04zx (size : Nat) : List UInt8 :=
  ((hexDigits size).take 12).dropWhile (· == 0x30) ++ (hexDigits size).drop 12

/-- The bytes `send_header` sends, cut off where `snprintf` cuts the text. -/
def sendHeader (size : Nat) : List UInt8 :=
  (format04zx size).take headerSize

/-- The digits above the fourth of a number with four digits are zero. -/
theorem hexDigit_high {size : Nat} (fits : size ≤ 0xffff) (position : Nat) :
    hexDigit (size / 16 ^ (position + 4) % 16) = 0x30 := by
  have below : size < 16 ^ (position + 4) :=
    calc
      size < 16 ^ 4 := by omega
      _ ≤ 16 ^ (position + 4) :=
        Nat.pow_le_pow_right (by decide) (Nat.le_add_left 4 position)
  rw [Nat.div_eq_of_lt below]
  rfl

theorem hexDigits_eq_padded {size : Nat} (fits : size ≤ 0xffff) :
    hexDigits size = List.replicate 12 0x30 ++ hexHeader size := by
  have positions :
      (List.range 16).reverse =
        (List.range 12).reverse.map (· + 4) ++ [3, 2, 1, 0] := by
    decide
  have zeros :
      (List.range 12).reverse.map
          (fun position => hexDigit (size / 16 ^ (position + 4) % 16)) =
        List.replicate 12 0x30 := by
    rw [List.eq_replicate_iff]
    refine ⟨by simp, fun digit member => ?_⟩
    rcases List.mem_map.mp member with ⟨position, -, rfl⟩
    exact hexDigit_high fits position
  rw [hexDigits, positions, List.map_append, List.map_map,
    Function.comp_def, zeros]
  simp [hexHeader]

theorem sendHeader_eq_hexHeader {size : Nat} (fits : size ≤ 0xffff) :
    sendHeader size = hexHeader size := by
  simp [sendHeader, format04zx, hexDigits_eq_padded fits, headerSize,
    hexHeader]

theorem sscanf04x_sendHeader {size : Nat} (fits : size ≤ 0xffff)
    (beyond : List UInt8) :
    (sscanf04x (sendHeader size ++ beyond)).toNat = size := by
  rw [sendHeader_eq_hexHeader fits]
  exact sscanf04x_hexHeader (by omega) beyond

/-! ## The bound of the wait -/

/--
The loop waits for a header and at most `0xffff` bytes, by a sum that did not
wrap, and reads every header of `send_header` back, exactly when the buffer
does not start with a negated number.
-/
theorem totalSize_bounded_iff_not_negated (buffer beyond : List UInt8) :
    ((∀ total, totalSize? buffer beyond = some total →
        total ≤ headerSize + 0xffff ∧
          total = headerSize + bodySize buffer beyond) ∧
      ∀ size ≤ 0xffff, ∀ behind,
        (sscanf04x (sendHeader size ++ behind)).toNat = size) ↔
      ¬ (headerSize ≤ buffer.length ∧
        Negated (buffer.take headerSize ++ beyond)) := by
  rw [and_iff_left fun size fits behind => sscanf04x_sendHeader fits behind]
  rcases Nat.lt_or_ge buffer.length headerSize with short | complete
  · simp [totalSize?, short]
  · have bounded := sscanf04x_le_iff (buffer.take headerSize ++ beyond)
    rw [totalSize?_eq_some complete]
    simp only [complete, true_and, ← bounded, Option.some.injEq,
      forall_eq', and_true, Nat.add_le_add_iff_left]
    rfl

/--
Four bytes `-001` make the loop wait for `0xffffffff` bytes behind the
header.
-/
theorem negated_header_exceeds_bound :
    ¬ ∀ buffer beyond : List UInt8, headerSize ≤ buffer.length →
      ∀ total, totalSize? buffer beyond = some total →
        total ≤ headerSize + 0xffff := by
  intro bounded
  have waited :
      totalSize? [0x2d, 0x30, 0x30, 0x31] [] =
        some (headerSize + 0xffffffff) := by
    decide
  have impossible :=
    bounded [0x2d, 0x30, 0x30, 0x31] [] (by decide) _ waited
  revert impossible
  decide

end Anbox.Qemu.HeaderSize
