import Mathlib.Algebra.Order.Ring.Nat
import Mathlib.Data.List.Basic
import Mathlib.Tactic.Cases

/-!
# Numbers and texts in a byte stream

Numbers of 16 and 32 bits stand with their highest byte first.  A text stands
behind its length, which has 16 bits.  Reading a field gives its value and the
bytes behind it, and uses up as many bytes as the field has.
-/

namespace Anbox.Foundation.ByteFields

abbrev Bytes := List UInt8

def bytes16 (value : UInt16) : Bytes :=
  [UInt8.ofNat (value.toNat / 2 ^ 8), UInt8.ofNat value.toNat]

def bytes32 (value : UInt32) : Bytes :=
  [UInt8.ofNat (value.toNat / 2 ^ 24), UInt8.ofNat (value.toNat / 2 ^ 16),
    UInt8.ofNat (value.toNat / 2 ^ 8), UInt8.ofNat value.toNat]

def textBytes (text : Bytes) : Bytes :=
  bytes16 (UInt16.ofNat text.length) ++ text

def read16 : Bytes → Option (UInt16 × Bytes)
  | high :: low :: rest =>
      some (UInt16.ofNat (high.toNat * 2 ^ 8 + low.toNat), rest)
  | _ => none

def read32 : Bytes → Option (UInt32 × Bytes)
  | first :: second :: third :: fourth :: rest =>
      some
        (UInt32.ofNat
          (first.toNat * 2 ^ 24 + second.toNat * 2 ^ 16 +
            third.toNat * 2 ^ 8 + fourth.toNat), rest)
  | _ => none

def readText (bytes : Bytes) : Option (Bytes × Bytes) :=
  match read16 bytes with
  | none => none
  | some (size, rest) =>
      if size.toNat ≤ rest.length then
        some (rest.take size.toNat, rest.drop size.toNat)
      else none

/-! ## Reading what was written -/

@[simp]
theorem length_bytes16 (value : UInt16) : (bytes16 value).length = 2 :=
  rfl

@[simp]
theorem length_bytes32 (value : UInt32) : (bytes32 value).length = 4 :=
  rfl

@[simp]
theorem length_textBytes (text : Bytes) :
    (textBytes text).length = text.length + 2 := by
  rw [textBytes, List.length_append, length_bytes16, Nat.add_comm]

@[simp]
theorem read16_bytes16 (value : UInt16) (rest : Bytes) :
    read16 (bytes16 value ++ rest) = some (value, rest) := by
  have below : value.toNat < 2 ^ 16 := value.toNat_lt
  have joined :
      UInt16.ofNat
        ((UInt8.ofNat (value.toNat / 2 ^ 8)).toNat * 2 ^ 8 +
          (UInt8.ofNat value.toNat).toNat) = value := by
    apply UInt16.toNat_inj.mp
    simp only [UInt16.toNat_ofNat', UInt8.toNat_ofNat']
    omega
  simp only [bytes16, List.cons_append, List.nil_append, read16, joined]

@[simp]
theorem read32_bytes32 (value : UInt32) (rest : Bytes) :
    read32 (bytes32 value ++ rest) = some (value, rest) := by
  have below : value.toNat < 2 ^ 32 := value.toNat_lt
  have joined :
      UInt32.ofNat
        ((UInt8.ofNat (value.toNat / 2 ^ 24)).toNat * 2 ^ 24 +
          (UInt8.ofNat (value.toNat / 2 ^ 16)).toNat * 2 ^ 16 +
          (UInt8.ofNat (value.toNat / 2 ^ 8)).toNat * 2 ^ 8 +
          (UInt8.ofNat value.toNat).toNat) = value := by
    apply UInt32.toNat_inj.mp
    simp only [UInt32.toNat_ofNat', UInt8.toNat_ofNat']
    omega
  simp only [bytes32, List.cons_append, List.nil_append, read32, joined]

/-- The length of a text is read back if it fits in 16 bits. -/
theorem readText_textBytes {text : Bytes} (short : text.length < 2 ^ 16)
    (rest : Bytes) :
    readText (textBytes text ++ rest) = some (text, rest) := by
  have size : (UInt16.ofNat text.length).toNat = text.length := by
    rw [UInt16.toNat_ofNat']
    exact Nat.mod_eq_of_lt short
  rw [readText, textBytes, List.append_assoc, read16_bytes16]
  simp only [size]
  rw [if_pos (by simp), List.take_left, List.drop_left]

/-! ## The bytes that are used up -/

theorem length_of_read16 {bytes rest : Bytes} {value : UInt16}
    (found : read16 bytes = some (value, rest)) :
    bytes.length = rest.length + 2 := by
  match bytes with
  | [] | [_] => cases found
  | _ :: _ :: _ =>
      cases found
      rfl

theorem length_of_read32 {bytes rest : Bytes} {value : UInt32}
    (found : read32 bytes = some (value, rest)) :
    bytes.length = rest.length + 4 := by
  match bytes with
  | [] | [_] | [_, _] | [_, _, _] => cases found
  | _ :: _ :: _ :: _ :: _ =>
      cases found
      rfl

theorem length_of_readText {bytes text rest : Bytes}
    (found : readText bytes = some (text, rest)) :
    bytes.length = rest.length + (text.length + 2) := by
  unfold readText at found
  split at found
  · cases found
  · rename_i size behind sized
    split at found
    · rename_i enough
      have used := length_of_read16 sized
      cases found
      rw [used, List.length_take, List.length_drop]
      omega
    · cases found

end Anbox.Foundation.ByteFields
