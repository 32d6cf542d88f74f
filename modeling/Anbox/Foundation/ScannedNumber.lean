import Mathlib.Algebra.Order.Ring.Int

/-!
# Numbers that are scanned from text

The C library skips white space before a number, accepts one sign and reads
as many decimal digits as there are.  What becomes of a number that is too
large depends on the conversion, so the reading of the digits is an argument.
-/

namespace Anbox.Foundation.ScannedNumber

universe u v

/-- White space before a number is skipped. -/
def isSpace (character : Char) : Bool :=
  character = ' ' ∨ '\t' ≤ character ∧ character ≤ '\r'

/-- The value of decimal digits. -/
def decimal (digits : List Char) : Nat :=
  digits.foldl (fun value digit => 10 * value + (digit.toNat - '0'.toNat)) 0

/-- The number that the digits at the start of a text stand for. -/
def digitsNumber (text : List Char) : Option Nat :=
  match text.takeWhile Char.isDigit with
  | [] => none
  | digits => some (decimal digits)

def signed (negative : Bool) (magnitude : Nat) : Int :=
  if negative then -magnitude else magnitude

/-- Read what follows white space and a sign. -/
def readSigned {Reading : Type u} (read : Bool → List Char → Reading)
    (text : List Char) : Reading :=
  match text.dropWhile isSpace with
  | '-' :: digits => read true digits
  | '+' :: digits => read false digits
  | digits => read false digits

/-- The number at the start of a text. -/
def scanInteger (text : List Char) : Option Int :=
  readSigned (fun negative digits =>
    (digitsNumber digits).map (signed negative)) text

theorem apply_readSigned {Reading : Type u} {Value : Type v}
    (change : Reading → Value) (read : Bool → List Char → Reading)
    (text : List Char) :
    change (readSigned read text) =
      readSigned (fun negative digits => change (read negative digits))
        text := by
  unfold readSigned
  split
  · rfl
  · rfl
  · rfl

/-- A number that is changed when it is read is scanned and changed. -/
theorem readSigned_eq_map_scanInteger {Value : Type u}
    {change : Int → Value} {read : Bool → List Char → Option Value}
    (changes :
      ∀ negative digits,
        read negative digits =
          (digitsNumber digits).map (change ∘ signed negative))
    (text : List Char) :
    readSigned read text = (scanInteger text).map change := by
  have same :
      read = fun negative digits =>
        ((digitsNumber digits).map (signed negative)).map change := by
    funext negative digits
    rw [changes, Option.map_map]
  rw [same]
  exact (apply_readSigned (Option.map change) _ text).symm

end Anbox.Foundation.ScannedNumber
