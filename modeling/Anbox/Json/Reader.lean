import Anbox.Foundation.JsonText
import Anbox.Json.Value

/-!
# The values of JSON texts

What the reader of JSON documents makes of a text.  A number without fraction
and exponent is an integer if it fits into 64 bits.  Of the members with one
name the last one counts.  The conversion of decimal numbers to floating point
is left to the reader's library.
-/

namespace Anbox.Json.Reader

open Anbox.Foundation
open Anbox.Foundation.JsonText hiding Value

variable (decodeDouble : Text → Double)

def decodeNumber (literal : Text) : Json.Value :=
  if literal.head? = some 0x2d then
    let row := literal.tail
    if row.all isDigit ∧ (fromDigits row : Int) ≤ -minInt64 then
      .int (-fromDigits row)
    else .real (decodeDouble literal)
  else if literal.all isDigit ∧ (fromDigits literal : Int) ≤ maxUInt64 then
    if (fromDigits literal : Int) ≤ maxInt then .int (fromDigits literal)
    else .uint (fromDigits literal)
  else .real (decodeDouble literal)

theorem decodeNumber_ne_string (literal content : Text) :
    decodeNumber decodeDouble literal ≠ .string content := by
  unfold decodeNumber
  split
  · simp only
    split
    · simp
    · simp
  · split
    · split
      · simp
      · simp
    · simp

mutual

def decode : JsonText.Value → Json.Value
  | .null => .null
  | .boolean value => .boolean value
  | .number literal => decodeNumber decodeDouble literal
  | .string content => .string content
  | .array elements => .array (decodeElements elements)
  | .object members => .object (decodeMembers members).reverse

def decodeElements : List JsonText.Value → List Json.Value
  | [] => []
  | element :: elements => decode element :: decodeElements elements

def decodeMembers :
    List (Text × JsonText.Value) → List (Text × Json.Value)
  | [] => []
  | (name, value) :: members => (name, decode value) :: decodeMembers members

end

theorem decodeElements_eq_map (elements : List JsonText.Value) :
    decodeElements decodeDouble elements =
      elements.map (decode decodeDouble) := by
  induction elements with
  | nil => rw [decodeElements, List.map_nil]
  | cons element elements inductionHypothesis =>
      rw [decodeElements, List.map_cons, inductionHypothesis]

/-- An integer of 64 bits is read as it was printed. -/
theorem integer_decodeNumber_decimal {value : Int}
    (above : minInt64 ≤ value) (below : value ≤ maxInt64) :
    (decodeNumber decodeDouble (decimal value)).integer = some value := by
  cases value with
  | ofNat value =>
      have all : (digits value).all isDigit = true :=
        List.all_eq_true.mpr fun _ => isDigit_of_mem_digits
      have notMinus : (digits value).head? ≠ some 0x2d := by
        intro minus
        exact absurd (isDigit_of_mem_digits (List.mem_of_mem_head? minus))
          (by decide)
      have fits : (value : Int) ≤ maxUInt64 :=
        le_trans below (by decide)
      rw [decimal, decodeNumber, if_neg notMinus, fromDigits_digits,
        if_pos ⟨all, fits⟩]
      split
      · rfl
      · rfl
  | negSucc value =>
      have all : (digits (value + 1)).all isDigit = true :=
        List.all_eq_true.mpr fun _ => isDigit_of_mem_digits
      have fits : ((value + 1 : Nat) : Int) ≤ -minInt64 := by
        rw [← Int.neg_negSucc]
        exact Int.neg_le_neg above
      rw [decimal, decodeNumber, List.head?_cons, if_pos rfl]
      simp only [List.tail_cons, fromDigits_digits, all, fits, and_self,
        if_true]
      rfl

/-- `asString` fails an assertion on containers. -/
def asString (realText : Double → Text) : Json.Value → Except Fault Text
  | .null => .ok []
  | .boolean value => .ok (ascii (if value then "true" else "false"))
  | .int value => .ok (decimal value)
  | .uint value => .ok (decimal value)
  | .real value => .ok (realText value)
  | .string text => .ok text
  | .array _ | .object _ => .error .assertion

end Anbox.Json.Reader
