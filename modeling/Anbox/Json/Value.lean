import Mathlib.Algebra.Order.Ring.Int
import Mathlib.Data.Rat.Defs

/-!
# Values of a parsed document

The values that the reader of JSON documents returns, with the conversions the
hardware services use.  A conversion fails an assertion of the reader's library
where the value does not have the type it is read as, which ends the process.

The reader tells signed from unsigned integers and keeps any other number as a
floating point value.
-/

namespace Anbox.Json

/-- A double that is not a NaN. -/
inductive Double where
  | finite (value : Rat)
  | infinite (negative : Bool)
deriving DecidableEq, Repr

inductive Value where
  | null
  | int (value : Int)
  | uint (value : Nat)
  | real (value : Double)
  | string (text : List UInt8)
  | boolean (value : Bool)
  | array (elements : List Value)
  | object (members : List (List UInt8 × Value))

/-- An assertion of the library does not hold. -/
inductive Fault where
  | assertion
deriving DecidableEq, Repr

def minInt : Int := -(2 ^ 31)
def maxInt : Int := 2 ^ 31 - 1
def maxUInt : Int := 2 ^ 32 - 1
def minInt64 : Int := -(2 ^ 63)
def maxInt64 : Int := 2 ^ 63 - 1
def maxUInt64 : Int := 2 ^ 64 - 1

namespace Value

def isBool : Value → Bool
  | .boolean _ => true
  | _ => false

/-- `isNumeric`: the value is a number of the document. -/
def isNumeric : Value → Bool
  | .int _ | .uint _ | .real _ => true
  | .null | .string _ | .boolean _ | .array _ | .object _ => false

/-- The integer that a number is, if it is one. -/
def integer : Value → Option Int
  | .int value => some value
  | .uint value => some value
  | .real (.finite value) => if value.den = 1 then some value.num else none
  | _ => none

/-- The value is an integer between these bounds. -/
def isIntegerIn (low high : Int) (value : Value) : Bool :=
  match value.integer with
  | some integer => low ≤ integer ∧ integer ≤ high
  | none => false

def isInt (value : Value) : Bool := value.isIntegerIn minInt maxInt
def isInt64 (value : Value) : Bool := value.isIntegerIn minInt64 maxInt64
def isUInt64 (value : Value) : Bool := value.isIntegerIn 0 maxUInt64

/-- `isConvertibleTo(realValue)`. -/
def isConvertibleToReal : Value → Bool
  | .null | .int _ | .uint _ | .real _ | .boolean _ => true
  | .string _ | .array _ | .object _ => false

/-- `isConvertibleTo(intValue)`. -/
def isConvertibleToInt : Value → Bool
  | .null | .boolean _ => true
  | .int value => minInt ≤ value ∧ value ≤ maxInt
  | .uint value => minInt ≤ (value : Int) ∧ (value : Int) ≤ maxInt
  | .real (.finite value) =>
      (minInt : Rat) ≤ value ∧ value ≤ (maxInt : Rat)
  | .real (.infinite _) | .string _ | .array _ | .object _ => false

/--
A conversion to an integer type with these bounds.  A floating point value
within the bounds is rounded towards zero.  The double `2^63` passes the check
of the library for a signed type, but its conversion is undefined; it counts
as a failure here.
-/
def asInteger (low high : Int) : Value → Except Fault Int
  | .null => .ok 0
  | .boolean value => .ok (if value then 1 else 0)
  | .int value =>
      if low ≤ value ∧ value ≤ high then .ok value else .error .assertion
  | .uint value =>
      if low ≤ value ∧ value ≤ high then .ok value else .error .assertion
  | .real (.finite value) =>
      if (low : Rat) ≤ value ∧ value ≤ high then
        .ok (value.num.tdiv value.den)
      else .error .assertion
  | .real (.infinite _) | .string _ | .array _ | .object _ =>
      .error .assertion

def asInt : Value → Except Fault Int := asInteger minInt maxInt
def asUInt : Value → Except Fault Int := asInteger 0 maxUInt
def asInt64 : Value → Except Fault Int := asInteger minInt64 maxInt64

/-- The conversion of numbers to `float` is left to the processor. -/
def asFloat {Float : Type} (toFloat : Value → Float) (value : Value) :
    Except Fault Float :=
  if value.isConvertibleToReal then .ok (toFloat value)
  else .error .assertion

/-- `asBool` of a value that `isBool`. -/
def asBool : Value → Bool
  | .boolean value => value
  | _ => false

/-- `operator[]` with an index; null has no elements. -/
def element (index : Nat) : Value → Except Fault Value
  | .null => .ok .null
  | .array elements => .ok (elements.getD index .null)
  | _ => .error .assertion

/-- `operator[]` with a name; null has no members. -/
def member (name : List UInt8) : Value → Except Fault Value
  | .null => .ok .null
  | .object members =>
      .ok (((members.find? fun entry => entry.1 = name).map Prod.snd).getD
        .null)
  | _ => .error .assertion

/-- What `operator[]` with an index yields for an array or null. -/
def elementAt (index : Nat) : Value → Value
  | .array elements => elements.getD index .null
  | _ => .null

/-- The value is an array or null, which has no elements. -/
def isIndexable : Value → Bool
  | .null | .array _ => true
  | _ => false

theorem isConvertibleToReal_of_isNumeric {value : Value}
    (isNumber : value.isNumeric = true) :
    value.isConvertibleToReal = true := by
  cases value with
  | int value => rfl
  | uint value => rfl
  | real value => rfl
  | null | string _ | boolean _ | array _ | object _ => cases isNumber

theorem isNumeric_of_integer {value : Value} {integer : Int}
    (isInteger : value.integer = some integer) :
    value.isNumeric = true := by
  cases value with
  | int value => rfl
  | uint value => rfl
  | real value => rfl
  | null | string _ | boolean _ | array _ | object _ => cases isInteger

theorem element_of_isIndexable {jval : Value}
    (indexable : jval.isIndexable = true) (index : Nat) :
    jval.element index = .ok (jval.elementAt index) := by
  cases jval with
  | null => rfl
  | array elements => rfl
  | _ => cases indexable

theorem element_of_not_isIndexable {jval : Value}
    (scalar : jval.isIndexable = false) (index : Nat) :
    jval.element index = .error .assertion := by
  cases jval with
  | null => cases scalar
  | array elements => cases scalar
  | _ => rfl

/-- The check and the conversion have the same bounds. -/
theorem asInt_of_isConvertibleToInt {jval : Value}
    (convertible : jval.isConvertibleToInt = true) :
    ∃ integer, jval.asInt = .ok integer := by
  cases jval with
  | null => exact ⟨0, rfl⟩
  | boolean value => exact ⟨_, rfl⟩
  | int value | uint value =>
      have inside := of_decide_eq_true convertible
      exact ⟨_, if_pos inside⟩
  | real value =>
      cases value with
      | finite value =>
          have inside := of_decide_eq_true convertible
          exact ⟨_, if_pos inside⟩
      | infinite negative => cases convertible
  | _ => cases convertible

/-! ## Integers -/

theorem isIntegerIn_iff {low high : Int} {value : Value} :
    value.isIntegerIn low high = true ↔
      ∃ integer, value.integer = some integer ∧
        low ≤ integer ∧ integer ≤ high := by
  unfold isIntegerIn
  cases value.integer with
  | none => simp
  | some integer => simp

/-- An integer within the bounds converts to itself. -/
theorem asInteger_of_integer {low high integer : Int} {value : Value}
    (same : value.integer = some integer)
    (above : low ≤ integer) (below : integer ≤ high) :
    value.asInteger low high = .ok integer := by
  cases value with
  | int value | uint value =>
      simp only [Value.integer, Option.some.injEq] at same
      subst same
      simp [asInteger, above, below]
  | real value =>
      cases value with
      | infinite negative => cases same
      | finite value =>
          simp only [Value.integer] at same
          split at same
          · next whole =>
            cases same
            have equal : value = (value.num : Rat) :=
              ((Rat.den_eq_one_iff value).mp whole).symm
            rw [asInteger, if_pos, whole]
            · simp
            · rw [equal]
              exact ⟨Rat.intCast_le_intCast.mpr above,
                Rat.intCast_le_intCast.mpr below⟩
          · cases same
  | _ => cases same

/-- An integer that converts is within the bounds. -/
theorem isIntegerIn_of_asInteger {low high integer : Int} {value : Value}
    (converted : value.asInteger low high = .ok integer)
    (same : value.integer = some integer) :
    value.isIntegerIn low high = true := by
  apply isIntegerIn_iff.mpr
  refine ⟨integer, same, ?_⟩
  cases value with
  | int value | uint value =>
      cases same
      simp only [asInteger] at converted
      split at converted
      · next inside => exact inside
      · cases converted
  | real value =>
      cases value with
      | infinite negative => cases same
      | finite value =>
          simp only [Value.integer] at same
          split at same
          · next whole =>
            cases same
            have equal : value = (value.num : Rat) :=
              ((Rat.den_eq_one_iff value).mp whole).symm
            simp only [asInteger] at converted
            split at converted
            · next inside =>
              rw [equal] at inside
              exact ⟨Rat.intCast_le_intCast.mp inside.1,
                Rat.intCast_le_intCast.mp inside.2⟩
            · cases converted
          · cases same
  | _ => cases same

theorem asInteger_of_isIntegerIn {low high : Int} {value : Value}
    (fits : value.isIntegerIn low high = true) :
    ∃ integer, value.integer = some integer ∧
      value.asInteger low high = .ok integer := by
  rcases isIntegerIn_iff.mp fits with ⟨integer, same, above, below⟩
  exact ⟨integer, same, asInteger_of_integer same above below⟩

end Value

end Anbox.Json
