import Mathlib.Data.Int.ModEq
import Mathlib.Algebra.Order.Ring.Int
import Mathlib.Tactic.Positivity
import Mathlib.Tactic.Ring

/-!
# Numerals of a fixed width

A numeral of a fixed width has one symbol for each power of the base, the
highest power first.  Writing a number loses what does not fit, and reading
fails at the first symbol that is not a digit.
-/

namespace Anbox.Foundation.FixedNumerals

universe u

variable {Symbol : Type u} {base : Nat}

/-- The lowest `width` digits of a number. -/
def writeNumeral (symbol : Nat → Symbol) (base : Nat) (value : Int) :
    Nat → List Symbol
  | 0 => []
  | width + 1 =>
      symbol (value / base ^ width % base).toNat ::
        writeNumeral symbol base value width

/-- Continue the number read so far. -/
def readNumeralFrom (digit : Symbol → Option Nat) (base : Nat) :
    Nat → List Symbol → Option Nat
  | value, [] => some value
  | value, head :: tail =>
      match digit head with
      | none => none
      | some found => readNumeralFrom digit base (base * value + found) tail

def readNumeral (digit : Symbol → Option Nat) (base : Nat)
    (numeral : List Symbol) : Option Nat :=
  readNumeralFrom digit base 0 numeral

@[simp]
theorem length_writeNumeral (symbol : Nat → Symbol) (value : Int)
    (width : Nat) : (writeNumeral symbol base value width).length = width := by
  induction width with
  | zero => rfl
  | succ width inductionHypothesis => simp [writeNumeral, inductionHypothesis]

/-- One more digit in front of a remainder. -/
theorem emod_pow_succ (positive : 0 < base) (value : Int) (width : Nat) :
    value % base ^ (width + 1) =
      base ^ width * (value / base ^ width % base) + value % base ^ width := by
  have power : (0 : Int) < base ^ width := by positivity
  have split := Int.mul_ediv_add_emod value (base ^ width)
  have splitQuotient :=
    Int.mul_ediv_add_emod (value / base ^ width) base
  have low := Int.emod_lt_of_pos value power
  have nonneg := Int.emod_nonneg value power.ne'
  have digitNonneg :
      0 ≤ value / (base : Int) ^ width % base :=
    Int.emod_nonneg _ (by positivity)
  have digitLow : value / (base : Int) ^ width % base ≤ base - 1 := by
    have below :=
      Int.emod_lt_of_pos (value / (base : Int) ^ width)
        (show (0 : Int) < base by positivity)
    omega
  have whole :
      value =
        base ^ width * (value / base ^ width % base) +
            value % base ^ width +
          base ^ (width + 1) * (value / base ^ width / base) := by
    calc
      value = base ^ width * (value / base ^ width) +
          value % base ^ width := split.symm
      _ = base ^ width *
            (base * (value / base ^ width / base) +
              value / base ^ width % base) +
          value % base ^ width := by rw [splitQuotient]
      _ = _ := by ring
  have scaled :
      (base : Int) ^ width * (value / base ^ width % base) ≤
        base ^ width * (base - 1) :=
    Int.mul_le_mul_of_nonneg_left digitLow power.le
  have scaledNonneg :
      0 ≤ (base : Int) ^ width * (value / base ^ width % base) :=
    Int.mul_nonneg power.le digitNonneg
  have expanded :
      (base : Int) ^ width * (base - 1) =
        base ^ (width + 1) - base ^ width := by
    ring
  rw [whole, Int.add_mul_emod_self_left, ← whole]
  exact Int.emod_eq_of_lt (by omega) (by omega)

/-- A numeral that was written is read as what did fit. -/
theorem readNumeralFrom_writeNumeral {symbol : Nat → Symbol}
    {digit : Symbol → Option Nat}
    (positive : 0 < base)
    (known : ∀ found, found < base → digit (symbol found) = some found)
    (start : Nat) (value : Int) (width : Nat) :
    readNumeralFrom digit base start
        (writeNumeral symbol base value width) =
      some (start * base ^ width + (value % base ^ width).toNat) := by
  induction width generalizing start with
  | zero => simp [writeNumeral, readNumeralFrom]
  | succ width inductionHypothesis =>
      have digitNonneg :
          0 ≤ value / (base : Int) ^ width % base :=
        Int.emod_nonneg _ (by positivity)
      have digitLow :=
        Int.emod_lt_of_pos (value / (base : Int) ^ width)
          (show (0 : Int) < base by positivity)
      have restNonneg : 0 ≤ value % (base : Int) ^ width :=
        Int.emod_nonneg _ (by positivity)
      obtain ⟨found, foundEq⟩ := Int.eq_ofNat_of_zero_le digitNonneg
      obtain ⟨rest, restEq⟩ := Int.eq_ofNat_of_zero_le restNonneg
      have below : found < base := by
        rw [foundEq] at digitLow
        exact_mod_cast digitLow
      have joined := emod_pow_succ positive value width
      rw [foundEq, restEq] at joined
      rw [writeNumeral, foundEq, readNumeralFrom, Int.toNat_natCast,
        known found below]
      simp only
      rw [inductionHypothesis, restEq, joined]
      have cast :
          ((base : Int) ^ width * found + rest).toNat =
            base ^ width * found + rest := by
        exact_mod_cast Int.toNat_natCast (base ^ width * found + rest)
      rw [cast, Int.toNat_natCast]
      congr 1
      ring

theorem readNumeral_writeNumeral {symbol : Nat → Symbol}
    {digit : Symbol → Option Nat} (positive : 0 < base)
    (known : ∀ found, found < base → digit (symbol found) = some found)
    (value : Int) (width : Nat) :
    readNumeral digit base (writeNumeral symbol base value width) =
      some (value % base ^ width).toNat := by
  have reads := readNumeralFrom_writeNumeral positive known 0 value width
  rwa [Nat.zero_mul, Nat.zero_add] at reads

end Anbox.Foundation.FixedNumerals
