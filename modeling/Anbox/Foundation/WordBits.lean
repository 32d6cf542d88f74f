import Mathlib.Algebra.Order.Ring.Nat

/-!
# Words and their bits

A field of a word is a range of its bits.  A word has only zeros, or only ones,
from some bit on if its number is small, or large.
-/

namespace Anbox.Foundation.WordBits

variable {width : Nat}

/-- The bits from the first index up to, but not including, the second. -/
def field (width low high : Nat) : BitVec width :=
  BitVec.allOnes width <<< low &&& ~~~(BitVec.allOnes width <<< high)

theorem getLsbD_field {low high index : Nat} (inside : index < width) :
    (field width low high).getLsbD index =
      (decide (low ≤ index) && decide (index < high)) := by
  simp only [field, BitVec.getLsbD_and, BitVec.getLsbD_not,
    BitVec.getLsbD_shiftLeft, BitVec.getLsbD_allOnes, inside]
  by_cases reached : low ≤ index
  · have start : index - low < width := by omega
    by_cases passed : index < high
    · simp [passed, reached, start]
    · have rest : index - high < width := by omega
      simp [passed, rest]
  · simp [reached, Nat.lt_of_not_le reached]

/-- A word that keeps its sign repeats its last bit. -/
theorem getLsbD_signExtend_eq (word : BitVec width) {longer index : Nat}
    (inside : index < longer) :
    (word.signExtend longer).getLsbD index =
      word.getLsbD (min index (width - 1)) := by
  rw [BitVec.getLsbD_signExtend, BitVec.msb_eq_getLsbD_last,
    decide_eq_true inside, Bool.true_and]
  split
  · rename_i old
    rw [Nat.min_eq_left (Nat.le_sub_one_of_lt old)]
  · rename_i new
    have beyond : width - 1 ≤ index := by omega
    rw [Nat.min_eq_right beyond]

/-- Two words have no bit in common. -/
theorem and_eq_zero_iff {first second : BitVec width} :
    first &&& second = 0 ↔
      ∀ index < width, first.getLsbD index = true →
        second.getLsbD index = false := by
  rw [BitVec.eq_of_getLsbD_eq_iff]
  apply forall₂_congr
  intro index inside
  rw [BitVec.getLsbD_and, BitVec.ofNat_eq_ofNat, BitVec.getLsbD_zero]
  cases first.getLsbD index <;> simp

theorem toNat_lt_two_pow_iff {word : BitVec width} {count : Nat} :
    word.toNat < 2 ^ count ↔
      ∀ index < width, count ≤ index → word.getLsbD index = false := by
  constructor
  · intro small index _ reached
    rw [← BitVec.testBit_toNat]
    apply Nat.testBit_lt_two_pow
    exact small.trans_le (Nat.pow_le_pow_right Nat.two_pos reached)
  · intro zeros
    apply Nat.lt_pow_two_of_testBit
    intro index reached
    rw [BitVec.testBit_toNat]
    by_cases inside : index < width
    · exact zeros index inside reached
    · exact BitVec.getLsbD_of_ge word index (Nat.le_of_not_lt inside)

theorem two_pow_sub_le_toNat_iff {word : BitVec width} {count : Nat} :
    2 ^ width - 2 ^ count ≤ word.toNat ↔
      ∀ index < width, count ≤ index → word.getLsbD index = true := by
  have complement :
      2 ^ width - 2 ^ count ≤ word.toNat ↔ (~~~word).toNat < 2 ^ count := by
    rw [BitVec.toNat_not]
    have bounded := word.isLt
    have positive := Nat.two_pow_pos count
    omega
  rw [complement, toNat_lt_two_pow_iff]
  apply forall₂_congr
  intro index inside
  simp [inside]

end Anbox.Foundation.WordBits
