import Mathlib.Data.List.Basic

/-!
# Counting the members of a list

How the number of elements with a property changes when one element of a list
is modified, and what follows if two such numbers are equal.
-/

namespace Anbox.Foundation.Counting

universe u

variable {Element : Type u}

/-- One element moves from `element` to `change element`. -/
theorem countP_modify {elements : List Element} {index : Nat}
    {element : Element} (found : elements[index]? = some element)
    (change : Element → Element) (property : Element → Bool) :
    (elements.modify index change).countP property +
        (if property element then 1 else 0) =
      elements.countP property +
        if property (change element) then 1 else 0 := by
  induction elements generalizing index with
  | nil => simp at found
  | cons head tail inductionHypothesis =>
      cases index with
      | zero =>
          cases found
          simp only [List.modify_zero_cons, List.countP_cons]
          omega
      | succ index =>
          have rest := inductionHypothesis (by simpa using found)
          simp only [List.modify_succ_cons, List.countP_cons]
          omega

/-- If as many elements have both properties as have the first, all do. -/
theorem forall_of_countP_le {elements : List Element}
    {first both : Element → Bool}
    (inside : ∀ element, both element → first element)
    (enough : elements.countP first ≤ elements.countP both) :
    ∀ element ∈ elements, first element → both element := by
  have counted :
      (elements.filter first).countP both =
        (elements.filter first).length := by
    apply Nat.le_antisymm List.countP_le_length
    rw [List.countP_filter, ← List.countP_eq_length_filter]
    refine Nat.le_trans enough (Nat.le_of_eq ?_)
    apply List.countP_congr
    intro element _
    constructor
    · intro holds
      simp [holds, inside element holds]
    · intro holds
      exact (Bool.and_eq_true_iff.mp holds).1
  intro element member holds
  exact List.countP_eq_length.mp counted element
    (List.mem_filter.mpr ⟨member, holds⟩)

/-- No more elements have a property than there are indices for them. -/
theorem countP_le_of_index_lt {elements : List Element} {bound : Nat}
    {property : Element → Bool}
    (low :
      ∀ index element, elements[index]? = some element →
        property element → index < bound) :
    elements.countP property ≤ bound := by
  have none : (elements.drop bound).countP property = 0 := by
    apply List.countP_eq_zero.mpr
    intro element member holds
    rcases List.mem_iff_getElem?.mp member with ⟨index, found⟩
    rw [List.getElem?_drop] at found
    have below := low (bound + index) element found holds
    omega
  calc
    elements.countP property
        = (elements.take bound ++ elements.drop bound).countP property := by
          rw [List.take_append_drop]
    _ = (elements.take bound).countP property := by
          rw [List.countP_append, none, Nat.add_zero]
    _ ≤ (elements.take bound).length := List.countP_le_length
    _ ≤ bound := List.length_take_le bound elements

end Anbox.Foundation.Counting
