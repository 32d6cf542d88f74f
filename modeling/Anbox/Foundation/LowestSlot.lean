import Mathlib.Data.List.Sort

/-!
# The lowest slot that is acceptable

A table with finitely many slots is searched from its lowest slot up, and the
search stops at the first slot that is accepted.
-/

namespace Anbox.Foundation.LowestSlot

variable {count : Nat}

/--
The slot is the lowest one that is acceptable, and if there is no slot then
none is.
-/
def IsLowest (accepted : Fin count → Prop) : Option (Fin count) → Prop
  | some slot => accepted slot ∧ ∀ lower, lower < slot → ¬accepted lower
  | none => ∀ slot, ¬accepted slot

/-- There is only one lowest slot. -/
theorem IsLowest.unique {accepted : Fin count → Prop}
    {first second : Option (Fin count)}
    (firstLowest : IsLowest accepted first)
    (secondLowest : IsLowest accepted second) : first = second := by
  cases first with
  | none =>
      cases second with
      | none => rfl
      | some slot => exact absurd secondLowest.1 (firstLowest slot)
  | some left =>
      cases second with
      | none => exact absurd firstLowest.1 (secondLowest left)
      | some right =>
          rcases Nat.lt_trichotomy left.val right.val with
            lower | same | higher
          · exact absurd firstLowest.1 (secondLowest.2 left lower)
          · exact congrArg some (Fin.ext same)
          · exact absurd secondLowest.1 (firstLowest.2 right higher)

/-- Only which slots are acceptable matters. -/
theorem isLowest_congr {accepted other : Fin count → Prop}
    (same : ∀ slot, accepted slot ↔ other slot)
    (found : Option (Fin count)) :
    IsLowest accepted found ↔ IsLowest other found := by
  have equal : accepted = other := funext fun slot => propext (same slot)
  rw [equal]

/-- A search from the lowest slot up finds the lowest slot. -/
theorem isLowest_find? (accepts : Fin count → Bool) :
    IsLowest (fun slot => accepts slot = true)
      ((List.finRange count).find? accepts) := by
  cases found : (List.finRange count).find? accepts with
  | none =>
      intro slot accepted
      exact List.find?_eq_none.mp found slot (List.mem_finRange slot) accepted
  | some slot =>
      rcases List.find?_eq_some_iff_append.mp found with
        ⟨accepted, before, after, split, refused⟩
      refine ⟨accepted, ?_⟩
      intro lower isLower lowerAccepted
      have sorted := (List.sortedLT_finRange count).pairwise
      rw [split, List.pairwise_append] at sorted
      have member : lower ∈ before ++ slot :: after :=
        split ▸ List.mem_finRange lower
      rcases List.mem_append.mp member with earlier | later
      · simpa [lowerAccepted] using refused lower earlier
      · rcases List.mem_cons.mp later with rfl | behind
        · exact lt_irrefl lower isLower
        · have above : slot < lower :=
            List.rel_of_pairwise_cons sorted.2.1 behind
          exact lt_asymm isLower above

end Anbox.Foundation.LowestSlot
