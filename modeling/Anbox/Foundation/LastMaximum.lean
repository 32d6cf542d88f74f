import Mathlib.Data.List.Induction
import Mathlib.Order.Lattice

/-!
# The last element of maximal value

A list is gone through once, and an element takes the place of the best one so
far unless its value is smaller.  What remains is the last of the elements
whose value is maximal.
-/

namespace Anbox.Foundation.LastMaximum

universe u v

variable {Element : Type u} {Value : Type v} [LinearOrder Value]

/-- No earlier element has a larger value, and all later ones a smaller one. -/
def IsLastMaximum (value : Element → Value) (elements : List Element)
    (best : Element) : Prop :=
  ∃ before after, elements = before ++ best :: after ∧
    (∀ earlier ∈ before, value earlier ≤ value best) ∧
      ∀ later ∈ after, value later < value best

/-- An element is kept unless the next one is at least as good. -/
def keepLarger (value : Element → Value) (best : Option Element)
    (next : Element) : Option Element :=
  match best with
  | none => some next
  | some kept => if value next < value kept then some kept else some next

def lastMaximum (value : Element → Value) (elements : List Element) :
    Option Element :=
  elements.foldl (keepLarger value) none

namespace IsLastMaximum

variable {value : Element → Value} {elements : List Element}
variable {best next : Element}

theorem mem (isLast : IsLastMaximum value elements best) :
    best ∈ elements := by
  rcases isLast with ⟨before, after, rfl, _, _⟩
  exact List.mem_append_right before List.mem_cons_self

/-- The value is an upper bound. -/
theorem le (isLast : IsLastMaximum value elements best) {other : Element}
    (member : other ∈ elements) : value other ≤ value best := by
  rcases isLast with ⟨before, after, rfl, earlier, later⟩
  rcases List.mem_append.mp member with inBefore | inRest
  · exact earlier other inBefore
  · rcases List.mem_cons.mp inRest with rfl | inAfter
    · exact le_rfl
    · exact le_of_lt (later other inAfter)

/-- A smaller element at the end changes nothing. -/
theorem append_smaller (isLast : IsLastMaximum value elements best)
    (smaller : value next < value best) :
    IsLastMaximum value (elements ++ [next]) best := by
  rcases isLast with ⟨before, after, rfl, earlier, later⟩
  refine ⟨before, after ++ [next], by simp, earlier, ?_⟩
  intro element member
  rcases List.mem_append.mp member with old | new
  · exact later element old
  · rw [List.mem_singleton.mp new]
    exact smaller

/-- An element at the end that is at least as good is the last maximum. -/
theorem append_larger (bounded : ∀ element ∈ elements,
      value element ≤ value next) :
    IsLastMaximum value (elements ++ [next]) next :=
  ⟨elements, [], rfl, bounded, nofun⟩

end IsLastMaximum

theorem lastMaximum_append_singleton (value : Element → Value)
    (elements : List Element) (next : Element) :
    lastMaximum value (elements ++ [next]) =
      keepLarger value (lastMaximum value elements) next := by
  simp [lastMaximum]

/-- The element that is kept is the last maximum, if there are elements. -/
theorem lastMaximum_cases (value : Element → Value)
    (elements : List Element) :
    lastMaximum value elements = none ∧ elements = [] ∨
      ∃ best, lastMaximum value elements = some best ∧
        IsLastMaximum value elements best := by
  induction elements using List.reverseRecOn with
  | nil => exact Or.inl ⟨rfl, rfl⟩
  | append_singleton elements next inductionHypothesis =>
      right
      rw [lastMaximum_append_singleton]
      rcases inductionHypothesis with ⟨none, empty⟩ | ⟨best, some, isLast⟩
      · subst empty
        exact ⟨next, by rw [none]; rfl, IsLastMaximum.append_larger nofun⟩
      · rw [some]
        by_cases smaller : value next < value best
        · exact ⟨best, if_pos smaller, isLast.append_smaller smaller⟩
        · refine ⟨next, if_neg smaller, IsLastMaximum.append_larger ?_⟩
          intro element member
          exact le_trans (isLast.le member) (not_lt.mp smaller)

end Anbox.Foundation.LastMaximum
