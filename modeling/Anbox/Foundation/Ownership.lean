import Mathlib.Data.List.Basic

/-!
# Objects and their makers

Owners make objects under names and hold the names of what they have made.  An
object may go away without its maker noticing, so an owner may hold the name
of an object that is no longer there.  As long as no name is made twice, an
owner still holds exactly its own among the objects that are there.
-/

namespace Anbox.Foundation.Ownership

universe u v

variable {Owner : Type u} {Name : Type v}
variable {live : Name → Prop} {holds : Owner → Name → Prop}
variable {made : List (Owner × Name)}

/-- The objects that are there, the names held and the names ever made. -/
structure Attributed (live : Name → Prop) (holds : Owner → Name → Prop)
    (made : List (Owner × Name)) : Prop where
  known : ∀ name, live name → ∃ owner, (owner, name) ∈ made
  kept :
    ∀ owner name, (owner, name) ∈ made → live name → holds owner name
  own : ∀ owner name, holds owner name → (owner, name) ∈ made
  unique :
    ∀ first second name,
      (first, name) ∈ made → (second, name) ∈ made → first = second

theorem attributed_nil (nothing : ∀ name, ¬live name)
    (nobody : ∀ owner name, ¬holds owner name) :
    Attributed live holds [] := by
  constructor
  case known =>
    intro name present
    exact absurd present (nothing name)
  case kept =>
    intro owner name member
    cases member
  case own =>
    intro owner name held
    exact absurd held (nobody owner name)
  case unique =>
    intro first second name member
    cases member

/-- Among the objects that are there, an owner holds what it has made. -/
theorem Attributed.holds_iff (attributed : Attributed live holds made)
    {owner : Owner} {name : Name} (present : live name) :
    holds owner name ↔ (owner, name) ∈ made := by
  constructor
  · exact attributed.own owner name
  · intro member
    exact attributed.kept owner name member present

/-- Objects may go away, and names that nothing has any more may be dropped. -/
theorem Attributed.forget {fewer : Name → Prop}
    {holdsFewer : Owner → Name → Prop}
    (attributed : Attributed live holds made)
    (still : ∀ name, fewer name → live name)
    (held : ∀ owner name, holdsFewer owner name → holds owner name)
    (keeps :
      ∀ owner name, holds owner name → fewer name → holdsFewer owner name) :
    Attributed fewer holdsFewer made where
  known := fun name present => attributed.known name (still name present)
  kept := by
    intro owner name member present
    exact keeps owner name
      (attributed.kept owner name member (still name present)) present
  own := fun owner name held' =>
    attributed.own owner name (held owner name held')
  unique := attributed.unique

/-- An owner makes an object under a name that was never made before. -/
theorem Attributed.make {more : Name → Prop}
    {holdsMore : Owner → Name → Prop}
    (attributed : Attributed live holds made) {maker : Owner} {new : Name}
    (fresh : ∀ owner, (owner, new) ∉ made)
    (present : ∀ name, more name → name = new ∨ live name)
    (held :
      ∀ owner name,
        holdsMore owner name ↔
          (owner = maker ∧ name = new) ∨ holds owner name) :
    Attributed more holdsMore (made ++ [(maker, new)]) where
  known := by
    intro name there
    rcases present name there with rfl | before
    · exact ⟨maker, List.mem_append_right made List.mem_cons_self⟩
    · rcases attributed.known name before with ⟨owner, member⟩
      exact ⟨owner, List.mem_append_left _ member⟩
  kept := by
    intro owner name member there
    apply (held owner name).mpr
    rcases List.mem_append.mp member with earlier | last
    · rcases present name there with rfl | before
      · exact absurd earlier (fresh owner)
      · exact Or.inr (attributed.kept owner name earlier before)
    · cases List.mem_singleton.mp last
      exact Or.inl ⟨rfl, rfl⟩
  own := by
    intro owner name there
    rcases (held owner name).mp there with ⟨rfl, rfl⟩ | before
    · exact List.mem_append_right made List.mem_cons_self
    · exact List.mem_append_left _ (attributed.own owner name before)
  unique := by
    intro first second name firstMember secondMember
    rcases List.mem_append.mp firstMember with earlier | last
    · rcases List.mem_append.mp secondMember with before | newest
      · exact attributed.unique first second name earlier before
      · cases List.mem_singleton.mp newest
        exact absurd earlier (fresh first)
    · cases List.mem_singleton.mp last
      rcases List.mem_append.mp secondMember with before | newest
      · exact absurd before (fresh second)
      · cases List.mem_singleton.mp newest
        rfl

end Anbox.Foundation.Ownership
