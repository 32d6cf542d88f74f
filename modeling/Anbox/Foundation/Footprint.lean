import Mathlib.Data.Set.Basic
import Mathlib.Logic.Function.Basic

/-!
# Footprints

Owners own places, and a computation works on the places of some of them: its
footprint.  `Confined` says that a computation leaves the places outside of its
footprint alone and gets only places that nothing was stored in.  Computations
with this property can be put one after another and side by side with what
they do not touch, and owners that have no place in common before one of them
works have none in common afterwards.
-/

namespace Anbox.Foundation.Footprint

universe u v w

variable {Owner : Type u} {Place : Type v} {Content : Type w}

/--
What a computation may do to the store: it starts with the places `before`, and
ends with the places `after`.
-/
structure Confined (before : Set Place) (store : Place → Option Content)
    (after : Set Place) (store' : Place → Option Content) : Prop where
  kept :
    ∀ place content, place ∉ before → store place = some content →
      store' place = some content
  acquired : ∀ place, place ∈ after → place ∈ before ∨ store place = none

namespace Confined

variable {before between after : Set Place}
  {store store' store'' : Place → Option Content}

/-- Without a change of the store, places may still be given away. -/
theorem still (subset : after ⊆ before) (store : Place → Option Content) :
    Confined before store after store where
  kept := fun _ _ _ stored => stored
  acquired := fun _ owned => Or.inl (subset owned)

/-- A place where something else is stored is not taken. -/
theorem not_taken (confined : Confined before store after store')
    {place : Place} {content : Content} (outside : place ∉ before)
    (stored : store place = some content) : place ∉ after := by
  intro taken
  rcases confined.acquired place taken with own | nothing
  · exact outside own
  · rw [stored] at nothing
    cases nothing

theorem trans (first : Confined before store between store')
    (second : Confined between store' after store'') :
    Confined before store after store'' where
  kept := by
    intro place content outside stored
    exact second.kept place content (first.not_taken outside stored)
      (first.kept place content outside stored)
  acquired := by
    intro place owned
    rcases second.acquired place owned with earlier | nothing
    · exact first.acquired place earlier
    · by_cases inside : place ∈ before
      · exact Or.inl inside
      · cases stored : store place with
        | none => exact Or.inr rfl
        | some content =>
            rw [first.kept place content inside stored] at nothing
            cases nothing

/-- A computation can be seen as one with more places than it works on. -/
theorem beside (confined : Confined before store after store')
    (more : Set Place) :
    Confined (before ∪ more) store (after ∪ more) store' where
  kept := by
    intro place content outside stored
    exact confined.kept place content
      (fun owned => outside (Or.inl owned)) stored
  acquired := by
    rintro place (owned | owned)
    · exact (confined.acquired place owned).imp_left Or.inl
    · exact Or.inl (Or.inr owned)

/-- Storing something in an own place is confined. -/
theorem update [DecidableEq Place] {place : Place} (own : place ∈ before)
    (subset : after ⊆ before) (content : Option Content) :
    Confined before store after (Function.update store place content) where
  kept := by
    intro other stored outside there
    have different : other ≠ place := by
      rintro rfl
      exact outside own
    rwa [Function.update_of_ne different]
  acquired := fun _ owned => Or.inl (subset owned)

end Confined

/-- No two owners have a place in common. -/
def Separate (owned : Owner → Set Place) : Prop :=
  ∀ first second place,
    place ∈ owned first → place ∈ owned second → first = second

/-- Something is stored in every place that has an owner. -/
def Backed (owned : Owner → Set Place) (store : Place → Option Content) :
    Prop :=
  ∀ owner place, place ∈ owned owner → store place ≠ none

variable {owned owned' : Owner → Set Place}
  {before after : Set Place} {store store' : Place → Option Content}
  {movers : Set Owner}

/-- What an owner that takes no part has stored stays as it is. -/
theorem Confined.untouched (confined : Confined before store after store')
    (separate : Separate owned)
    (within : ∀ place, place ∈ before → ∃ owner ∈ movers, place ∈ owned owner)
    {owner : Owner} (outside : owner ∉ movers) {place : Place}
    (own : place ∈ owned owner) {content : Content}
    (stored : store place = some content) :
    store' place = some content := by
  refine confined.kept place content ?_ stored
  intro inside
  rcases within place inside with ⟨mover, moves, foreign⟩
  rw [separate mover owner place foreign own] at moves
  exact outside moves

/-- Owners stay separate if those that take part do. -/
theorem Confined.separate (confined : Confined before store after store')
    (separate : Separate owned) (backed : Backed owned store)
    (within : ∀ place, place ∈ before → ∃ owner ∈ movers, place ∈ owned owner)
    (others : ∀ owner, owner ∉ movers → owned' owner = owned owner)
    (inside : ∀ owner ∈ movers, owned' owner ⊆ after)
    (apart :
      ∀ first ∈ movers, ∀ second ∈ movers, ∀ place,
        place ∈ owned' first → place ∈ owned' second → first = second) :
    Separate owned' := by
  have mixed : ∀ mover ∈ movers, ∀ owner ∉ movers, ∀ place,
      place ∈ owned' mover → place ∉ owned' owner := by
    intro mover moves owner stays place taken own
    rw [others owner stays] at own
    rcases confined.acquired place (inside mover moves taken) with old | new
    · rcases within place old with ⟨former, moved, had⟩
      rw [separate former owner place had own] at moved
      exact stays moved
    · exact backed owner place own new
  intro first second place firstOwns secondOwns
  by_cases firstMoves : first ∈ movers
  · by_cases secondMoves : second ∈ movers
    · exact apart first firstMoves second secondMoves place firstOwns
        secondOwns
    · exact absurd secondOwns
        (mixed first firstMoves second secondMoves place firstOwns)
  · by_cases secondMoves : second ∈ movers
    · exact absurd firstOwns
        (mixed second secondMoves first firstMoves place secondOwns)
    · rw [others first firstMoves] at firstOwns
      rw [others second secondMoves] at secondOwns
      exact separate first second place firstOwns secondOwns

end Anbox.Foundation.Footprint
