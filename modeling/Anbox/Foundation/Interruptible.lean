import Mathlib.Data.List.Basic

/-!
# Programs that may be interrupted

A program writes items to a state one after another and may fail at any point,
in which case what it has written stays.  An item may also be refused when it
is written.  How the program ends does not depend on the state.
-/

namespace Anbox.Foundation.Interruptible

universe u v

variable {Error State Value Next : Type u} {Item Element : Type v}
variable (write : State → Item → State) (accepts : Item → Prop)

/-- Write items until one of them is refused or the program ends. -/
def Performs (program : EStateM Error State Value) (items : List Item) :
    Prop :=
  ((∀ item ∈ items, accepts item) ∧
    ∃ value, ∀ state, program state = .ok value (items.foldl write state)) ∨
  ∃ error written, written <+: items ∧ (∀ item ∈ written, accepts item) ∧
    ∀ state, program state = .error error (written.foldl write state)

variable {write accepts}

theorem performs_pure (value : Value) :
    Performs write accepts (pure value : EStateM Error State Value) [] :=
  Or.inl ⟨by simp, value, fun _ => rfl⟩

/-- A program that fails at once may be said to write anything. -/
theorem performs_of_error {program : EStateM Error State Value}
    {error : Error} (fails : ∀ state, program state = .error error state)
    (items : List Item) :
    Performs write accepts program items :=
  Or.inr ⟨error, [], List.nil_prefix, by simp, fails⟩

theorem Performs.bind {program : EStateM Error State Value}
    {next : Value → EStateM Error State Next} {items more : List Item}
    (first : Performs write accepts program items)
    (second : ∀ value, Performs write accepts (next value) more) :
    Performs write accepts (program >>= next) (items ++ more) := by
  rcases first with ⟨accepted, value, ends⟩ |
    ⟨error, written, isPrefix, accepted, ends⟩
  · rcases second value with ⟨moreAccepted, result, endsNext⟩ |
      ⟨error, written, isPrefix, writtenAccepted, endsNext⟩
    · refine Or.inl ⟨?_, result, fun state => ?_⟩
      · intro item member
        rcases List.mem_append.mp member with old | new
        · exact accepted item old
        · exact moreAccepted item new
      · simp [Bind.bind, EStateM.bind, ends, endsNext]
    · refine Or.inr ⟨error, items ++ written,
        (List.prefix_append_right_inj items).mpr isPrefix, ?_,
        fun state => ?_⟩
      · intro item member
        rcases List.mem_append.mp member with old | new
        · exact accepted item old
        · exact writtenAccepted item new
      · simp [Bind.bind, EStateM.bind, ends, endsNext]
  · refine Or.inr ⟨error, written,
      isPrefix.trans (List.prefix_append items more), accepted,
      fun state => ?_⟩
    simp [Bind.bind, EStateM.bind, ends]

theorem Performs.forM {elements : List Element}
    {program : Element → EStateM Error State PUnit}
    {items : Element → List Item}
    (each :
      ∀ element, Performs write accepts (program element) (items element)) :
    Performs write accepts (elements.forM program)
      (elements.flatMap items) := by
  induction elements with
  | nil => exact performs_pure PUnit.unit
  | cons element elements inductionHypothesis =>
      exact (each element).bind fun _ => inductionHypothesis

/-- A program that ends normally does so from every state. -/
theorem Performs.ok {program : EStateM Error State Value}
    {items : List Item} (performs : Performs write accepts program items)
    {start reached : State} {value : Value}
    (ended : program start = .ok value reached) :
    (∀ item ∈ items, accepts item) ∧
      ∀ state, program state = .ok value (items.foldl write state) := by
  rcases performs with ⟨accepted, result, ends⟩ | ⟨error, written, -, -, ends⟩
  · rw [ends start] at ended
    cases ended
    exact ⟨accepted, ends⟩
  · rw [ends start] at ended
    cases ended

/-- A program that fails has not written an item that is refused. -/
theorem written_before {first rest written : List Item} {refused : Item}
    (isPrefix : written <+: first ++ refused :: rest)
    (absent : refused ∉ written) : written <+: first := by
  rcases List.prefix_or_prefix_of_prefix isPrefix
    (List.prefix_append first _) with inside | ⟨tail, rfl⟩
  · exact inside
  · have later := (List.prefix_append_right_inj first).mp isPrefix
    cases tail with
    | nil => simp
    | cons head tail =>
        obtain rfl := (List.cons_prefix_cons.mp later).1
        exact absurd (by simp) absent

end Anbox.Foundation.Interruptible
