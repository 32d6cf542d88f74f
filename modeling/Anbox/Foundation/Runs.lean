import Mathlib.Data.List.Basic
import Mathlib.Data.List.Induction

/-!
# Runs of a deterministic step function

A component is given by a total step function.  A run is a list of labels, so
every prefix of a run is a run and a property of all final states is a
property of all states reached on the way.

`Admitted` restricts a run step by step: each label has to be acceptable in
the state in which it is taken.  The invariant rules below are the only place
where the induction over a run is carried out.
-/

namespace Anbox.Foundation.Runs

universe u v

variable {State : Type u} {Label : Type v}

/-- The state reached from `start` by taking the labels one after another. -/
def runFrom (step : State → Label → State)
    (start : State) (labels : List Label) : State :=
  labels.foldl step start

@[simp]
theorem runFrom_nil (step : State → Label → State) (start : State) :
    runFrom step start [] = start :=
  rfl

@[simp]
theorem runFrom_cons (step : State → Label → State)
    (start : State) (label : Label) (labels : List Label) :
    runFrom step start (label :: labels) =
      runFrom step (step start label) labels :=
  rfl

theorem runFrom_append (step : State → Label → State)
    (start : State) (first second : List Label) :
    runFrom step start (first ++ second) =
      runFrom step (runFrom step start first) second := by
  simp [runFrom]

/-- A property kept by every step holds after every run. -/
theorem run_invariant
    {step : State → Label → State} {Invariant : State → Prop}
    (preserved :
      ∀ current label, Invariant current → Invariant (step current label))
    {start : State} (initial : Invariant start) (labels : List Label) :
    Invariant (runFrom step start labels) := by
  induction labels generalizing start with
  | nil => exact initial
  | cons label labels inductionHypothesis =>
      exact inductionHypothesis (preserved start label initial)

/-- Every label of the run is admitted by the state in which it is taken. -/
def Admitted (step : State → Label → State)
    (admits : State → Label → Prop) : State → List Label → Prop
  | _, [] => True
  | current, label :: labels =>
      admits current label ∧ Admitted step admits (step current label) labels

instance Admitted.decidable (step : State → Label → State)
    (admits : State → Label → Prop)
    [∀ current label, Decidable (admits current label)] :
    (start : State) → (labels : List Label) →
      Decidable (Admitted step admits start labels)
  | _, [] => isTrue trivial
  | start, label :: labels =>
      have := Admitted.decidable step admits (step start label) labels
      inferInstanceAs (Decidable (_ ∧ _))

/-- A property kept by every admitted step holds after every admitted run. -/
theorem Admitted.invariant
    {step : State → Label → State} {admits : State → Label → Prop}
    {Invariant : State → Prop}
    (preserved :
      ∀ current label,
        Invariant current → admits current label →
          Invariant (step current label))
    {start : State} {labels : List Label}
    (initial : Invariant start)
    (admitted : Admitted step admits start labels) :
    Invariant (runFrom step start labels) := by
  induction labels generalizing start with
  | nil => exact initial
  | cons label labels inductionHypothesis =>
      rcases admitted with ⟨head, tail⟩
      exact inductionHypothesis (preserved start label initial head) tail

/-- A run that is not admitted reaches what its other steps bring about. -/
theorem reached_of_not_admitted
    {step : State → Label → State} {admits : State → Label → Prop}
    {Reached : State → Prop}
    (brought :
      ∀ current label, ¬admits current label → Reached (step current label))
    (kept :
      ∀ current label, Reached current → Reached (step current label))
    {start : State} {labels : List Label}
    (notAdmitted : ¬Admitted step admits start labels) :
    Reached (runFrom step start labels) := by
  induction labels generalizing start with
  | nil => exact absurd trivial notAdmitted
  | cons label labels inductionHypothesis =>
      by_cases head : admits start label
      · exact inductionHypothesis fun tail => notAdmitted ⟨head, tail⟩
      · exact run_invariant kept (brought start label head) labels

/-- A run is admitted if and only if each of its steps is. -/
theorem admitted_iff_forall_step
    {step : State → Label → State} {admits : State → Label → Prop}
    {start : State} {labels : List Label} :
    Admitted step admits start labels ↔
      ∀ earlier label, earlier ++ [label] <+: labels →
        admits (runFrom step start earlier) label := by
  induction labels generalizing start with
  | nil => simp [Admitted]
  | cons head labels inductionHypothesis =>
      constructor
      · rintro ⟨admitted, rest⟩ earlier label isPrefix
        cases earlier with
        | nil =>
            obtain rfl := (List.cons_prefix_cons.mp isPrefix).1
            exact admitted
        | cons first earlier =>
            rcases List.cons_prefix_cons.mp isPrefix with ⟨rfl, tailPrefix⟩
            exact inductionHypothesis.mp rest earlier label tailPrefix
      · intro all
        refine ⟨all [] head ?_, inductionHypothesis.mpr ?_⟩
        · exact (List.prefix_cons_inj head).mpr List.nil_prefix
        · intro earlier label isPrefix
          exact all (head :: earlier) label
            ((List.prefix_cons_inj head).mpr isPrefix)

/-- What every step extends holds of the labels taken and the state reached. -/
theorem run_history
    {step : State → Label → State} {start : State}
    {motive : List Label → State → Prop}
    (initial : motive [] start)
    (extended :
      ∀ labels label, motive labels (runFrom step start labels) →
        motive (labels ++ [label])
          (step (runFrom step start labels) label))
    (labels : List Label) :
    motive labels (runFrom step start labels) := by
  induction labels using List.reverseRecOn with
  | nil => exact initial
  | append_singleton labels label inductionHypothesis =>
      rw [runFrom_append]
      exact extended labels label inductionHypothesis

/-- The start of an admitted run is an admitted run. -/
theorem Admitted.earlier
    {step : State → Label → State} {admits : State → Label → Prop}
    {start : State} {labels first : List Label}
    (admitted : Admitted step admits start labels)
    (isPrefix : first <+: labels) : Admitted step admits start first := by
  rw [admitted_iff_forall_step] at admitted ⊢
  intro earlier label inside
  exact admitted earlier label (inside.trans isPrefix)

/-- What follows an admitted run in an admitted run is admitted. -/
theorem Admitted.later
    {step : State → Label → State} {admits : State → Label → Prop}
    {start : State} {first second : List Label}
    (admitted : Admitted step admits start (first ++ second)) :
    Admitted step admits (runFrom step start first) second := by
  rw [admitted_iff_forall_step] at admitted ⊢
  intro earlier label inside
  rw [← runFrom_append]
  apply admitted
  rw [List.append_assoc]
  exact (List.prefix_append_right_inj first).mpr inside

/--
If admitted steps keep an invariant and the other steps visibly break what
the invariant shows, then a run is admitted if and only if this is seen all
the way.
-/
theorem always_iff_admitted
    {step : State → Label → State} {admits : State → Label → Prop}
    {Invariant Visible : State → Prop}
    (seen : ∀ current, Invariant current → Visible current)
    (kept :
      ∀ current label, Invariant current → admits current label →
        Invariant (step current label))
    (broken :
      ∀ current label, Invariant current → Visible (step current label) →
        admits current label)
    {start : State} (initial : Invariant start) (labels : List Label) :
    (∀ earlier, earlier <+: labels →
        Visible (runFrom step start earlier)) ↔
      Admitted step admits start labels := by
  constructor
  · intro always
    induction labels generalizing start with
    | nil => exact trivial
    | cons label labels inductionHypothesis =>
        have first : Visible (step start label) :=
          always [label] ((List.prefix_cons_inj label).mpr List.nil_prefix)
        have admitted := broken start label initial first
        refine ⟨admitted,
          inductionHypothesis (kept start label initial admitted) ?_⟩
        intro earlier isPrefix
        exact always (label :: earlier)
          ((List.prefix_cons_inj label).mpr isPrefix)
  · intro admitted earlier isPrefix
    exact seen _ ((admitted.earlier isPrefix).invariant kept initial)

/--
If, under an invariant, the admitted steps are the steps that keep a property,
then a run is admitted if and only if the property holds all the way.
-/
theorem admitted_iff_always
    {step : State → Label → State} {admits : State → Label → Prop}
    {Invariant Property : State → Prop}
    (kept :
      ∀ current label, Invariant current → Invariant (step current label))
    (preserved :
      ∀ current label, Invariant current → Property current →
        (admits current label ↔ Property (step current label)))
    {start : State} (initial : Invariant start) (holds : Property start)
    (labels : List Label) :
    Admitted step admits start labels ↔
      ∀ earlier, earlier <+: labels →
        Property (runFrom step start earlier) := by
  refine (@always_iff_admitted _ _ step admits
    (fun current => Invariant current ∧ Property current) Property
    (fun _ both => both.2) ?_ ?_ start ⟨initial, holds⟩ labels).symm
  · rintro current label ⟨invariant, property⟩ admitted
    exact ⟨kept current label invariant,
      (preserved current label invariant property).mp admitted⟩
  · rintro current label ⟨invariant, property⟩ next
    exact (preserved current label invariant property).mpr next

end Anbox.Foundation.Runs
