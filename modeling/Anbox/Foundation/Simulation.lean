import Anbox.Foundation.Runs

/-!
# Forward simulation

A component with a deterministic step function is compared with an abstract
model, which may have a choice of what comes next.  `Follows` says that one run
of the model keeps up with the run of the component: the two states are related
at the start and after every step.
-/

namespace Anbox.Foundation.Simulation

open Anbox.Foundation.Runs

universe u v w

variable {State : Type u} {Model : Type v} {Label : Type w}

/-- The model follows the run of the component from state to state. -/
inductive Follows (step : State → Label → State)
    (next : Model → Label → Model → Prop)
    (Related : State → Model → Prop) :
    State → Model → List Label → Prop
  | nil {state : State} {model : Model} :
      Related state model → Follows step next Related state model []
  | cons {state : State} {model model' : Model} {label : Label}
      {labels : List Label} :
      Related state model → next model label model' →
        Follows step next Related (step state label) model' labels →
        Follows step next Related state model (label :: labels)

variable {step : State → Label → State}
  {next : Model → Label → Model → Prop}
  {Related Stronger : State → Model → Prop}

/-- What every admitted step keeps up, an admitted run does. -/
theorem follows_of_simulation {admits : State → Label → Prop}
    (seen : ∀ state model, Stronger state model → Related state model)
    (simulated :
      ∀ state model label, Stronger state model → admits state label →
        ∃ model', next model label model' ∧
          Stronger (step state label) model')
    {start : State} {model : Model} {labels : List Label}
    (initial : Stronger start model)
    (admitted : Admitted step admits start labels) :
    Follows step next Related start model labels := by
  induction labels generalizing start model with
  | nil => exact Follows.nil (seen start model initial)
  | cons label labels inductionHypothesis =>
      rcases admitted with ⟨head, tail⟩
      rcases simulated start model label initial head with
        ⟨model', moved, related⟩
      exact Follows.cons (seen start model initial) moved
        (inductionHypothesis related tail)

/-- The state at the end is related to some state of the model. -/
theorem Follows.final {start : State} {model : Model} {labels : List Label}
    (follows : Follows step next Related start model labels) :
    ∃ model', Related (runFrom step start labels) model' := by
  induction follows with
  | nil related => exact ⟨_, related⟩
  | cons _ _ _ inductionHypothesis => exact inductionHypothesis

end Anbox.Foundation.Simulation
