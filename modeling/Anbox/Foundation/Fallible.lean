import Mathlib.Logic.Basic

/-!
# Requests that may fail

A handler of requests is a computation in `Except`.  It looks for the fields of
a request one after another, reads some of them, which may fail, and ends with
a new state and an output.  `Survives` says on which requests it does not fail
and on which it leaves the state alone.  There is one rule for each way in
which a handler continues, so that the specification of a handler is put
together in the order of its statements.  `Yields` says what all results of a
computation have in common, `Ensures` also how a computation may fail.
-/

namespace Anbox.Foundation.Fallible

universe u v

variable {Error : Type u} {Value Result State Output : Type v}

/-- A computation that returns has returned at each of its steps. -/
theorem ok_of_bind {value : Except Error Value}
    {rest : Value → Except Error Result} {result : Result}
    (returned : value >>= rest = .ok result) :
    ∃ produced, value = .ok produced ∧ rest produced = .ok result := by
  cases value with
  | error fault => cases returned
  | ok produced => exact ⟨produced, rfl, returned⟩

/-- What the computation returns, if it returns, is wanted. -/
def Yields (Wanted : Result → Prop) (computed : Except Error Result) :
    Prop :=
  ∀ result, computed = .ok result → Wanted result

namespace Yields

variable {Wanted : Result → Prop}

theorem pure {result : Result} (wanted : Wanted result) :
    Yields Wanted (.ok result : Except Error Result) := by
  rintro _ ⟨⟩
  exact wanted

theorem bind {value : Except Error Value}
    {rest : Value → Except Error Result}
    (each : ∀ produced, Yields Wanted (rest produced)) :
    Yields Wanted (value >>= rest) := by
  intro result returned
  rcases ok_of_bind returned with ⟨produced, -, continued⟩
  exact each produced result continued

end Yields

/--
The computation returns what is wanted, or it fails in a way that is allowed.
-/
def Ensures (Allowed : Error → Prop) (Wanted : Value → Prop) :
    Except Error Value → Prop
  | .ok value => Wanted value
  | .error error => Allowed error

namespace Ensures

variable {Allowed : Error → Prop} {Wanted Stronger : Value → Prop}

theorem weaken {computed : Except Error Value}
    (ensures : Ensures Allowed Stronger computed)
    (enough : ∀ value, Stronger value → Wanted value) :
    Ensures Allowed Wanted computed := by
  cases computed with
  | error error => exact ensures
  | ok value => exact enough value ensures

theorem both {computed : Except Error Value}
    (first : Ensures Allowed Wanted computed)
    (second : Ensures Allowed Stronger computed) :
    Ensures Allowed (fun value => Wanted value ∧ Stronger value) computed := by
  cases computed with
  | error error => exact first
  | ok value => exact ⟨first, second⟩

theorem bind {Final : Result → Prop} {value : Except Error Value}
    {rest : Value → Except Error Result}
    (first : Ensures Allowed Wanted value)
    (next :
      ∀ produced, Wanted produced → Ensures Allowed Final (rest produced)) :
    Ensures Allowed Final (value >>= rest) := by
  cases value with
  | error error => exact first
  | ok produced => exact next produced first

end Ensures

/--
A handler returns exactly on legible requests, leaves the state as it is unless
the request is complete, and gives only an output of the given kind.
-/
structure Survives (Quiet : Output → Prop) (state : State)
    (legible complete : Prop) (handled : Except Error (State × Output)) :
    Prop where
  returns : (∃ outcome, handled = .ok outcome) ↔ legible
  unchanged {next : State} {output : Output} :
    handled = .ok (next, output) → ¬ complete → next = state
  quiet {next : State} {output : Output} :
    handled = .ok (next, output) → Quiet output

namespace Survives

variable {Quiet : Output → Prop} {state : State}
  {legible legible' complete complete' : Prop}
  {handled : Except Error (State × Output)}

theorem congr (survives : Survives Quiet state legible complete handled)
    (sameLegible : legible ↔ legible') (sameComplete : complete ↔ complete') :
    Survives Quiet state legible' complete' handled := by
  rw [← propext sameLegible, ← propext sameComplete]
  exact survives

theorem ignored {idle : Output} (quiet : Quiet idle) :
    Survives Quiet state True False
      (.ok (state, idle) : Except Error (State × Output)) where
  returns := iff_of_true ⟨_, rfl⟩ trivial
  unchanged := by
    rintro next output ⟨⟩ -
    rfl
  quiet := by
    rintro next output ⟨⟩
    exact quiet

theorem failed (error : Error) :
    Survives Quiet state False complete (.error error) where
  returns := by simp
  unchanged := fun impossible => by cases impossible
  quiet := fun impossible => by cases impossible

theorem answered {answer : State × Output} (quiet : Quiet answer.2) :
    Survives Quiet state True True
      (.ok answer : Except Error (State × Output)) where
  returns := iff_of_true ⟨_, rfl⟩ trivial
  unchanged := fun _ incomplete => absurd trivial incomplete
  quiet := by
    rintro next output ⟨⟩
    exact quiet

/-- The handler returns at once if a required field is missing. -/
theorem required (present : Bool) {idle : Output} (quiet : Quiet idle)
    (survives : Survives Quiet state legible complete handled) :
    Survives Quiet state (present = true → legible)
      (present = true ∧ complete)
      (if !present then .ok (state, idle) else handled) := by
  cases present with
  | true => exact survives.congr (by simp) (by simp)
  | false => exact (ignored quiet).congr (by simp) (by simp)

/-- The handler answers a failure before it looks any further. -/
theorem orFailure (failure : Bool) {answer : State × Output}
    (quiet : Quiet answer.2)
    (survives : Survives Quiet state legible complete handled) :
    Survives Quiet state (failure = false → legible)
      (failure = true ∨ complete)
      (if failure then .ok answer else handled) := by
  cases failure with
  | true => exact (answered quiet).congr (by simp) (by simp)
  | false => exact survives.congr (by simp) (by simp)

/--
The handler reads a required field and continues with its value.  What is read
is a value exactly if the field is there.
-/
theorem read {field : Except Error (Option Value)} {present : Bool}
    (reads : ∀ value?, field = .ok value? → value?.isSome = present)
    {continued : Option Value → Except Error (State × Output)}
    {idle : Output} (missing : continued none = .ok (state, idle))
    (quiet : Quiet idle)
    (survives :
      ∀ value,
        Survives Quiet state legible complete (continued (some value))) :
    Survives Quiet state
      ((∃ value?, field = .ok value?) ∧ (present = true → legible))
      (present = true ∧ complete) (field >>= continued) := by
  have survivesRead {value? : Option Value} (found : field = .ok value?) :
      Survives Quiet state (present = true → legible)
        (present = true ∧ complete) (continued value?) := by
    have same := reads value? found
    cases value? with
    | none =>
        rw [missing, ← same]
        exact (ignored quiet).congr (by simp) (by simp)
    | some value =>
        rw [← same]
        exact (survives value).congr (by simp) (by simp)
  constructor
  · constructor
    · rintro ⟨outcome, returned⟩
      rcases ok_of_bind returned with ⟨value?, found, answer⟩
      exact ⟨⟨value?, found⟩,
        (survivesRead found).returns.mp ⟨outcome, answer⟩⟩
    · rintro ⟨⟨value?, found⟩, later⟩
      rw [found]
      exact (survivesRead found).returns.mpr later
  · intro next output returned
    rcases ok_of_bind returned with ⟨value?, found, answer⟩
    exact (survivesRead found).unchanged answer
  · intro next output returned
    rcases ok_of_bind returned with ⟨value?, found, answer⟩
    exact (survivesRead found).quiet answer

end Survives

end Anbox.Foundation.Fallible
