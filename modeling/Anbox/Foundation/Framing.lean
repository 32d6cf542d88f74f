import Mathlib.Data.List.Basic

/-!
# Incremental decoding of framed streams

A recogniser takes one complete frame off the front of its input, or reports
that the input does not yet hold one.  Its two laws, that a frame is never
empty and that bytes arriving later do not change a frame already recognised,
are fields of the structure.  From them alone decoding is independent of how
the input was cut into chunks.

The second half drives a handler that may throw.  A throwing handler leaves
the frame it was called for at the front of the buffer; the two theorems on
`consumeFuel` say exactly what the buffer and the handler's state are afterwards.
-/

namespace Anbox.Foundation.Framing

universe u v w

variable {Symbol : Type u} {Frame : Type v} {State : Type w}

/-! ## Recognisers and whole-input decoding -/

/-- Takes one frame off the front of an input. -/
structure Recogniser (Symbol : Type u) (Frame : Type v) where
  next : List Symbol → Option (Frame × List Symbol)
  shorter :
    ∀ {input frame rest}, next input = some (frame, rest) →
      rest.length < input.length
  stable :
    ∀ {input frame rest} (more : List Symbol),
      next input = some (frame, rest) →
        next (input ++ more) = some (frame, rest ++ more)

namespace Recogniser

variable (recogniser : Recogniser Symbol Frame)

/-- Decode at most `fuel` frames. -/
def decodeFuel : Nat → List Symbol → List Frame × List Symbol
  | 0, input => ([], input)
  | fuel + 1, input =>
      match recogniser.next input with
      | none => ([], input)
      | some (frame, rest) =>
          let later := decodeFuel fuel rest
          (frame :: later.1, later.2)

/-- All complete frames of an input and the bytes left over. -/
def decode (input : List Symbol) : List Frame × List Symbol :=
  recogniser.decodeFuel input.length input

variable {recogniser}

theorem decodeFuel_eq_decode {fuel : Nat} {input : List Symbol}
    (enough : input.length ≤ fuel) :
    recogniser.decodeFuel fuel input = recogniser.decode input := by
  suffices agreement :
      ∀ first second : Nat, ∀ input : List Symbol,
        input.length ≤ first → input.length ≤ second →
          recogniser.decodeFuel first input =
            recogniser.decodeFuel second input from
    agreement fuel input.length input enough (Nat.le_refl _)
  intro first
  induction first with
  | zero =>
      intro second input firstEnough _
      have empty : input = [] := List.length_eq_zero_iff.mp (by omega)
      subst empty
      cases second with
      | zero => rfl
      | succ second =>
          cases recognised : recogniser.next [] with
          | none => simp [decodeFuel, recognised]
          | some pair => exact absurd (recogniser.shorter recognised) (by simp)
  | succ first inductionHypothesis =>
      intro second input firstEnough secondEnough
      cases recognised : recogniser.next input with
      | none => cases second <;> simp [decodeFuel, recognised]
      | some pair =>
          have decreases := recogniser.shorter recognised
          cases second with
          | zero => omega
          | succ second =>
              simp only [decodeFuel, recognised]
              rw [inductionHypothesis second pair.2 (by omega) (by omega)]

theorem decode_of_none {input : List Symbol}
    (incomplete : recogniser.next input = none) :
    recogniser.decode input = ([], input) := by
  unfold decode
  cases input.length <;> simp [decodeFuel, incomplete]

theorem decode_of_some {input rest : List Symbol} {frame : Frame}
    (recognised : recogniser.next input = some (frame, rest)) :
    recogniser.decode input =
      (frame :: (recogniser.decode rest).1, (recogniser.decode rest).2) := by
  have decreases := recogniser.shorter recognised
  obtain ⟨fuel, lengthEq⟩ : ∃ fuel, input.length = fuel + 1 :=
    Nat.exists_eq_add_one.mpr (by omega)
  have restEq : recogniser.decodeFuel fuel rest = recogniser.decode rest :=
    decodeFuel_eq_decode (by omega)
  rw [decode, lengthEq]
  simp only [decodeFuel, recognised, restEq]

/-- Decoding stops only where no complete frame is left. -/
theorem next_decode_rest (recogniser : Recogniser Symbol Frame)
    (input : List Symbol) :
    recogniser.next (recogniser.decode input).2 = none := by
  induction lengthEq : input.length using Nat.strongRecOn generalizing input with
  | _ length inductionHypothesis =>
      cases recognised : recogniser.next input with
      | none => rwa [decode_of_none recognised]
      | some pair =>
          rw [decode_of_some recognised]
          exact inductionHypothesis pair.2.length
            (lengthEq ▸ recogniser.shorter recognised) pair.2 rfl

/--
Decoding a concatenation is decoding its first part and then the undecoded
rest together with the second part.
-/
theorem decode_append (input more : List Symbol) :
    recogniser.decode (input ++ more) =
      ((recogniser.decode input).1 ++
          (recogniser.decode ((recogniser.decode input).2 ++ more)).1,
        (recogniser.decode ((recogniser.decode input).2 ++ more)).2) := by
  induction lengthEq : input.length using Nat.strongRecOn generalizing input with
  | _ length inductionHypothesis =>
      cases recognised : recogniser.next input with
      | none =>
          rw [decode_of_none recognised]
          simp
      | some pair =>
          have extended := recogniser.stable more recognised
          rw [decode_of_some recognised, decode_of_some extended]
          rw [inductionHypothesis pair.2.length
            (lengthEq ▸ recogniser.shorter recognised) pair.2 rfl]
          simp

end Recogniser

/-! ## Driving a handler that may throw -/

/-- How a call ended.  An exception keeps the effects made before it. -/
inductive Outcome (State : Type w) where
  | returned (state : State)
  | thrown (state : State)
deriving DecidableEq, Repr

namespace Outcome

/-- The state that a call leaves behind, however it ended. -/
def state : Outcome State → State
  | .returned state | .thrown state => state

/-- Continue after a normal return; an exception propagates. -/
def andThen {Next : Type v} (outcome : Outcome State)
    (next : State → Outcome Next) (escape : State → Next) : Outcome Next :=
  match outcome with
  | .returned state => next state
  | .thrown state => .thrown (escape state)

@[simp]
theorem andThen_returned {Next : Type v} (state : State)
    (next : State → Outcome Next) (escape : State → Next) :
    (returned state).andThen next escape = next state :=
  rfl

@[simp]
theorem andThen_thrown {Next : Type v} (state : State)
    (next : State → Outcome Next) (escape : State → Next) :
    (thrown state).andThen next escape = thrown (escape state) :=
  rfl

/-- A sequence returns if both of its parts do. -/
theorem andThen_eq_returned_iff {Next : Type v} {outcome : Outcome State}
    {next : State → Outcome Next} {escape : State → Next} {final : Next} :
    outcome.andThen next escape = returned final ↔
      ∃ state, outcome = returned state ∧ next state = returned final := by
  cases outcome <;> simp

end Outcome

/-- Hand frames to a handler in order until one of them throws. -/
def handleAll (handle : State → Frame → Outcome State) :
    State → List Frame → Outcome State
  | state, [] => .returned state
  | state, frame :: frames =>
      (handle state frame).andThen
        (fun next => handleAll handle next frames) id

theorem handleAll_append (handle : State → Frame → Outcome State)
    (state : State) (first second : List Frame) :
    handleAll handle state (first ++ second) =
      (handleAll handle state first).andThen
        (fun next => handleAll handle next second) id := by
  induction first generalizing state with
  | nil => rfl
  | cons frame frames inductionHypothesis =>
      cases handled : handle state frame <;>
        simp [handleAll, handled, inductionHypothesis]

namespace Recogniser

variable (recogniser : Recogniser Symbol Frame)
variable (handle : State → Frame → Outcome State)

/--
Handle and then remove one frame after another.  A frame is removed only
after its handler has returned.
-/
def consumeFuel :
    Nat → State → List Symbol → Outcome (State × List Symbol)
  | 0, state, input => .returned (state, input)
  | fuel + 1, state, input =>
      match recogniser.next input with
      | none => .returned (state, input)
      | some (frame, rest) =>
          (handle state frame).andThen
            (fun next => consumeFuel fuel next rest)
            (fun next => (next, input))

variable {recogniser handle}

/-- If no handler throws, exactly the incomplete frame remains. -/
theorem consumeFuel_returned
    {fuel : Nat} {state final : State} {input : List Symbol}
    (enough : input.length ≤ fuel)
    (handled :
      handleAll handle state (recogniser.decode input).1 = .returned final) :
    recogniser.consumeFuel handle fuel state input =
      .returned (final, (recogniser.decode input).2) := by
  induction fuel generalizing state input with
  | zero =>
      have empty : input = [] := List.length_eq_zero_iff.mp (by omega)
      subst empty
      simp_all [consumeFuel, decode, decodeFuel, handleAll]
  | succ fuel inductionHypothesis =>
      cases recognised : recogniser.next input with
      | none =>
          rw [decode_of_none recognised] at handled ⊢
          cases handled
          simp [consumeFuel, recognised]
      | some pair =>
          rw [decode_of_some recognised] at handled ⊢
          have decreases := recogniser.shorter recognised
          rcases Outcome.andThen_eq_returned_iff.mp handled with
            ⟨next, headHandled, handled⟩
          simp only [consumeFuel, recognised, headHandled,
            Outcome.andThen_returned]
          exact inductionHypothesis (by omega) handled

/-- If a handler throws, the frame it was called for stays in the buffer. -/
theorem consumeFuel_thrown
    {fuel : Nat} {state final : State} {input : List Symbol}
    (enough : input.length ≤ fuel)
    (handled :
      handleAll handle state (recogniser.decode input).1 = .thrown final) :
    ∃ remaining,
      recogniser.consumeFuel handle fuel state input =
          .thrown (final, remaining) ∧
        recogniser.next remaining ≠ none := by
  induction fuel generalizing state input with
  | zero =>
      have empty : input = [] := List.length_eq_zero_iff.mp (by omega)
      subst empty
      simp [decode, decodeFuel, handleAll] at handled
  | succ fuel inductionHypothesis =>
      cases recognised : recogniser.next input with
      | none =>
          rw [decode_of_none recognised] at handled
          simp [handleAll] at handled
      | some pair =>
          rw [decode_of_some recognised] at handled
          have decreases := recogniser.shorter recognised
          cases headHandled : handle state pair.1 with
          | thrown next =>
              simp only [handleAll, headHandled, Outcome.andThen_thrown,
                id_eq, Outcome.thrown.injEq] at handled
              subst handled
              exact ⟨input, by simp [consumeFuel, recognised, headHandled],
                by simp [recognised]⟩
          | returned next =>
              simp only [handleAll, headHandled,
                Outcome.andThen_returned] at handled
              obtain ⟨remaining, consumed, complete⟩ :=
                inductionHypothesis
                  (show pair.2.length ≤ fuel by omega) handled
              exact ⟨remaining,
                by simp [consumeFuel, recognised, headHandled, consumed],
                complete⟩

end Recogniser

end Anbox.Foundation.Framing
