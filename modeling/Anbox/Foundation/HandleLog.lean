import Mathlib.Data.List.Basic

/-!
# Handles of a library

A library hands out handles, takes them in its calls and gets them back when
they are closed.  The calls are logged.  A log is tidy with respect to the one
handle that a client still holds if every other handle has been closed once
and no call was given a handle after it had been closed.

The rules for the three kinds of calls say what the client holds afterwards.
-/

namespace Anbox.Foundation.HandleLog

abbrev Handle := Nat

/-- A call and the handle that it returns or takes. -/
inductive Call where
  | opened (handle : Handle)
  | used (handle : Handle)
  | closed (handle : Handle)
deriving DecidableEq, Repr

def Call.handle : Call → Handle
  | .opened handle => handle
  | .used handle => handle
  | .closed handle => handle

/-- The calls so far and the next handle to be returned. -/
structure Library where
  calls : List Call
  next : Handle
deriving DecidableEq, Repr

namespace Library

def initial : Library := ⟨[], 0⟩

def call (library : Library) (made : Call) : Library :=
  { library with calls := library.calls ++ [made] }

def openNew (library : Library) : Library :=
  ⟨library.calls ++ [.opened library.next], library.next + 1⟩

/-- A call with a handle that may be null; no call is made with a null one. -/
def use (library : Library) : Option Handle → Library
  | some handle => library.call (.used handle)
  | none => library

/-- A handle is closed unless it is null. -/
def close (library : Library) : Option Handle → Library
  | some handle => library.call (.closed handle)
  | none => library

end Library

/-- The second call does not get the handle that the first one closes. -/
def NotAfterClose (first second : Call) : Prop :=
  ∀ handle, first = .closed handle → second.handle ≠ handle

/-- Handles are closed once, unless they are held, and not used afterwards. -/
structure Tidy (library : Library) (held : Option Handle) : Prop where
  known : ∀ call ∈ library.calls, call.handle < library.next
  heldOpened : ∀ handle, held = some handle → .opened handle ∈ library.calls
  closed :
    ∀ handle, .opened handle ∈ library.calls →
      library.calls.count (.closed handle) =
        if held = some handle then 0 else 1
  ordered : library.calls.Pairwise NotAfterClose

theorem tidy_initial : Tidy Library.initial none := by
  constructor
  case known =>
    intro call member
    cases member
  case heldOpened =>
    intro handle held
    cases held
  case closed =>
    intro handle member
    cases member
  case ordered => exact List.Pairwise.nil

namespace Tidy

variable {library : Library} {handle : Handle}

/-- A call with a handle that has not been closed keeps the order. -/
theorem ordered_call (ordered : library.calls.Pairwise NotAfterClose)
    {made : Call} (opened : Call.closed made.handle ∉ library.calls) :
    (library.call made).calls.Pairwise NotAfterClose := by
  refine List.pairwise_append.mpr
    ⟨ordered, List.pairwise_singleton _ _, ?_⟩
  intro first member second last
  rw [List.mem_singleton.mp last]
  rintro closed rfl same
  exact opened (same ▸ member)

theorem not_closed (tidy : Tidy library (some handle)) :
    Call.closed handle ∉ library.calls := by
  have count := tidy.closed handle (tidy.heldOpened handle rfl)
  rw [if_pos rfl] at count
  exact List.count_eq_zero.mp count

theorem known_call (tidy : Tidy library (some handle)) {made : Call}
    (same : made.handle = handle) :
    ∀ call ∈ (library.call made).calls, call.handle < library.next := by
  have below : handle < library.next :=
    tidy.known (.opened handle) (tidy.heldOpened handle rfl)
  intro call member
  rcases List.mem_append.mp member with before | last
  · exact tidy.known call before
  · rw [List.mem_singleton.mp last, same]
    exact below

theorem openNew (tidy : Tidy library none) :
    Tidy library.openNew (some library.next) := by
  have unknown : ∀ call ∈ library.calls, call.handle ≠ library.next :=
    fun call member => Nat.ne_of_lt (tidy.known call member)
  constructor
  case known =>
    intro call member
    rcases List.mem_append.mp member with before | last
    · exact Nat.lt_succ_of_lt (tidy.known call before)
    · rw [List.mem_singleton.mp last]
      exact Nat.lt_succ_self _
  case heldOpened =>
    intro handle held
    cases held
    exact List.mem_append_right _ (List.mem_singleton.mpr rfl)
  case closed =>
    intro handle member
    have count :
        library.openNew.calls.count (.closed handle) =
          library.calls.count (.closed handle) := by
      simp [Library.openNew, List.count_append]
    rw [count]
    rcases List.mem_append.mp member with before | last
    · have differs : library.next ≠ handle :=
        fun same => unknown _ before same.symm
      rw [tidy.closed handle before, if_neg (by simp),
        if_neg (by simpa using differs)]
    · cases List.mem_singleton.mp last
      rw [if_pos rfl]
      exact List.count_eq_zero.mpr fun closed => unknown _ closed rfl
  case ordered =>
    exact ordered_call tidy.ordered fun closed => unknown _ closed rfl

theorem use (tidy : Tidy library (some handle)) :
    Tidy (library.use (some handle)) (some handle) := by
  constructor
  case known => exact tidy.known_call rfl
  case heldOpened =>
    intro other held
    exact List.mem_append_left _ (tidy.heldOpened other held)
  case closed =>
    intro other member
    have before : .opened other ∈ library.calls := by
      simpa [Library.use, Library.call] using member
    simpa [Library.use, Library.call, List.count_append] using
      tidy.closed other before
  case ordered => exact ordered_call tidy.ordered tidy.not_closed

theorem close (tidy : Tidy library (some handle)) :
    Tidy (library.close (some handle)) none := by
  constructor
  case known => exact tidy.known_call rfl
  case heldOpened =>
    intro other held
    cases held
  case closed =>
    intro other member
    have before : .opened other ∈ library.calls := by
      simpa [Library.close, Library.call] using member
    have count := tidy.closed other before
    by_cases same : handle = other
    · subst same
      simpa [Library.close, Library.call, List.count_append] using count
    · simpa [Library.close, Library.call, List.count_append, same]
        using count
  case ordered => exact ordered_call tidy.ordered tidy.not_closed

/-- Whatever is held, it may be closed. -/
theorem closeHeld {held : Option Handle} (tidy : Tidy library held) :
    Tidy (library.close held) none := by
  cases held with
  | none => exact tidy
  | some handle => exact tidy.close

end Tidy

end Anbox.Foundation.HandleLog
