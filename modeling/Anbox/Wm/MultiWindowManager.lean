import Anbox.Foundation.Framing
import Anbox.Foundation.OrderedMap
import Mathlib.Data.List.Induction

/-!
# Windows of the multi window manager

`MultiWindowManager::apply_window_state_update` goes through the updated
window states, creates windows for tasks it does not know and collects the
states of the tasks it knows.  Then it passes the collected states on and
finally removes the windows of tasks that are gone.

A state of a task that got its window earlier in the same call is collected,
too, while the state that led to the window is not.  The removal looks at the
collected states only, so it takes a new task with a single state for one that
is no longer in use.
-/

namespace Anbox.Wm.MultiWindowManager

open Std
open Anbox.Foundation.Framing
open Anbox.Foundation.OrderedMap

/-! ## Window states -/

/-- `Stack::Id`. -/
inductive Stack where
  | invalid
  | default
  | fullscreen
  | freeform
deriving DecidableEq, Repr

/-- The four coordinates of `graphics::Rect`. -/
structure Rect where
  left : Int32
  top : Int32
  right : Int32
  bottom : Int32
deriving DecidableEq, Repr

/-- The state of one Android window. -/
structure WindowState where
  display : Int32
  hasSurface : Bool
  frame : Rect
  packageName : String
  task : Int32
  stack : Stack
deriving DecidableEq, Repr

/-- What the application database knows about a package. -/
structure Item where
  name : String
  package : String

def Item.valid (item : Item) : Bool :=
  0 < item.package.length

/-! ## The three passes -/

/-- The address of a `Window`. -/
abbrev WindowPtr := Nat

/-- What the manager does to windows and to Android. -/
inductive Effect where
  | createWindow (window : WindowPtr) (task : Int32) (frame : Rect)
      (title : String)
  | attach (window : WindowPtr)
  | removeTask (task : Int32)
  | updateState (task : Int32) (window : WindowPtr)
      (states : List WindowState)
  | release (window : WindowPtr)
deriving DecidableEq, Repr

/-- How an attempt to create a window ends. -/
inductive Creation where
  /-- The platform has been destroyed. -/
  | platformGone
  /-- There is no window; `remove_task` may throw. -/
  | failed (throws : Bool)
  | created
deriving DecidableEq, Repr

/-- What the manager relies on. -/
structure Environment where
  findByPackage : String → Item
  /-- The outcome of each attempt to create a window. -/
  creation : Nat → Creation

/-- The manager, the windows allocated so far and what was done to them. -/
structure State where
  windows : TreeMap Int32 WindowPtr
  allocated : Nat
  attempts : Nat
  log : List Effect

/-- The manager and the states collected for its tasks. -/
structure Progress where
  state : State
  taskUpdates : TreeMap Int32 (List WindowState)

variable (environment : Environment)

/-- The title of the window for a package. -/
def title (packageName : String) : String :=
  let app := environment.findByPackage packageName
  if app.valid then app.name else packageName

/-- Create the window for a task that has none. -/
def createWindow (state : State) (window : WindowState) : Outcome State :=
  let attempted := { state with attempts := state.attempts + 1 }
  match environment.creation state.attempts with
  | .platformGone => .returned attempted
  | .failed throws =>
      let removed :=
        { attempted with log := state.log ++ [.removeTask window.task] }
      if throws then .thrown removed else .returned removed
  | .created =>
      .returned
        { attempted with
          windows := state.windows.insertIfNew window.task state.allocated
          allocated := state.allocated + 1
          log := state.log ++
            [.createWindow state.allocated window.task window.frame
                (title environment window.packageName),
              .attach state.allocated] }

/-- The first pass for one window state. -/
def collect (progress : Progress) (window : WindowState) :
    Outcome Progress :=
  if window.stack ≠ .freeform then .returned progress
  else if ¬ window.hasSurface then .returned progress
  else
    match progress.state.windows[window.task]? with
    | some _ =>
        let states :=
          match progress.taskUpdates[window.task]? with
          | none => [window]
          | some states => states ++ [window]
        .returned
          { progress with
            taskUpdates :=
              progress.taskUpdates.insert window.task states }
    | none =>
        (createWindow environment progress.state window).andThen
          (fun state => .returned { progress with state })
          (fun state => { progress with state })

/-- The second pass for the states collected for one task. -/
def passOn (state : State) (update : Int32 × List WindowState) : State :=
  match state.windows[update.1]? with
  | none => state
  | some window =>
      { state with
        log := state.log ++ [.updateState update.1 window update.2] }

/-- The third pass for one removed window. -/
def remove (taskUpdates : TreeMap Int32 (List WindowState))
    (state : State) (window : WindowState) : State :=
  match state.windows[window.task]? with
  | none => state
  | some platformWindow =>
      match taskUpdates[window.task]? with
      | some _ => state
      | none =>
          { state with
            windows := state.windows.erase window.task
            log := state.log ++ [.release platformWindow] }

/-- The second and the third pass after a first one. -/
def Progress.finish (progress : Progress) (removed : List WindowState) :
    State :=
  removed.foldl (remove progress.taskUpdates)
    (progress.taskUpdates.toList.foldl passOn progress.state)

/-- `apply_window_state_update`. -/
def applyWindowStateUpdate (state : State)
    (updated removed : List WindowState) : Outcome State :=
  (handleAll (collect environment) ⟨state, ∅⟩ updated).andThen
    (fun progress => .returned (progress.finish removed)) Progress.state

/-! ## What an update is about -/

/-- A window state that leads to a window or to an update. -/
def WindowState.counts (window : WindowState) : Bool :=
  window.stack = .freeform ∧ window.hasSurface

/-- The states in a list that count for a task, in order. -/
def entries (task : Int32) (windows : List WindowState) :
    List WindowState :=
  windows.filter fun window => window.task = task ∧ window.counts

/-- The updates that the window of a task has received. -/
def updates (task : Int32) (log : List Effect) : List (List WindowState) :=
  log.filterMap fun effect =>
    match effect with
    | .updateState updated _ states =>
        if updated = task then some states else none
    | _ => none

/-- A window of the task is among those removed. -/
def isRemoved (task : Int32) (removed : List WindowState) : Bool :=
  removed.any fun window => window.task = task

/--
What the call is meant to do.  A task has a window afterwards if it had one or
has a state that counts, unless it was removed and has no such state.  A task
that keeps its window receives its states in one update.
-/
structure Applied (state final : State)
    (updated removed : List WindowState) : Prop where
  windows :
    ∀ task : Int32,
      final.windows[task]?.isSome = true ↔
        (state.windows[task]?.isSome = true ∨ entries task updated ≠ []) ∧
          ¬ (isRemoved task removed = true ∧
            entries task updated = [])
  kept :
    ∀ (task : Int32) (window : WindowPtr),
      state.windows[task]? = some window →
        final.windows[task]?.isSome = true →
          final.windows[task]? = some window ∧
            updates task final.log =
              updates task state.log ++
                if entries task updated = [] then []
                else [entries task updated]
  untouched :
    ∀ task : Int32, entries task updated = [] →
      updates task final.log = updates task state.log

/-! ## The first pass -/

/-- The states of a task that are passed on in one update, if there are any. -/
def passedOn (known : Bool) (states : List WindowState) :
    Option (List WindowState) :=
  let collected := if known then states else states.tail
  if collected = [] then none else some collected

/-- What is known after the first pass over some window states. -/
structure Collected (state : State) (windows : List WindowState)
    (progress : Progress) : Prop where
  known :
    ∀ (task : Int32) (window : WindowPtr),
      state.windows[task]? = some window →
        progress.state.windows[task]? = some window
  created :
    ∀ task : Int32, state.windows[task]? = none →
      (progress.state.windows[task]?.isSome = true ↔
        entries task windows ≠ [])
  taskUpdates :
    ∀ task : Int32,
      progress.taskUpdates[task]? =
        passedOn state.windows[task]?.isSome (entries task windows)
  quiet :
    ∀ task : Int32, updates task progress.state.log = updates task state.log

variable {environment} {state : State}

theorem entries_append (task : Int32) (windows : List WindowState)
    (window : WindowState) :
    entries task (windows ++ [window]) =
      entries task windows ++
        if window.task = task ∧ window.counts then [window] else [] := by
  simp only [entries, List.filter_append, List.filter_singleton]
  by_cases counts : window.task = task ∧ window.counts = true
  · simp [counts]
  · simp [counts]

theorem updates_append (task : Int32) (log more : List Effect) :
    updates task (log ++ more) = updates task log ++ updates task more :=
  List.filterMap_append

theorem collected_nil : Collected state [] ⟨state, ∅⟩ where
  known := fun _ _ found => found
  created := by
    intro task absent
    simp [absent, entries]
  taskUpdates := by
    intro task
    cases state.windows[task]? <;> simp [passedOn, entries]
  quiet := fun _ => rfl

theorem Collected.skip {windows : List WindowState} {progress : Progress}
    (collected : Collected state windows progress) {window : WindowState}
    (ignored : window.counts = false) :
    Collected state (windows ++ [window]) progress := by
  have same : ∀ task,
      entries task (windows ++ [window]) = entries task windows := by
    intro task
    rw [entries_append, if_neg (by simp [ignored]), List.append_nil]
  constructor
  · exact collected.known
  · intro task absent
    rw [same]
    exact collected.created task absent
  · intro task
    rw [same]
    exact collected.taskUpdates task
  · exact collected.quiet

theorem collect_of_not_counts {progress : Progress} {window : WindowState}
    (ignored : window.counts = false) :
    collect environment progress window = .returned progress := by
  simp only [WindowState.counts, decide_eq_false_iff_not, not_and] at ignored
  by_cases stack : window.stack = .freeform
  · have noSurface := ignored stack
    simp [collect, stack, noSurface]
  · simp [collect, stack]

theorem passedOn_append {known : Bool} {states : List WindowState}
    (counted : known = true ∨ states ≠ []) (window : WindowState) :
    passedOn known (states ++ [window]) =
      some ((passedOn known states).getD [] ++ [window]) := by
  cases known with
  | true =>
      cases states <;> simp [passedOn]
  | false =>
      have nonempty : states ≠ [] := by simpa using counted
      cases states with
      | nil => exact absurd rfl nonempty
      | cons first rest => cases rest <;> simp [passedOn]

theorem entries_append_same {window : WindowState}
    (counts : window.counts = true) (windows : List WindowState) :
    entries window.task (windows ++ [window]) =
      entries window.task windows ++ [window] := by
  rw [entries_append, if_pos ⟨rfl, counts⟩]

theorem entries_append_other {window : WindowState} {task : Int32}
    (other : task ≠ window.task) (windows : List WindowState) :
    entries task (windows ++ [window]) = entries task windows := by
  rw [entries_append, if_neg (fun same => other same.1.symm),
    List.append_nil]

/-- A state that counts, of a task that has a window by now. -/
theorem Collected.collect_known {windows : List WindowState}
    {progress : Progress} (collected : Collected state windows progress)
    {window : WindowState} (counts : window.counts = true)
    {platformWindow : WindowPtr}
    (found :
      progress.state.windows[window.task]? = some platformWindow) :
    ∃ next, collect environment progress window = .returned next ∧
      Collected state (windows ++ [window]) next := by
  have isCounted : state.windows[window.task]?.isSome = true ∨
      entries window.task windows ≠ [] := by
    cases before : state.windows[window.task]? with
    | some _ => exact Or.inl rfl
    | none =>
        exact Or.inr ((collected.created _ before).mp (by simp [found]))
  have states :
      (match progress.taskUpdates[window.task]? with
        | none => [window]
        | some states => states ++ [window]) =
        progress.taskUpdates[window.task]?.getD [] ++ [window] := by
    cases progress.taskUpdates[window.task]? <;> rfl
  refine ⟨{ progress with
    taskUpdates := progress.taskUpdates.insert window.task
      (progress.taskUpdates[window.task]?.getD [] ++ [window]) }, ?_, ?_⟩
  · simp only [WindowState.counts, decide_eq_true_eq] at counts
    simp only [collect, counts.1, counts.2, found, states]
    rfl
  · constructor
    · exact collected.known
    · intro task absent
      by_cases same : task = window.task
      · subst same
        simp [entries_append_same counts, found]
      · rw [entries_append_other same]
        exact collected.created task absent
    · intro task
      rw [getElem?_insert_eq]
      by_cases same : task = window.task
      · subst same
        rw [if_pos rfl, entries_append_same counts,
          passedOn_append isCounted, collected.taskUpdates]
      · rw [if_neg same, entries_append_other same]
        exact collected.taskUpdates task
    · exact collected.quiet

/-- A state that counts, of a task that has no window yet. -/
theorem Collected.collect_new {windows : List WindowState}
    {progress : Progress} (collected : Collected state windows progress)
    (succeeds : ∀ attempt, environment.creation attempt = .created)
    {window : WindowState} (counts : window.counts = true)
    (absent : progress.state.windows[window.task]? = none) :
    ∃ next, collect environment progress window = .returned next ∧
      Collected state (windows ++ [window]) next := by
  have unknown : state.windows[window.task]? = none := by
    cases before : state.windows[window.task]? with
    | none => rfl
    | some platformWindow =>
        rw [collected.known _ _ before] at absent
        cases absent
  have first : entries window.task windows = [] := by
    by_contra nonempty
    have present := (collected.created _ unknown).mpr nonempty
    simp [absent] at present
  have fresh : window.task ∉ progress.state.windows := by
    intro member
    have present := TreeMap.mem_iff_isSome_getElem?.mp member
    simp [absent] at present
  refine ⟨{ progress with
    state := {
      windows := progress.state.windows.insertIfNew window.task
        progress.state.allocated
      allocated := progress.state.allocated + 1
      attempts := progress.state.attempts + 1
      log := progress.state.log ++
        [.createWindow progress.state.allocated window.task window.frame
            (title environment window.packageName),
          .attach progress.state.allocated] } }, ?_, ?_⟩
  · simp only [WindowState.counts, decide_eq_true_eq] at counts
    simp only [collect, counts.1, counts.2, absent, createWindow, succeeds]
    rfl
  · constructor
    · intro task platformWindow before
      exact getElem?_insertIfNew_of_some
        (collected.known task platformWindow before) _ _
    · intro task before
      rw [getElem?_insertIfNew_of_fresh fresh]
      by_cases same : task = window.task
      · subst same
        simp [entries_append_same counts]
      · rw [if_neg same, entries_append_other same]
        exact collected.created task before
    · intro task
      by_cases same : task = window.task
      · subst same
        rw [collected.taskUpdates, entries_append_same counts, first,
          unknown]
        rfl
      · rw [entries_append_other same]
        exact collected.taskUpdates task
    · intro task
      rw [← collected.quiet task, updates_append]
      exact List.append_nil _

/-- The first pass, if every window can be created. -/
theorem collected_handleAll
    (succeeds : ∀ attempt, environment.creation attempt = .created)
    (state : State) (updated : List WindowState) :
    ∃ progress,
      handleAll (collect environment) ⟨state, ∅⟩ updated =
          .returned progress ∧
        Collected state updated progress := by
  induction updated using List.reverseRecOn with
  | nil => exact ⟨⟨state, ∅⟩, rfl, collected_nil⟩
  | append_singleton windows window inductionHypothesis =>
      rcases inductionHypothesis with ⟨progress, handled, collected⟩
      have last : ∃ next,
          collect environment progress window = .returned next ∧
            Collected state (windows ++ [window]) next := by
        cases counts : window.counts with
        | false =>
            exact ⟨progress, collect_of_not_counts counts,
              collected.skip counts⟩
        | true =>
            cases found : progress.state.windows[window.task]? with
            | some platformWindow =>
                exact collected.collect_known counts found
            | none => exact collected.collect_new succeeds counts found
      rcases last with ⟨next, taken, nextCollected⟩
      refine ⟨next, ?_, nextCollected⟩
      rw [handleAll_append, handled, Outcome.andThen_returned, handleAll,
        taken]
      rfl

/-! ## The second and the third pass -/

theorem windows_foldl_passOn (state : State)
    (taskUpdates : List (Int32 × List WindowState)) :
    (taskUpdates.foldl passOn state).windows = state.windows := by
  induction taskUpdates generalizing state with
  | nil => rfl
  | cons update taskUpdates inductionHypothesis =>
      rw [List.foldl_cons, inductionHypothesis, passOn]
      split <;> rfl

theorem updates_passOn (task : Int32) (state : State)
    (update : Int32 × List WindowState) :
    updates task (passOn state update).log =
      updates task state.log ++
        if state.windows[task]?.isSome = true ∧ update.1 = task then
          [update.2]
        else [] := by
  unfold passOn
  split
  · rename_i absent
    have skipped :
        ¬ (state.windows[task]?.isSome = true ∧ update.1 = task) := by
      rintro ⟨known, rfl⟩
      simp [absent] at known
    rw [if_neg skipped, List.append_nil]
  · rename_i window found
    rw [updates_append]
    by_cases own : update.1 = task
    · subst own
      simp [updates, found]
    · simp [updates, own]

/-- The second pass sends each task that has a window its own states. -/
theorem updates_foldl_passOn (task : Int32) (state : State)
    (taskUpdates : List (Int32 × List WindowState)) :
    updates task (taskUpdates.foldl passOn state).log =
      updates task state.log ++
        if state.windows[task]?.isSome = true then
          (taskUpdates.filter fun update => update.1 = task).map Prod.snd
        else [] := by
  induction taskUpdates generalizing state with
  | nil => simp
  | cons update taskUpdates inductionHypothesis =>
      have same : (passOn state update).windows = state.windows :=
        windows_foldl_passOn state [update]
      rw [List.foldl_cons, inductionHypothesis, same, updates_passOn]
      by_cases known : state.windows[task]?.isSome = true
      · by_cases own : update.1 = task <;> simp [known, own]
      · simp [known]

theorem updates_foldl_remove (task : Int32)
    (taskUpdates : TreeMap Int32 (List WindowState)) (state : State)
    (removed : List WindowState) :
    updates task (removed.foldl (remove taskUpdates) state).log =
      updates task state.log := by
  induction removed generalizing state with
  | nil => rfl
  | cons window removed inductionHypothesis =>
      rw [List.foldl_cons, inductionHypothesis, remove]
      split
      · rfl
      · split
        · rfl
        · rw [updates_append]
          exact List.append_nil _

theorem windows_remove (task : Int32)
    (taskUpdates : TreeMap Int32 (List WindowState)) (state : State)
    (window : WindowState) :
    (remove taskUpdates state window).windows[task]? =
      if window.task = task ∧ taskUpdates[task]? = none then none
      else state.windows[task]? := by
  unfold remove
  split
  · rename_i absent
    split
    · rename_i gone
      rw [← gone.1, absent]
    · rfl
  · split
    · rename_i states found
      rw [if_neg]
      rintro ⟨rfl, unused⟩
      rw [found] at unused
      cases unused
    · rename_i unused
      by_cases own : window.task = task
      · subst own
        rw [if_pos ⟨rfl, unused⟩]
        exact TreeMap.getElem?_erase_self
      · rw [if_neg (fun gone => own gone.1)]
        exact getElem?_erase_of_ne (Ne.symm own)

/-- The windows of removed tasks with no collected states are gone. -/
theorem windows_foldl_remove (task : Int32)
    (taskUpdates : TreeMap Int32 (List WindowState)) (state : State)
    (removed : List WindowState) :
    (removed.foldl (remove taskUpdates) state).windows[task]? =
      if isRemoved task removed = true ∧ taskUpdates[task]? = none then none
      else state.windows[task]? := by
  induction removed generalizing state with
  | nil => simp [isRemoved]
  | cons window removed inductionHypothesis =>
      rw [List.foldl_cons, inductionHypothesis, windows_remove]
      by_cases unused : taskUpdates[task]? = none
      · by_cases own : window.task = task
        · simp [isRemoved, own, unused]
        · simp [isRemoved, own, unused]
      · simp [unused]

/-! ## The whole call -/

theorem passedOn_eq_none_iff {known : Bool} {states : List WindowState} :
    passedOn known states = none ↔
      states = [] ∨ known = false ∧ states.length = 1 := by
  cases known with
  | true => cases states <;> simp [passedOn]
  | false =>
      match states with
      | [] => simp [passedOn]
      | [_] => simp [passedOn]
      | _ :: _ :: _ => simp [passedOn]

section Passes

variable {updated removed : List WindowState} {progress : Progress}

theorem Progress.windows_finish (progress : Progress)
    (removed : List WindowState) (task : Int32) :
    (progress.finish removed).windows[task]? =
      if isRemoved task removed = true ∧
          progress.taskUpdates[task]? = none then none
      else progress.state.windows[task]? := by
  rw [Progress.finish, windows_foldl_remove, windows_foldl_passOn]

/-- A task that had a window keeps it or loses it. -/
theorem Collected.finish_known (collected : Collected state updated progress)
    {task : Int32} {window : WindowPtr}
    (known : state.windows[task]? = some window) :
    (progress.finish removed).windows[task]? =
      if isRemoved task removed = true ∧ entries task updated = [] then none
      else some window := by
  rw [Progress.windows_finish, collected.taskUpdates,
    collected.known task window known, known]
  simp only [Option.isSome_some, passedOn_eq_none_iff, Bool.true_eq_false,
    false_and, or_false]

/-- A task that had no window gets one, but may lose it at once. -/
theorem Collected.finish_new (collected : Collected state updated progress)
    {task : Int32} (unknown : state.windows[task]? = none) :
    (progress.finish removed).windows[task]?.isSome = true ↔
      entries task updated ≠ [] ∧
        ¬ (isRemoved task removed = true ∧
          (entries task updated).length = 1) := by
  have created := collected.created task unknown
  rw [Progress.windows_finish, collected.taskUpdates, unknown]
  simp only [Option.isSome_none, passedOn_eq_none_iff, true_and]
  split
  · rename_i gone
    rcases gone with ⟨isGone, empty | single⟩
    · simp [empty]
    · simp [isGone, single]
  · rename_i stays
    rw [created]
    constructor
    · intro nonempty
      exact ⟨nonempty, fun gone => stays ⟨gone.1, .inr gone.2⟩⟩
    · exact And.left

/-- Every task receives what was collected for it in one update. -/
theorem Collected.finish_updates
    (collected : Collected state updated progress) (task : Int32) :
    updates task (progress.finish removed).log =
      updates task state.log ++
        (passedOn state.windows[task]?.isSome
          (entries task updated)).toList := by
  rw [Progress.finish, updates_foldl_remove, updates_foldl_passOn,
    toList_filter_key, collected.taskUpdates, collected.quiet]
  congr 1
  cases present : progress.state.windows[task]? with
  | some window =>
      rw [Option.isSome_some, if_pos rfl, List.map_map]
      exact List.map_id _
  | none =>
      -- A task without a window by now has no states that count.
      have unknown : state.windows[task]? = none := by
        cases before : state.windows[task]? with
        | none => rfl
        | some window =>
            rw [collected.known task window before] at present
            cases present
      have empty : entries task updated = [] := by
        by_contra nonempty
        have created := (collected.created task unknown).mpr nonempty
        simp [present] at created
      simp [unknown, empty, passedOn]

end Passes

/--
The call does what it is meant to do, exactly if no task without a window has
a single state that counts and is among the removed at the same time.
-/
theorem applyWindowStateUpdate_applied_iff
    (succeeds : ∀ attempt, environment.creation attempt = .created)
    (state : State) (updated removed : List WindowState) :
    ∃ final,
      applyWindowStateUpdate environment state updated removed =
          .returned final ∧
        (Applied state final updated removed ↔
          ∀ task : Int32, state.windows[task]? = none →
            (entries task updated).length = 1 →
              isRemoved task removed = false) := by
  rcases collected_handleAll succeeds state updated with
    ⟨progress, handled, collected⟩
  refine ⟨progress.finish removed, ?_, ?_⟩
  · rw [applyWindowStateUpdate, handled]
    rfl
  constructor
  · intro applied task absent single
    by_contra isGone
    have nonempty : entries task updated ≠ [] := by
      intro empty
      simp [empty] at single
    have kept := (applied.windows task).mpr
      ⟨.inr nonempty, fun gone => nonempty gone.2⟩
    exact ((collected.finish_new absent).mp kept).2
      ⟨by simpa using isGone, single⟩
  · intro unambiguous
    constructor
    · intro task
      cases before : state.windows[task]? with
      | some window =>
          rw [collected.finish_known before]
          split
          · rename_i gone
            simp [gone]
          · rename_i stays
            simp [stays]
      | none =>
          rw [collected.finish_new before]
          constructor
          · rintro ⟨nonempty, -⟩
            exact ⟨.inr nonempty, fun gone => nonempty gone.2⟩
          · rintro ⟨present | nonempty, -⟩
            · cases present
            · refine ⟨nonempty, fun gone => ?_⟩
              have notGone := unambiguous task before gone.2
              rw [gone.1] at notGone
              cases notGone
    · intro task window before stays
      have same := @Collected.finish_known _ _ removed _ collected _ _
        before
      split at same
      · rw [same] at stays
        cases stays
      · refine ⟨same, ?_⟩
        rw [collected.finish_updates, before]
        cases entries task updated <;> simp [passedOn]
    · intro task empty
      rw [collected.finish_updates, empty]
      cases state.windows[task]?.isSome <;> simp [passedOn]

/-! ## A task that appears and loses a window in one call -/

/-- A popup of a new task is gone, the main window of the task is new. -/
def mainWindow : WindowState :=
  ⟨0, true, ⟨0, 0, 100, 100⟩, "app", 7, .freeform⟩

@[inherit_doc mainWindow]
def popup : WindowState :=
  ⟨0, false, ⟨0, 0, 10, 10⟩, "app", 7, .freeform⟩

/-- A platform on which all windows can be created. -/
def anyWindow : Environment := ⟨fun _ => ⟨"", ""⟩, fun _ => .created⟩

def noWindows : State := ⟨∅, 0, 0, []⟩

/-- Tasks 5 and 6 have their windows. -/
def twoWindows : State :=
  ⟨.ofList [((5 : Int32), 0), (6, 1)], 2, 2, []⟩

/-- A state of a task, if it has a surface. -/
def taskState (task : Int32) (hasSurface : Bool) : WindowState :=
  ⟨0, hasSurface, ⟨0, 0, 50, 50⟩, "app", task, .freeform⟩

/--
A new task 7, a known task 5 that loses another window, a task 8 without a
surface, and a task 6 that is gone.
-/
theorem applyWindowStateUpdate_applied_iff_four_tasks :
    ∃ final,
      applyWindowStateUpdate anyWindow twoWindows
          [mainWindow, taskState 5 true, taskState 8 false]
          [taskState 6 true, taskState 5 true] =
          .returned final ∧
        Applied twoWindows final
          [mainWindow, taskState 5 true, taskState 8 false]
          [taskState 6 true, taskState 5 true] := by
  rcases @applyWindowStateUpdate_applied_iff anyWindow
      (fun _ => rfl) twoWindows
      [mainWindow, taskState 5 true, taskState 8 false]
      [taskState 6 true, taskState 5 true] with
    ⟨final, returned, applied⟩
  refine ⟨final, returned, applied.mpr ?_⟩
  intro task absent single
  have notSix : task ≠ 6 := by
    rintro rfl
    exact absurd absent (by decide)
  have notFive : task ≠ 5 := by
    rintro rfl
    exact absurd absent (by decide)
  simp [isRemoved, taskState, notSix.symm, notFive.symm]

/-- The new window is released, although its task has a state that counts. -/
theorem new_window_removed :
    ∃ final,
      applyWindowStateUpdate anyWindow noWindows [mainWindow] [popup] =
          .returned final ∧
        final.windows[(7 : Int32)]? = none ∧
        final.log =
          [.createWindow 0 7 ⟨0, 0, 100, 100⟩ "app", .attach 0,
            .release 0] ∧
        ¬ Applied noWindows final [mainWindow] [popup] := by
  refine ⟨_, rfl, rfl, rfl, ?_⟩
  intro applied
  have kept := (applied.windows 7).mpr
    ⟨.inr (by decide), fun gone => absurd gone.2 (by decide)⟩
  cases kept

end Anbox.Wm.MultiWindowManager
