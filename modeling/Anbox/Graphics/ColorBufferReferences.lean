import Anbox.Graphics.ColorBufferLedger

/-!
# Runs of the renderer and its ledger

Over any run of render threads in which neither the handle counter nor a
reference count wraps, the table of color buffers is what the ledger of the
run says.  References that surfaces seem to hold are the exception to what
clients expect: attaching a color buffer takes no reference, but draining the
surface gives one back.
-/

namespace Anbox.Graphics.ColorBufferReferences

open Anbox.Foundation.Runs
open Anbox.Graphics.Renderer
open Anbox.Graphics.ColorBufferLedger
open Std (TreeMap TreeSet)

/-! ## Runs -/

/-- Fewer handles and opens than a 32-bit counter can tell apart. -/
structure Bounded (events : List Event) : Prop where
  handles : generated events < 2 ^ 32
  opens : (replay events).FewOpens

theorem Bounded.of_append {events more : List Event}
    (bounded : Bounded (events ++ more)) : Bounded events where
  handles := by
    have handles := bounded.handles
    rw [generated, List.countP_append] at handles
    exact lt_of_le_of_lt (Nat.le_add_right _ _) handles
  opens := by
    intro handle
    refine lt_of_le_of_lt ?_ (bounded.opens handle)
    rw [replay_append]
    exact (replay events).opens_le_foldl more handle

/-- The system keeps its tables as the ledger of its history says. -/
structure Audited (system : System) : Prop where
  balanced :
    Balanced system.renderer (replay system.events)
      (generated system.events)
  opened :
    ∀ handle,
      (replay system.events).opens handle =
        system.events.count (.opened handle)

theorem audited_initial (configs : Nat) :
    Audited (System.initial configs) :=
  ⟨balanced_initial configs, fun _ => rfl⟩

theorem foldl_record_opens {ledger : Ledger} {events : List Event}
    (none : ∀ handle, Event.opened handle ∉ events) :
    (events.foldl Ledger.record ledger).opens = ledger.opens := by
  induction events generalizing ledger with
  | nil => rfl
  | cons event events inductionHypothesis =>
      have tail : ∀ handle, Event.opened handle ∉ events :=
        fun handle member => none handle (List.mem_cons_of_mem event member)
      rw [List.foldl_cons, inductionHypothesis tail]
      cases event with
      | opened handle => exact absurd List.mem_cons_self (none handle)
      | closed handle => exact (ledger.givesBack_closed handle).opens
      | drained surface => exact ledger.record_drained_opens surface
      | colorBufferCreated | contextCreated | surfaceCreated | attached => rfl

/-- Neither an open nor a drain is among the events. -/
def Uncounted (events : List Event) : Prop :=
  ∀ handle, Event.opened handle ∉ events ∧ Event.drained handle ∉ events

/-- Which operations open a color buffer and which drain surfaces. -/
theorem perform_events {renderer next : State} {operation : Operation}
    {events : List Event}
    (performed : Performed renderer operation next events) :
    Uncounted events ∨
      (∃ handle ∈ renderer.colorbuffers, events = [.opened handle]) ∨
      ∃ thread,
        operation = .drainWindowSurface thread ∧
          events = (renderer.removedSurfaces thread).map Event.drained := by
  cases performed with
  | surfacesDrained thread => exact Or.inr (Or.inr ⟨thread, rfl, rfl⟩)
  | opened found =>
      have present := TreeMap.mem_iff_isSome_getElem?.mpr
        (Option.isSome_of_eq_some found)
      exact Or.inr (Or.inl ⟨_, present, rfl⟩)
  | unchanged | colorBufferCreated | contextCreated | surfaceCreated
  | contextsDrained | contextDestroyed | surfaceDestroyed | closed
  | attached => exact Or.inl fun handle => by simp

theorem Audited.step {system : System} (audited : Audited system)
    (operation : Operation)
    (bounded : Bounded (Renderer.step system operation).events) :
    Audited (Renderer.step system operation) := by
  rcases step_cases system operation with
    ⟨sameRenderer, sameEvents⟩ | ⟨events, performed, appended⟩
  · constructor
    · rw [sameRenderer, sameEvents]
      exact audited.balanced
    · rw [sameEvents]
      exact audited.opened
  · rw [appended] at bounded
    have few := bounded.of_append.opens
    have room := bounded.handles
    rw [generated, List.countP_append] at room
    constructor
    · rw [appended, replay_append, generated, List.countP_append]
      exact audited.balanced.perform few room performed
    · intro handle
      rw [appended, replay_append, List.count_append, ← audited.opened]
      rcases perform_events performed with
        uncounted | ⟨other, present, rfl⟩ | ⟨thread, -, rfl⟩
      · have none := fun other => (uncounted other).1
        rw [foldl_record_opens none,
          List.count_eq_zero_of_not_mem (none handle), Nat.add_zero]
      · have live := audited.balanced.mem_iff_live.mp present
        simp only [List.foldl_cons, List.foldl_nil, Ledger.record,
          if_pos live, bump, List.count_singleton]
        by_cases same : handle = other
        · simp [same]
        · simp [same, Ne.symm same]
      · have none :
            ∀ other, Event.opened other ∉
              (system.renderer.removedSurfaces thread).map Event.drained := by
          simp
        rw [foldl_record_opens none,
          List.count_eq_zero_of_not_mem (none handle), Nat.add_zero]

theorem Bounded.of_step {system : System} {operation : Operation}
    (bounded : Bounded (Renderer.step system operation).events) :
    Bounded system.events := by
  obtain ⟨events, appended⟩ := step_events system operation
  rw [appended] at bounded
  exact bounded.of_append

/-- Every bounded run keeps the ledger. -/
theorem after_audited (configs : Nat) (operations : List Operation) :
    Bounded (after configs operations).events →
      Audited (after configs operations) := by
  refine @run_invariant System Operation Renderer.step
    (fun system => Bounded system.events → Audited system) ?_
    (System.initial configs) (fun _ => audited_initial configs) operations
  intro system operation inductionHypothesis bounded
  exact (inductionHypothesis bounded.of_step).step operation bounded

/-! ## Whose entry an operation may change -/

/-- Draining a thread's surfaces gives back a reference to a live handle. -/
def DrainsReference (renderer : State) (handle : HandleType) :
    Operation → Prop
  | .drainWindowSurface thread =>
      handle ∈ renderer.colorbuffers ∧
        ∃ surface ∈ (renderer.threads thread).windowSet, ∃ win,
          renderer.windows[surface]? = some (win, handle)
  | _ => False

theorem drainWindow_entry {renderer : State}
    {surface handle : HandleType}
    (unattached : ∀ win, renderer.windows[surface]? ≠ some (win, handle)) :
    (drainWindow renderer surface).colorbuffers[handle]? =
      renderer.colorbuffers[handle]? := by
  unfold drainWindow
  split
  · rfl
  · next win old found =>
    have different : handle ≠ old := by
      rintro rfl
      exact unattached win found
    simp only
    split
    · rfl
    · exact releaseColorBuffer_of_ne different

theorem drainWindows_entry {renderer : State} {handle : HandleType}
    {surfaces : List HandleType}
    (unattached :
      ∀ surface ∈ surfaces, ∀ win,
        renderer.windows[surface]? ≠ some (win, handle)) :
    (surfaces.foldl drainWindow renderer).colorbuffers[handle]? =
      renderer.colorbuffers[handle]? := by
  induction surfaces generalizing renderer with
  | nil => rfl
  | cons surface surfaces inductionHypothesis =>
      rw [List.foldl_cons, inductionHypothesis,
        drainWindow_entry (unattached surface List.mem_cons_self)]
      intro other member win
      rw [drainWindow_windows]
      split
      · simp
      · exact unattached other (List.mem_cons_of_mem surface member) win

theorem drainWindow_absent {renderer : State} {handle : HandleType}
    (absent : renderer.colorbuffers[handle]? = none)
    (surface : HandleType) :
    (drainWindow renderer surface).colorbuffers[handle]? = none := by
  unfold drainWindow
  split
  · exact absent
  · next win old found =>
    simp only
    split
    · exact absent
    · by_cases same : handle = old
      · subst same
        rw [releaseColorBuffer, absent]
        exact absent
      · rw [releaseColorBuffer_of_ne same, absent]

theorem drainWindows_absent {renderer : State} {handle : HandleType}
    (absent : renderer.colorbuffers[handle]? = none)
    (surfaces : List HandleType) :
    (surfaces.foldl drainWindow renderer).colorbuffers[handle]? = none := by
  induction surfaces generalizing renderer with
  | nil => exact absent
  | cons surface surfaces inductionHypothesis =>
      exact inductionHypothesis (drainWindow_absent absent surface)

/-- An operation that is about the color buffer `handle` itself. -/
def NamesColorBuffer (renderer : State) (handle : HandleType) :
    Operation → Prop
  | .createColorBuffer _ => renderer.genHandle = some handle
  | .openColorBuffer colorbuffer | .closeColorBuffer colorbuffer =>
      colorbuffer = handle
  | _ => False

/-- Only its own operations and drains change an entry. -/
theorem perform_entry {renderer next : State} {operation : Operation}
    {events : List Event} {handle : HandleType}
    (performed : Performed renderer operation next events)
    (unnamed : ¬NamesColorBuffer renderer handle operation)
    (undrained : ¬DrainsReference renderer handle operation) :
    next.colorbuffers[handle]? = renderer.colorbuffers[handle]? := by
  cases performed with
  | unchanged | contextCreated | surfaceCreated | contextsDrained
  | contextDestroyed | surfaceDestroyed | attached => rfl
  | @colorBufferCreated ret object generated =>
      have different : ret ≠ handle := by
        rintro rfl
        exact unnamed generated
      simp [TreeMap.getElem?_insert, different]
  | surfacesDrained thread =>
      rw [State.setThread_colorbuffers]
      by_cases present : handle ∈ renderer.colorbuffers
      · refine drainWindows_entry fun surface member win found => ?_
        exact undrained
          ⟨present, surface, TreeSet.mem_toList.mp member, win, found⟩
      · have absent : renderer.colorbuffers[handle]? = none :=
          TreeMap.getElem?_eq_none present
        rw [absent]
        exact drainWindows_absent absent _
  | @opened colorbuffer entry found =>
      have different : colorbuffer ≠ handle := unnamed
      simp [TreeMap.getElem?_insert, different]
  | closed colorbuffer =>
      have different : colorbuffer ≠ handle := unnamed
      exact releaseColorBuffer_of_ne (Ne.symm different)

/-! ## The table is the ledger -/

/-- The table of color buffers says what the ledger says. -/
structure KeepsLedger (system : System) : Prop where
  refcount :
    ∀ (handle : HandleType) entry,
      system.renderer.colorbuffers[handle]? = some entry →
        (entry.refcount.toNat : Int) =
            (replay system.events).remaining handle ∧
          1 ≤ (replay system.events).remaining handle
  present :
    ∀ handle,
      handle ∈ system.renderer.colorbuffers ↔
        (replay system.events).created handle = true ∧
          0 < (replay system.events).remaining handle
  nonnegative :
    ∀ handle, 0 ≤ (replay system.events).remaining handle

/--
A drain removes a surface whose last successfully attached color buffer is
`handle`, while `handle` is live.
-/
def DrainCounts (system : System) (handle : HandleType)
    (operation : Operation) : Prop :=
  ∃ thread surface,
    operation = .drainWindowSurface thread ∧
      surface ∈ system.renderer.removedSurfaces thread ∧
        (replay system.events).attached surface = some handle ∧
          (replay system.events).Live handle

/-- What one operation does to the entries of the table. -/
structure KeepsLedgerOver (before : System) (operation : Operation)
    (next : System) : Prop where
  /-- An entry is erased exactly when no reference remains. -/
  erased :
    ∀ handle ∈ before.renderer.colorbuffers,
      handle ∉ next.renderer.colorbuffers ↔
        (replay next.events).remaining handle = 0
  /-- The entries of other handles only change through drains. -/
  others :
    ∀ handle : HandleType,
      ¬NamesColorBuffer before.renderer handle operation →
        ¬DrainCounts before handle operation →
          next.renderer.colorbuffers[handle]? =
            before.renderer.colorbuffers[handle]?

theorem Audited.keepsLedger {system : System} (audited : Audited system)
    (opens :
      ∀ handle, (replay system.events).opens handle < 2 ^ 32 - 1) :
    KeepsLedger system where
  refcount := by
    intro handle entry found
    have count := audited.balanced.refcount handle
    have present : handle ∈ system.renderer.colorbuffers :=
      TreeMap.mem_iff_isSome_getElem?.mpr (by simp [found])
    have live := audited.balanced.mem_iff_live.mp present
    have positive := live.2
    have small : (replay system.events).remaining handle < 2 ^ 32 := by
      have few := opens handle
      unfold Ledger.remaining
      omega
    rw [Ledger.refcount_of_live live, refcounts, found, Option.map_some] at count
    rw [Option.some.inj count, UInt32.toNat_ofNat']
    omega
  present := fun handle => audited.balanced.mem_iff_live
  nonnegative := audited.balanced.nonnegative

theorem Audited.drainCounts {system : System} (audited : Audited system)
    {handle : HandleType} {operation : Operation}
    (drains : DrainsReference system.renderer handle operation) :
    DrainCounts system handle operation := by
  cases operation with
  | drainWindowSurface thread =>
      obtain ⟨present, surface, listed, win, found⟩ := drains
      have live := audited.balanced.mem_iff_live.mp present
      have nonzero : handle ≠ 0 := by
        rintro rfl
        exact absurd (audited.balanced.created 0 live.1).1 (by decide)
      have second := audited.balanced.attached surface _ found
      refine ⟨thread, surface, rfl, ?_, ?_, live⟩
      · refine List.mem_filter.mpr ⟨TreeSet.mem_toList.mpr listed, ?_⟩
        rw [TreeMap.contains_eq_isSome_getElem?, found, Option.isSome_some]
      · cases attached : (replay system.events).attached surface with
        | none =>
            rw [attached] at second
            exact absurd second nonzero
        | some other =>
            rw [attached] at second
            exact congrArg some second.symm
  | _ => exact absurd drains id

theorem Audited.keepsLedgerOver {system : System} (audited : Audited system)
    (operation : Operation)
    (after : Audited (Renderer.step system operation)) :
    KeepsLedgerOver system operation (Renderer.step system operation) where
  erased := by
    intro handle present
    rw [after.balanced.mem_iff_live]
    have nonnegative := after.balanced.nonnegative handle
    have created :
        (replay (Renderer.step system operation).events).created handle =
          true := by
      obtain ⟨events, appended⟩ := step_events system operation
      rw [appended, replay_append]
      exact Ledger.created_foldl
        (audited.balanced.mem_iff_live.mp present).1 events
    constructor
    · intro dead
      have notPositive :
          ¬0 < (replay (Renderer.step system operation).events).remaining
            handle :=
        fun positive => dead ⟨created, positive⟩
      omega
    · intro spent live
      have positive := live.2
      omega
  others := by
    intro handle unnamed uncounted
    rcases step_cases system operation with
      ⟨same, -⟩ | ⟨events, performed, -⟩
    · rw [same]
    · exact perform_entry performed unnamed
        fun drains => uncounted (audited.drainCounts drains)

/--
In every run with fewer than `2 ^ 32` generated handles and fewer than
`2 ^ 32 - 1` opens of any color buffer, the table is the ledger: each entry
counts the references that remain, an entry is erased by the operation that
gives back its last reference, it never reappears, and other entries are only
touched by drains that count for them.
-/
theorem colorbuffers_refine_ledger (configs : Nat)
    (operations : List Operation)
    (handles : generated (after configs operations).events < 2 ^ 32)
    (opens :
      ∀ handle,
        (replay (after configs operations).events).opens handle <
          2 ^ 32 - 1) :
    KeepsLedger (after configs operations) ∧
      ∀ earlier operation later,
        operations = earlier ++ operation :: later →
          KeepsLedgerOver (after configs earlier) operation
              (after configs (earlier ++ [operation])) ∧
            ∀ handle,
              (replay (after configs earlier).events).created handle =
                  true →
                handle ∉ (after configs earlier).renderer.colorbuffers →
                  handle ∉
                    (after configs operations).renderer.colorbuffers := by
  have bounded : Bounded (after configs operations).events :=
    ⟨handles, fun handle => lt_of_lt_of_le (opens handle) (by decide)⟩
  have audited := after_audited configs operations bounded
  refine ⟨audited.keepsLedger opens, ?_⟩
  rintro earlier operation later rfl
  have audit :
      ∀ first second, earlier ++ operation :: later = first ++ second →
        Audited (after configs first) := by
    intro first second split
    rw [split, after_append] at bounded
    obtain ⟨events, appended⟩ :=
      runFrom_events (after configs first) second
    rw [appended] at bounded
    exact after_audited configs first bounded.of_append
  have before := audit earlier (operation :: later) rfl
  have next := audit (earlier ++ [operation]) later (by simp)
  constructor
  · rw [after_append] at next ⊢
    exact before.keepsLedgerOver operation next
  · intro handle created absent present
    have spent :
        (replay (after configs earlier).events).Spent handle := by
      refine ⟨created, not_lt.mp fun positive => absent ?_⟩
      exact before.balanced.mem_iff_live.mpr ⟨created, positive⟩
    obtain ⟨events, appended⟩ :=
      runFrom_events (after configs earlier) (operation :: later)
    have live := audited.balanced.mem_iff_live.mp present
    rw [after_append, appended, replay_append] at live
    exact (spent.foldl events).not_live live

/-- A color buffer is attached to a surface, opened, closed and drained. -/
def attachedAndDrained : List Operation :=
  [.createColorBuffer (some 0), .createWindowSurface 0 0 (some 1),
    .setWindowSurfaceColorBuffer 2 1, .openColorBuffer 1,
    .drainWindowSurface 0, .closeColorBuffer 1]

theorem colorbuffers_refine_ledger_attached_and_drained :
    generated (after 1 attachedAndDrained).events < 2 ^ 32 ∧
      (∀ handle,
        (replay (after 1 attachedAndDrained).events).opens handle <
          2 ^ 32 - 1) ∧
      KeepsLedger (after 1 attachedAndDrained) := by
  have opens :
      ∀ handle,
        (replay (after 1 attachedAndDrained).events).opens handle <
          2 ^ 32 - 1 := by
    intro handle
    exact lt_of_le_of_lt
      ((replay_opens_le _ handle).trans List.count_le_length)
      (by decide +kernel)
  exact ⟨by decide +kernel, opens,
    (colorbuffers_refine_ledger 1 attachedAndDrained (by decide +kernel)
      opens).1⟩

/-! ### Where the bound comes from -/

/-- A color buffer that was opened `count` times and never closed. -/
def openedTimes (count : Nat) : List Operation :=
  .createColorBuffer (some 0) :: List.replicate count (.openColorBuffer 1)

/-- The state and the ledger after `count` opens. -/
structure Reopened (count : Nat) (system : System) : Prop where
  running : system.hung = false
  entry :
    system.renderer.colorbuffers[(1 : HandleType)]? =
      some ⟨0, UInt32.ofNat (count + 1)⟩
  handles : generated system.events = 1
  created : (replay system.events).created 1 = true
  opens :
    (replay system.events).opens = Function.update (fun _ => 0) 1 count
  closes : (replay system.events).closes = fun _ => 0
  drains : (replay system.events).drains = fun _ => 0

theorem Reopened.remaining {count : Nat} {system : System}
    (reopened : Reopened count system) :
    (replay system.events).remaining 1 = count + 1 := by
  rw [Ledger.remaining, reopened.opens, reopened.closes, reopened.drains,
    Function.update_self]
  push_cast
  ring

theorem Reopened.step {count : Nat} {system : System}
    (reopened : Reopened count system) :
    Reopened (count + 1) (Renderer.step system (.openColorBuffer 1)) := by
  have live : (replay system.events).Live 1 := by
    refine ⟨reopened.created, ?_⟩
    rw [reopened.remaining]
    omega
  have stepped :
      Renderer.step system (.openColorBuffer 1) =
        { system with
          renderer :=
            { system.renderer with
              colorbuffers := system.renderer.colorbuffers.insert 1
                ⟨0, UInt32.ofNat (count + 1) + 1⟩ }
          events := system.events ++ [.opened 1] } := by
    simp [Renderer.step, reopened.running, perform, openColorBuffer,
      reopened.entry]
  have ledger :
      replay (system.events ++ [.opened 1]) =
        { replay system.events with
          opens := bump (replay system.events).opens 1 } := by
    rw [replay_append]
    simp only [List.foldl_cons, List.foldl_nil, Ledger.record, if_pos live]
  rw [stepped]
  constructor
  case running => exact reopened.running
  case entry => simp [UInt32.ofNat_add]
  case handles => simpa [generated, generates] using reopened.handles
  case created =>
    rw [ledger]
    exact reopened.created
  case opens =>
    rw [ledger]
    simp [bump, reopened.opens]
  case closes =>
    rw [ledger]
    exact reopened.closes
  case drains =>
    rw [ledger]
    exact reopened.drains

theorem reopened_after (count : Nat) :
    Reopened count (after 0 (openedTimes count)) := by
  induction count with
  | zero =>
      constructor
      case opens => exact (Function.update_eq_self 1 fun _ => 0).symm
      all_goals rfl
  | succ count inductionHypothesis =>
      rw [openedTimes, List.replicate_succ', ← List.cons_append,
        after_append]
      exact inductionHypothesis.step

/-- At `2 ^ 32 - 1` opens the reference count has wrapped to zero. -/
theorem refcount_wraps_at_last_open :
    generated (after 0 (openedTimes (2 ^ 32 - 1))).events < 2 ^ 32 ∧
      (∀ handle,
        (replay (after 0 (openedTimes (2 ^ 32 - 1))).events).opens handle <
          2 ^ 32) ∧
      ¬KeepsLedger (after 0 (openedTimes (2 ^ 32 - 1))) := by
  have reopened := reopened_after (2 ^ 32 - 1)
  refine ⟨?_, ?_, ?_⟩
  · rw [reopened.handles]
    decide
  · intro handle
    rw [reopened.opens, Function.update_apply]
    split
    · decide
    · decide
  · intro keeps
    have count := (keeps.refcount 1 _ reopened.entry).1
    rw [reopened.remaining] at count
    revert count
    decide

/-! ## References that clients have not given back -/

theorem foldl_record_drains {ledger : Ledger} {events : List Event}
    (none : ∀ surface, Event.drained surface ∉ events) :
    (events.foldl Ledger.record ledger).drains = ledger.drains := by
  induction events generalizing ledger with
  | nil => rfl
  | cons event events inductionHypothesis =>
      have tail : ∀ surface, Event.drained surface ∉ events :=
        fun surface member => none surface (List.mem_cons_of_mem event member)
      rw [List.foldl_cons, inductionHypothesis tail]
      cases event with
      | drained surface => exact absurd List.mem_cons_self (none surface)
      | opened handle | closed handle =>
          simp only [Ledger.record]
          split
          · rfl
          · rfl
      | colorBufferCreated | contextCreated | surfaceCreated | attached => rfl

theorem record_drained_apart {ledger : Ledger}
    {surface handle : HandleType}
    (apart : ledger.attached surface ≠ some handle ∨ ¬ledger.Live handle) :
    (ledger.record (.drained surface)).drains handle =
        ledger.drains handle ∧
      (ledger.record (.drained surface)).attached = ledger.attached ∧
        ((ledger.record (.drained surface)).Live handle ↔
          ledger.Live handle) := by
  cases attached : ledger.attached surface with
  | none => simp [Ledger.record, attached]
  | some other =>
      simp only [Ledger.record, attached]
      split
      · next live =>
        have different : handle ≠ other := by
          rintro rfl
          rcases apart with detached | dead
          · exact detached attached
          · exact dead live
        refine ⟨Function.update_of_ne different _ _, rfl, ?_⟩
        simp [Ledger.Live, Ledger.remaining, bump, different]
      · exact ⟨rfl, rfl, Iff.rfl⟩

/-- Drains of surfaces that hold nothing live of a handle do not count. -/
theorem foldl_drained_drains {ledger : Ledger} {handle : HandleType}
    {surfaces : List HandleType}
    (apart :
      ∀ surface ∈ surfaces,
        ledger.attached surface ≠ some handle ∨ ¬ledger.Live handle) :
    ((surfaces.map Event.drained).foldl Ledger.record ledger).drains handle =
      ledger.drains handle := by
  induction surfaces generalizing ledger with
  | nil => rfl
  | cons surface surfaces inductionHypothesis =>
      obtain ⟨sameDrains, sameAttached, sameLive⟩ :=
        record_drained_apart (apart surface List.mem_cons_self)
      rw [List.map_cons, List.foldl_cons, inductionHypothesis, sameDrains]
      intro other member
      rw [sameAttached, sameLive]
      exact apart other (List.mem_cons_of_mem surface member)

theorem Audited.perform_drains {system : System} (audited : Audited system)
    {operation : Operation} {next : State} {events : List Event}
    {handle : HandleType}
    (performed : Performed system.renderer operation next events)
    (undrained : ¬DrainsReference system.renderer handle operation) :
    (events.foldl Ledger.record (replay system.events)).drains handle =
      (replay system.events).drains handle := by
  rcases perform_events performed with
    uncounted | ⟨other, -, rfl⟩ | ⟨thread, rfl, rfl⟩
  · rw [foldl_record_drains fun surface => (uncounted surface).2]
  · rw [foldl_record_drains (by simp)]
  · refine foldl_drained_drains fun surface removed => ?_
    obtain ⟨listed, contained⟩ := List.mem_filter.mp removed
    by_cases live : (replay system.events).Live handle
    · refine Or.inl fun attached => undrained ?_
      have present := audited.balanced.mem_iff_live.mpr live
      obtain ⟨⟨win, old⟩, found⟩ := Option.isSome_iff_exists.mp
        (TreeMap.contains_eq_isSome_getElem?.symm.trans contained)
      have second := audited.balanced.attached surface _ found
      rw [attached, Option.getD_some] at second
      subst second
      exact ⟨present, surface, TreeSet.mem_toList.mp listed, win, found⟩
    · exact Or.inr live

theorem after_drains {configs : Nat} {operations : List Operation}
    {handle : HandleType}
    (undrained :
      Admitted step
        (fun system operation =>
          ¬DrainsReference system.renderer handle operation)
        (System.initial configs) operations) :
    Bounded (after configs operations).events →
      (replay (after configs operations).events).drains handle = 0 := by
  have invariant :
      Bounded (after configs operations).events →
        Audited (after configs operations) ∧
          (replay (after configs operations).events).drains handle = 0 := by
    refine @Admitted.invariant System Operation step _
      (fun system => Bounded system.events →
        Audited system ∧ (replay system.events).drains handle = 0)
      ?_ (System.initial configs) operations
      (fun _ => ⟨audited_initial configs, rfl⟩) undrained
    intro system operation inductionHypothesis apart bounded
    obtain ⟨audited, none⟩ := inductionHypothesis bounded.of_step
    refine ⟨audited.step operation bounded, ?_⟩
    rcases step_cases system operation with
      ⟨-, same⟩ | ⟨events, performed, appended⟩
    · rw [same, none]
    · rw [appended, replay_append, audited.perform_drains performed apart,
        none]
  exact fun bounded => (invariant bounded).2

/--
A color buffer stays in the table while clients hold references, as long as no
drain takes a surface that it is attached to.
-/
theorem colorbuffer_kept_while_referenced (configs : Nat)
    (operations : List Operation) (handle : HandleType)
    (handles : generated (after configs operations).events < 2 ^ 32)
    (opens :
      ∀ other,
        (after configs operations).events.count (.opened other) < 2 ^ 32)
    (undrained :
      Admitted step
        (fun system operation =>
          ¬DrainsReference system.renderer handle operation)
        (System.initial configs) operations)
    (created :
      .colorBufferCreated handle ∈ (after configs operations).events)
    (held :
      (after configs operations).events.count (.closed handle) <
        1 + (after configs operations).events.count (.opened handle)) :
    handle ∈ (after configs operations).renderer.colorbuffers := by
  have bounded : Bounded (after configs operations).events :=
    ⟨handles, fun other =>
      lt_of_le_of_lt (replay_opens_le _ other) (opens other)⟩
  have audited := after_audited configs operations bounded
  have drains := after_drains undrained bounded
  have closes := replay_closes_le (after configs operations).events handle
  refine audited.balanced.mem_iff_live.mpr ⟨replay_created created, ?_⟩
  rw [Ledger.remaining, audited.opened, drains]
  omega

/-- A surface that nothing was attached to is drained. -/
theorem colorbuffer_kept_while_referenced_unattached :
    (1 : HandleType) ∈
      (after 1 [.createColorBuffer (some 0), .openColorBuffer 1,
        .createWindowSurface 0 0 (some 1), .closeColorBuffer 1,
        .drainWindowSurface 0]).renderer.colorbuffers := by
  refine colorbuffer_kept_while_referenced 1 _ 1 (by decide +kernel) ?_ ?_
    (by decide +kernel) (by decide +kernel)
  · intro other
    exact lt_of_le_of_lt List.count_le_length (by decide +kernel)
  · refine ⟨id, id, id, id, ?_, trivial⟩
    rintro ⟨-, surface, listed, win, found⟩
    have only : surface = 2 := by
      have inserted : surface ∈ (∅ : TreeSet HandleType).insert 2 := listed
      have same : compare 2 surface = .eq := by simpa using inserted
      exact (Std.LawfulEqCmp.compare_eq_iff_eq.mp same).symm
    subst only
    have second : some (0 : HandleType) = some 1 :=
      congrArg (Option.map Prod.snd) found
    exact absurd second (by decide)

/--
A thread attaches its color buffer to its surface and ends.  The drain gives
back the reference of the create, although no client has closed the buffer.
-/
theorem drained_surface_takes_reference :
    let system := after 1 [.createColorBuffer (some 0),
      .createWindowSurface 0 0 (some 1), .setWindowSurfaceColorBuffer 2 1,
      .drainWindowSurface 0]
    generated system.events < 2 ^ 32 ∧
      (∀ other, system.events.count (.opened other) < 2 ^ 32) ∧
      .colorBufferCreated 1 ∈ system.events ∧
      system.events.count (.closed 1) < 1 + system.events.count (.opened 1) ∧
      (1 : HandleType) ∉ system.renderer.colorbuffers := by
  refine ⟨by decide +kernel, fun other => ?_, by decide +kernel⟩
  exact lt_of_le_of_lt List.count_le_length (by decide +kernel)

end Anbox.Graphics.ColorBufferReferences
