import Anbox.Graphics.Renderer

/-!
# When a generated handle is fresh

`genHandle` counts up until a handle is neither zero nor the name of a context
or a surface.  It does not look at the color buffers, so once the counter has
wrapped it may return the handle of a color buffer that is still in use.
-/

namespace Anbox.Graphics.HandleFreshness

open Anbox.Foundation.CyclicSearch
open Anbox.Foundation.Runs
open Anbox.Graphics.Renderer
open Std (TreeMap TreeSet)

/-! ## Fresh handles -/

/-- A non-zero handle that is in none of the three tables. -/
def NamesNothing (renderer : State) (handle : HandleType) : Prop :=
  handle ≠ 0 ∧ handle ∉ renderer.contexts ∧ handle ∉ renderer.windows ∧
    handle ∉ renderer.colorbuffers

/-- `genHandle` returns, and the handle it returns names nothing. -/
def GeneratesFresh (renderer : State) : Prop :=
  ∃ handle,
    renderer.genHandle = some handle ∧ NamesNothing renderer handle

/--
Counting up from the last handle, a handle in none of the tables comes up
before any non-zero handle that only names a color buffer.
-/
def FreeHandleAhead (renderer : State) : Prop :=
  ∃ distance,
    NamesNothing renderer (ahead renderer.nextHandle distance) ∧
      ∀ earlier < distance,
        ahead renderer.nextHandle earlier = 0 ∨
          ahead renderer.nextHandle earlier ∈ renderer.contexts ∨
            ahead renderer.nextHandle earlier ∈ renderer.windows

theorem acceptsHandle_eq_false_iff {renderer : State} {id : HandleType} :
    renderer.acceptsHandle id = false ↔
      id = 0 ∨ id ∈ renderer.contexts ∨ id ∈ renderer.windows := by
  rw [← Bool.not_eq_true, State.acceptsHandle_iff]
  tauto

theorem generatesFresh_iff (renderer : State) :
    GeneratesFresh renderer ↔ FreeHandleAhead renderer := by
  constructor
  · rintro ⟨handle, generated, fresh⟩
    obtain ⟨distance, rfl, first⟩ := search_eq_some_iff.mp generated
    exact ⟨distance, fresh, fun earlier before =>
      acceptsHandle_eq_false_iff.mp (first.2 earlier before)⟩
  · rintro ⟨distance, fresh, before⟩
    refine ⟨_, search_eq_some_iff.mpr ⟨distance, rfl, ?_, ?_⟩, fresh⟩
    · exact State.acceptsHandle_iff.mpr ⟨fresh.1, fresh.2.1, fresh.2.2.1⟩
    · exact fun earlier bound =>
        acceptsHandle_eq_false_iff.mpr (before earlier bound)

/-! ## Tables without shared handles -/

/-- Zero names nothing and no handle is in two tables. -/
structure UniqueHandles (renderer : State) : Prop where
  contexts : ∀ handle ∈ renderer.contexts,
    handle ≠ 0 ∧ handle ∉ renderer.windows ∧ handle ∉ renderer.colorbuffers
  windows : ∀ handle ∈ renderer.windows,
    handle ≠ 0 ∧ handle ∉ renderer.colorbuffers
  colorbuffers : ∀ handle ∈ renderer.colorbuffers, handle ≠ 0

theorem uniqueHandles_initial (configs : Nat) :
    UniqueHandles (State.initial configs) := by
  constructor <;> simp [State.initial]

/-- The operation gets as far as calling `genHandle`. -/
def CallsGenHandle (renderer : State) : Operation → Prop
  | .createColorBuffer cb => cb.isSome = true
  | .createRenderContext _ config share rctx =>
      renderer.hasConfig config = true ∧
        (share ≠ 0 → renderer.contexts.contains share = true) ∧
          rctx.isSome = true
  | .createWindowSurface _ config win =>
      renderer.hasConfig config = true ∧ win.isSome = true
  | _ => False

/-- Taking objects out of the tables keeps the handles unique. -/
theorem UniqueHandles.mono {renderer next : State}
    (unique : UniqueHandles renderer)
    (contexts : ∀ handle ∈ next.contexts, handle ∈ renderer.contexts)
    (windows : ∀ handle ∈ next.windows, handle ∈ renderer.windows)
    (colorbuffers :
      ∀ handle ∈ next.colorbuffers, handle ∈ renderer.colorbuffers) :
    UniqueHandles next where
  contexts := by
    intro handle member
    obtain ⟨nonzero, noWindow, noBuffer⟩ :=
      unique.contexts handle (contexts handle member)
    exact ⟨nonzero, mt (windows handle) noWindow,
      mt (colorbuffers handle) noBuffer⟩
  windows := by
    intro handle member
    obtain ⟨nonzero, noBuffer⟩ :=
      unique.windows handle (windows handle member)
    exact ⟨nonzero, mt (colorbuffers handle) noBuffer⟩
  colorbuffers := by
    intro handle member
    exact unique.colorbuffers handle (colorbuffers handle member)

theorem mem_of_mem_releaseColorBuffer {table : ColorBufferMap}
    {released handle : HandleType}
    (member : handle ∈ releaseColorBuffer table released) :
    handle ∈ table := by
  rw [mem_iff_refcounts, refcounts_releaseColorBuffer] at member
  rw [mem_iff_refcounts]
  split at member
  · next same =>
    subst same
    exact Option.isSome_of_isSome_bind member
  · exact member

theorem UniqueHandles.drainWindow {renderer : State}
    (unique : UniqueHandles renderer) (surface : HandleType) :
    UniqueHandles (drainWindow renderer surface) := by
  unfold Renderer.drainWindow
  split
  · exact unique
  · refine unique.mono (fun _ member => member)
      (fun _ => TreeMap.mem_of_mem_erase) fun handle member => ?_
    simp only at member
    split at member
    · exact member
    · exact mem_of_mem_releaseColorBuffer member

theorem UniqueHandles.drainWindows {renderer : State}
    (unique : UniqueHandles renderer) (surfaces : List HandleType) :
    UniqueHandles (surfaces.foldl Renderer.drainWindow renderer) := by
  induction surfaces generalizing renderer with
  | nil => exact unique
  | cons surface surfaces inductionHypothesis =>
      exact inductionHypothesis (unique.drainWindow surface)

theorem UniqueHandles.enterContext {renderer : State}
    (unique : UniqueHandles renderer) {handle : HandleType}
    (fresh : NamesNothing renderer handle) (rctx : HostPtr) :
    UniqueHandles
      { renderer with
        nextHandle := handle
        contexts := renderer.contexts.insert handle rctx } where
  contexts := by
    intro other member
    rcases TreeMap.mem_insert.mp member with same | before
    · obtain rfl : handle = other := by simpa using same
      exact ⟨fresh.1, fresh.2.2⟩
    · exact unique.contexts other before
  windows := unique.windows
  colorbuffers := unique.colorbuffers

theorem UniqueHandles.enterSurface {renderer : State}
    (unique : UniqueHandles renderer) {handle : HandleType}
    (fresh : NamesNothing renderer handle) (win : HostPtr) :
    UniqueHandles
      { renderer with
        nextHandle := handle
        windows := renderer.windows.insert handle (win, 0) } where
  contexts := by
    intro other member
    obtain ⟨nonzero, noWindow, noBuffer⟩ := unique.contexts other member
    refine ⟨nonzero, fun inserted => ?_, noBuffer⟩
    rcases TreeMap.mem_insert.mp inserted with same | before
    · obtain rfl : handle = other := by simpa using same
      exact fresh.2.1 member
    · exact noWindow before
  windows := by
    intro other member
    rcases TreeMap.mem_insert.mp member with same | before
    · obtain rfl : handle = other := by simpa using same
      exact ⟨fresh.1, fresh.2.2.2⟩
    · exact unique.windows other before
  colorbuffers := unique.colorbuffers

theorem UniqueHandles.enterColorBuffer {renderer : State}
    (unique : UniqueHandles renderer) {handle : HandleType}
    (fresh : NamesNothing renderer handle) (cb : HostPtr) :
    UniqueHandles
      { renderer with
        nextHandle := handle
        colorbuffers := renderer.colorbuffers.insert handle ⟨cb, 1⟩ } where
  contexts := by
    intro other member
    obtain ⟨nonzero, noWindow, noBuffer⟩ := unique.contexts other member
    refine ⟨nonzero, noWindow, fun inserted => ?_⟩
    rcases TreeMap.mem_insert.mp inserted with same | before
    · obtain rfl : handle = other := by simpa using same
      exact fresh.2.1 member
    · exact noBuffer before
  windows := by
    intro other member
    obtain ⟨nonzero, noBuffer⟩ := unique.windows other member
    refine ⟨nonzero, fun inserted => ?_⟩
    rcases TreeMap.mem_insert.mp inserted with same | before
    · obtain rfl : handle = other := by simpa using same
      exact fresh.2.2.1 member
    · exact noBuffer before
  colorbuffers := by
    intro other member
    rcases TreeMap.mem_insert.mp member with same | before
    · obtain rfl : handle = other := by simpa using same
      exact fresh.1
    · exact unique.colorbuffers other before

/-- The handle of a create operation names nothing before it is entered. -/
theorem namesNothing_of_free {renderer : State} {handle : HandleType}
    (free : FreeHandleAhead renderer)
    (generated : renderer.genHandle = some handle) :
    NamesNothing renderer handle := by
  obtain ⟨fresh, generatedFresh, nothing⟩ :=
    (generatesFresh_iff renderer).mpr free
  rw [generated] at generatedFresh
  obtain rfl := Option.some.inj generatedFresh
  exact nothing

/-- Overwriting an entry adds no handle. -/
theorem mem_of_mem_insert_of_found {Entry : Type}
    {table : TreeMap HandleType Entry} {named handle : HandleType}
    {old new : Entry} (found : table[named]? = some old)
    (member : handle ∈ table.insert named new) : handle ∈ table := by
  rcases TreeMap.mem_insert.mp member with same | before
  · have equal : named = handle := by simpa using same
    rw [← equal]
    exact TreeMap.mem_iff_isSome_getElem?.mpr (by simp [found])
  · exact before

/-- A step keeps the handles unique if `genHandle` finds a free handle. -/
theorem UniqueHandles.perform {renderer next : State}
    {operation : Operation} {events : List Event}
    (unique : UniqueHandles renderer)
    (free : CallsGenHandle renderer operation → FreeHandleAhead renderer)
    (performed : Performed renderer operation next events) :
    UniqueHandles next := by
  cases performed with
  | unchanged => exact unique
  | colorBufferCreated object generated =>
      exact unique.enterColorBuffer
        (namesNothing_of_free (free rfl) generated) object
  | contextCreated object found shared generated =>
      have fresh :=
        namesNothing_of_free (free ⟨found, shared, rfl⟩) generated
      exact (unique.enterContext fresh object).mono
        (fun _ member => member) (fun _ member => member)
        fun _ member => member
  | surfaceCreated object found generated =>
      have fresh := namesNothing_of_free (free ⟨found, rfl⟩) generated
      exact (unique.enterSurface fresh object).mono
        (fun _ member => member) (fun _ member => member)
        fun _ member => member
  | contextsDrained thread =>
      exact unique.mono (fun _ => mem_of_mem_foldl_erase)
        (fun _ member => member) fun _ member => member
  | surfacesDrained thread =>
      exact (unique.drainWindows _).mono (fun _ member => member)
        (fun _ member => member) fun _ member => member
  | contextDestroyed drops =>
      exact unique.mono (fun _ => TreeMap.mem_of_mem_erase)
        (fun _ member => member) fun _ member => member
  | surfaceDestroyed drops =>
      exact unique.mono (fun _ member => member)
        (fun _ => TreeMap.mem_of_mem_erase) fun _ member => member
  | opened found =>
      exact unique.mono (fun _ member => member) (fun _ member => member)
        fun _ => mem_of_mem_insert_of_found found
  | closed colorbuffer =>
      exact unique.mono (fun _ member => member) (fun _ member => member)
        fun _ => mem_of_mem_releaseColorBuffer
  | attached found present =>
      exact unique.mono (fun _ member => member)
        (fun _ => mem_of_mem_insert_of_found found) fun _ member => member

/-- An operation returns if `genHandle` finds a free handle. -/
theorem perform_isSome {renderer : State} {operation : Operation}
    (free : CallsGenHandle renderer operation → FreeHandleAhead renderer) :
    (perform renderer operation).isSome = true := by
  have returns (calls : CallsGenHandle renderer operation) :
      ∃ handle, renderer.genHandle = some handle := by
    obtain ⟨handle, generated, -⟩ :=
      (generatesFresh_iff renderer).mpr (free calls)
    exact ⟨handle, generated⟩
  cases operation with
  | createColorBuffer cb =>
      cases cb with
      | none => rfl
      | some object =>
          obtain ⟨handle, generated⟩ := returns rfl
          simp [perform, createColorBuffer, generated]
  | createRenderContext thread config share rctx =>
      simp only [perform, createRenderContext, Option.isSome_map]
      split
      · rfl
      · next found =>
        split
        · rfl
        · next shared =>
          cases rctx with
          | none => rfl
          | some object =>
              obtain ⟨handle, generated⟩ :=
                returns ⟨by simpa using found, by simpa using shared, rfl⟩
              simp [generated]
  | createWindowSurface thread config win =>
      simp only [perform, createWindowSurface, Option.isSome_map]
      split
      · rfl
      · next found =>
        cases win with
        | none => rfl
        | some object =>
            obtain ⟨handle, generated⟩ :=
              returns ⟨by simpa using found, rfl⟩
            simp [generated]
  | _ => rfl

/-! ## Runs -/

/-- Whenever `genHandle` is called, a free handle comes up first. -/
def FreeWhenGenerated (system : System) (operation : Operation) : Prop :=
  CallsGenHandle system.renderer operation →
    FreeHandleAhead system.renderer

theorem unique_of_admitted {configs : Nat} {operations : List Operation}
    (free :
      Admitted step FreeWhenGenerated (System.initial configs) operations) :
    (after configs operations).hung = false ∧
      UniqueHandles (after configs operations).renderer := by
  refine @Admitted.invariant System Operation step FreeWhenGenerated
    (fun system => system.hung = false ∧ UniqueHandles system.renderer)
    ?_ (System.initial configs) operations
    ⟨rfl, uniqueHandles_initial configs⟩ free
  rintro system operation ⟨running, unique⟩ free
  obtain ⟨⟨next, events⟩, performed⟩ :=
    Option.isSome_iff_exists.mp (perform_isSome free)
  have stepped :
      step system operation =
        { system with
          renderer := next
          events := system.events ++ events } := by
    simp [step, running, performed]
  rw [stepped]
  exact ⟨running, unique.perform free (perform_performed performed)⟩

/--
In every reachable state `genHandle` returns a handle that names nothing
exactly if, counting up from the last handle, such a handle comes up before
one that names a color buffer.  In a run in which this is so whenever
`genHandle` is called, no thread hangs and no two objects share a handle.
-/
theorem genHandle_fresh_iff (configs : Nat) (operations : List Operation) :
    (GeneratesFresh (after configs operations).renderer ↔
      FreeHandleAhead (after configs operations).renderer) ∧
    (Admitted step FreeWhenGenerated (System.initial configs) operations →
      (after configs operations).hung = false ∧
        UniqueHandles (after configs operations).renderer) :=
  ⟨generatesFresh_iff _, unique_of_admitted⟩

theorem genHandle_fresh_iff_first_surface :
    (after 1 [.createColorBuffer (some 0),
      .createWindowSurface 0 0 (some 1)]).hung = false ∧
    UniqueHandles (after 1 [.createColorBuffer (some 0),
      .createWindowSurface 0 0 (some 1)]).renderer := by
  refine (genHandle_fresh_iff 1 _).2 ⟨fun _ => ⟨0, ?_, ?_⟩,
    fun _ => ⟨0, ?_, ?_⟩, trivial⟩
  · unfold NamesNothing
    decide +kernel
  · intro earlier before
    exact absurd before (Nat.not_lt_zero earlier)
  · unfold NamesNothing
    decide +kernel
  · intro earlier before
    exact absurd before (Nat.not_lt_zero earlier)

/-! ### A color buffer that outlives the counter -/

/-- One color buffer is kept while `count` others come and go. -/
def churn : Nat → List Operation
  | 0 => [.createColorBuffer (some 0)]
  | count + 1 =>
      churn count ++
        [.createColorBuffer (some 1),
          .closeColorBuffer (UInt32.ofNat (count + 2))]

/-- Only the first color buffer is left and `count + 1` handles were used. -/
structure Churned (count : Nat) (system : System) : Prop where
  running : system.hung = false
  counter : system.renderer.nextHandle = UInt32.ofNat (count + 1)
  contexts : system.renderer.contexts = ∅
  windows : system.renderer.windows = ∅
  colorbuffers :
    ∀ handle : HandleType,
      system.renderer.colorbuffers[handle]? =
        if handle = 1 then some ⟨0, 1⟩ else none

theorem Churned.step {count : Nat} {system : System}
    (churned : Churned count system) (room : count + 2 < 2 ^ 32) :
    Churned (count + 1)
      (runFrom step system
        [.createColorBuffer (some 1),
          .closeColorBuffer (UInt32.ofNat (count + 2))]) := by
  have next : system.renderer.nextHandle + 1 = UInt32.ofNat (count + 2) := by
    rw [churned.counter, show count + 2 = count + 1 + 1 from rfl,
      UInt32.ofNat_add (count + 1)]
    rfl
  have value : (UInt32.ofNat (count + 2)).toNat = count + 2 := by
    rw [UInt32.toNat_ofNat']
    exact Nat.mod_eq_of_lt room
  have nonzero : UInt32.ofNat (count + 2) ≠ 0 := by
    intro zero
    rw [zero, UInt32.toNat_zero] at value
    omega
  have notFirst : UInt32.ofNat (count + 2) ≠ 1 := by
    intro one
    rw [one, UInt32.toNat_one] at value
    omega
  have generated :
      system.renderer.genHandle = some (UInt32.ofNat (count + 2)) := by
    rw [← next] at nonzero ⊢
    refine search_of_accepts_next (State.acceptsHandle_iff.mpr
      ⟨nonzero, ?_, ?_⟩)
    · simp [churned.contexts]
    · simp [churned.windows]
  generalize named : UInt32.ofNat (count + 2) = id at *
  have created :
      Renderer.step system (.createColorBuffer (some 1)) =
        { system with
          renderer :=
            { system.renderer with
              nextHandle := id
              colorbuffers := system.renderer.colorbuffers.insert id ⟨1, 1⟩ }
          events := system.events ++ [.colorBufferCreated id] } := by
    simp [Renderer.step, churned.running, perform, createColorBuffer,
      generated, Renderer.created, nonzero]
  rw [runFrom_cons, created, runFrom_cons, runFrom_nil]
  constructor
  case running => simp [Renderer.step, churned.running, perform]
  case counter =>
    simp only [Renderer.step, churned.running, perform, closeColorBuffer]
    exact named.symm
  case contexts =>
    simp [Renderer.step, churned.running, perform, closeColorBuffer,
      churned.contexts]
  case windows =>
    simp [Renderer.step, churned.running, perform, closeColorBuffer,
      churned.windows]
  case colorbuffers =>
    intro handle
    simp only [Renderer.step, churned.running, perform, closeColorBuffer,
      releaseColorBuffer, TreeMap.getElem?_insert_self]
    by_cases same : handle = id
    · subst same
      simp [notFirst]
    · simp [TreeMap.getElem?_erase, TreeMap.getElem?_insert, Ne.symm same,
        churned.colorbuffers]

theorem churned_after {count : Nat} (room : count + 1 < 2 ^ 32) :
    Churned count (after 0 (churn count)) := by
  induction count with
  | zero =>
      constructor
      case colorbuffers =>
        intro handle
        have table :
            (after 0 (churn 0)).renderer.colorbuffers =
              (∅ : ColorBufferMap).insert 1 ⟨0, 1⟩ :=
          rfl
        rw [table, TreeMap.getElem?_insert]
        by_cases same : handle = 1
        · simp [same]
        · simp [same, Ne.symm same]
      all_goals rfl
  | succ count inductionHypothesis =>
      rw [churn, after_append]
      exact (inductionHypothesis (by omega)).step room

/-- When all handles have been used, the search begins again at one. -/
theorem Churned.wrapped {system : System}
    (churned : Churned (2 ^ 32 - 2) system) :
    (1 : HandleType) ∈ system.renderer.colorbuffers ∧
      system.renderer.genHandle = some 1 := by
  constructor
  · have first := churned.colorbuffers 1
    rw [if_pos rfl] at first
    exact TreeMap.mem_iff_isSome_getElem?.mpr (by simp [first])
  · refine search_eq_some_iff.mpr ⟨1, ?_, ?_, ?_⟩
    · rw [churned.counter]
      decide
    · refine State.acceptsHandle_iff.mpr ⟨?_, ?_, ?_⟩
      · rw [churned.counter]
        decide
      · simp [churned.contexts]
      · simp [churned.windows]
    · intro earlier bound
      obtain rfl : earlier = 0 := by omega
      refine acceptsHandle_eq_false_iff.mpr (Or.inl ?_)
      rw [churned.counter]
      decide

theorem Churned.overwritten {system : System}
    (churned : Churned (2 ^ 32 - 2) system) (cb : HostPtr) :
    (Renderer.step system
      (.createColorBuffer (some cb))).renderer.colorbuffers[
        (1 : HandleType)]? = some ⟨cb, 1⟩ := by
  simp [Renderer.step, churned.running, perform, createColorBuffer,
    churned.wrapped.2]

/--
After `2 ^ 32 - 2` further color buffers were created and closed, `genHandle`
returns the handle of the first one, and the next create overwrites it.
-/
theorem live_handle_generated_after_wrap :
    ¬GeneratesFresh (after 0 (churn (2 ^ 32 - 2))).renderer ∧
      (after 0 (churn (2 ^ 32 - 2))).renderer.colorbuffers[
        (1 : HandleType)]? = some ⟨0, 1⟩ ∧
      (after 0 (churn (2 ^ 32 - 2) ++
        [.createColorBuffer (some 2)])).renderer.colorbuffers[
          (1 : HandleType)]? = some ⟨2, 1⟩ := by
  have churned : Churned (2 ^ 32 - 2) (after 0 (churn (2 ^ 32 - 2))) :=
    churned_after (by decide)
  obtain ⟨live, generated⟩ := churned.wrapped
  refine ⟨?_, churned.colorbuffers 1, ?_⟩
  · rintro ⟨handle, again, fresh⟩
    rw [generated] at again
    obtain rfl := Option.some.inj again
    exact fresh.2.2.2 live
  · rw [after_append, runFrom_cons, runFrom_nil]
    exact churned.overwritten 2

end Anbox.Graphics.HandleFreshness
