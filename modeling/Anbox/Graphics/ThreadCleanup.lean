import Anbox.Foundation.Ownership
import Anbox.Graphics.ColorBufferLedger
import Mathlib.Data.List.Induction

/-!
# What a render thread leaves behind

A render thread keeps the handles of the contexts and surfaces it has created
and drains them when it ends.  Another thread may have destroyed one of these
objects in the meantime; its handle then stays in the set of the creator.  As
long as the handle counter has not wrapped, such a handle names nothing, and a
drain removes exactly the objects that its thread has created.
-/

namespace Anbox.Graphics.ThreadCleanup

open Anbox.Foundation.Ownership
open Anbox.Foundation.Runs
open Anbox.Graphics.Renderer
open Anbox.Graphics.ColorBufferLedger
open Std (TreeMap TreeSet)

/-! ## Who has created what -/

/-- The thread that runs a create operation. -/
def creator : Operation → Option ThreadId
  | .createRenderContext thread _ _ _ => some thread
  | .createWindowSurface thread _ _ => some thread
  | _ => none

/-- The handle of a context that was created. -/
def contextOf : Event → Option HandleType
  | .contextCreated handle => some handle
  | _ => none

/-- The handle of a window surface that was created. -/
def surfaceOf : Event → Option HandleType
  | .surfaceCreated handle => some handle
  | _ => none

/-- What a step adds to the history. -/
def newEvents (system : System) (operation : Operation) : List Event :=
  if system.hung then []
  else
    match perform system.renderer operation with
    | none => []
    | some (_, events) => events

/-- The objects that an operation enters, with the thread that runs it. -/
def entered (object : Event → Option HandleType) (operation : Operation)
    (events : List Event) : List (ThreadId × HandleType) :=
  match creator operation with
  | none => []
  | some thread =>
      (events.filterMap object).map fun handle => (thread, handle)

/-- The objects that a run has entered, with the threads that created them. -/
def creations (object : Event → Option HandleType) :
    System → List Operation → List (ThreadId × HandleType)
  | _, [] => []
  | system, operation :: operations =>
      entered object operation (newEvents system operation) ++
        creations object (step system operation) operations

/-- The contexts created in a run, with their threads. -/
def contextsCreated (configs : Nat) (operations : List Operation) :
    List (ThreadId × HandleType) :=
  creations contextOf (System.initial configs) operations

/-- The window surfaces created in a run, with their threads. -/
def surfacesCreated (configs : Nat) (operations : List Operation) :
    List (ThreadId × HandleType) :=
  creations surfaceOf (System.initial configs) operations

theorem entered_nil (object : Event → Option HandleType)
    (operation : Operation) : entered object operation [] = [] := by
  unfold entered
  split
  · rfl
  · rfl

theorem creations_append (object : Event → Option HandleType)
    (system : System) (first second : List Operation) :
    creations object system (first ++ second) =
      creations object system first ++
        creations object (runFrom step system first) second := by
  induction first generalizing system with
  | nil => rfl
  | cons operation operations inductionHypothesis =>
      rw [List.cons_append, creations, creations, inductionHypothesis,
        runFrom_cons, List.append_assoc]

theorem step_newEvents (system : System) (operation : Operation) :
    (step system operation).events =
        system.events ++ newEvents system operation ∧
      (((step system operation).renderer = system.renderer ∧
          newEvents system operation = []) ∨
        Performed system.renderer operation
          (step system operation).renderer
          (newEvents system operation)) := by
  by_cases hung : system.hung = true
  · simp [step, newEvents, hung]
  · cases performed : perform system.renderer operation with
    | none => simp [step, newEvents, hung, performed]
    | some result =>
        have effect := perform_performed performed
        simp [step, newEvents, hung, performed, effect]

/-! ## Draining -/

/-- What a list of handles leaves of a table from which they are erased. -/
theorem getElem?_foldl_erase (handles : List HandleType)
    (contexts : RenderContextMap) (handle : HandleType) :
    (handles.foldl TreeMap.erase contexts)[handle]? =
      if handle ∈ handles then none else contexts[handle]? := by
  induction handles generalizing contexts with
  | nil => simp
  | cons erased handles inductionHypothesis =>
      rw [List.foldl_cons, inductionHypothesis, TreeMap.getElem?_erase]
      by_cases same : handle = erased
      · simp [same]
      · simp [same, Ne.symm same]

/-- Draining surfaces removes them and touches nothing else of the threads. -/
theorem foldl_drainWindow (surfaces : List HandleType) (renderer : State) :
    (surfaces.foldl drainWindow renderer).threads = renderer.threads ∧
      (surfaces.foldl drainWindow renderer).contexts = renderer.contexts ∧
      (surfaces.foldl drainWindow renderer).nextHandle =
        renderer.nextHandle ∧
      ∀ handle : HandleType,
        (surfaces.foldl drainWindow renderer).windows[handle]? =
          if handle ∈ surfaces then none else renderer.windows[handle]? := by
  induction surfaces generalizing renderer with
  | nil => simp
  | cons surface surfaces inductionHypothesis =>
      have same : (drainWindow renderer surface).threads =
            renderer.threads ∧
          (drainWindow renderer surface).contexts = renderer.contexts ∧
          (drainWindow renderer surface).nextHandle =
            renderer.nextHandle := by
        unfold drainWindow
        split
        · exact ⟨rfl, rfl, rfl⟩
        · exact ⟨rfl, rfl, rfl⟩
      rcases inductionHypothesis (drainWindow renderer surface) with
        ⟨threads, contexts, nextHandle, windows⟩
      refine ⟨threads.trans same.1, contexts.trans same.2.1,
        nextHandle.trans same.2.2, fun handle => ?_⟩
      rw [List.foldl_cons, windows handle, drainWindow_windows]
      by_cases first : handle = surface
      · simp [first]
      · simp [first]

/-! ## Ownership over runs -/

/-- Live objects are in the sets of the threads that created them. -/
def Owns (live : HandleType → Prop)
    (set : RenderThreadInfo → TreeSet HandleType)
    (threads : ThreadId → RenderThreadInfo)
    (made : List (ThreadId × HandleType)) : Prop :=
  Attributed live (fun thread handle => handle ∈ set (threads thread)) made

def OwnsContexts (renderer : State)
    (made : List (ThreadId × HandleType)) : Prop :=
  Owns (fun handle => handle ∈ renderer.contexts)
    RenderThreadInfo.contextSet renderer.threads made

def OwnsSurfaces (renderer : State)
    (made : List (ThreadId × HandleType)) : Prop :=
  Owns (fun handle => handle ∈ renderer.windows)
    RenderThreadInfo.windowSet renderer.threads made

section

variable {live fewer more : HandleType → Prop}
variable {set : RenderThreadInfo → TreeSet HandleType}
variable {threads : ThreadId → RenderThreadInfo}
variable {made : List (ThreadId × HandleType)}
variable {thread : ThreadId} {info : RenderThreadInfo}

/--
A thread may drop handles from its set if the objects they name are gone by
then.
-/
theorem Owns.drop (owns : Owns live set threads made)
    (left : ∀ handle, fewer handle → live handle)
    (dropped : ∀ handle ∈ set info, handle ∈ set (threads thread))
    (keeps :
      ∀ handle ∈ set (threads thread), fewer handle → handle ∈ set info) :
    Owns fewer set (Function.update threads thread info) made := by
  refine Attributed.forget owns left ?_ ?_
  · intro owner handle held
    rw [Function.update_apply] at held
    split at held
    · next equal => exact equal ▸ dropped handle held
    · exact held
  · intro owner handle held present
    rw [Function.update_apply]
    split
    · next equal => exact keeps handle (equal ▸ held) present
    · exact held

/-- The sets of the other kind of objects stay the same. -/
theorem Owns.keep (owns : Owns live set threads made)
    (same : set info = set (threads thread)) :
    Owns live set (Function.update threads thread info) made := by
  apply owns.drop
  · exact fun _ present => present
  · exact fun _ member => same ▸ member
  · exact fun _ member _ => same ▸ member

theorem Owns.enter {ret : HandleType} (owns : Owns live set threads made)
    (fresh : ∀ owner, (owner, ret) ∉ made)
    (present : ∀ handle, more handle → handle = ret ∨ live handle)
    (entered : set info = (set (threads thread)).insert ret) :
    Owns more set (Function.update threads thread info)
      (made ++ [(thread, ret)]) := by
  refine Attributed.make owns fresh present ?_
  intro owner handle
  rw [Function.update_apply]
  split
  · next equal =>
    rw [entered, TreeSet.mem_insert, Std.LawfulEqCmp.compare_eq_iff_eq,
      equal, eq_comm]
    simp
  · next different => simp [different]

end

theorem eq_or_mem_of_mem_insert {Entry : Type}
    {table : TreeMap HandleType Entry} {ret handle : HandleType}
    {entry : Entry} (member : handle ∈ table.insert ret entry) :
    handle = ret ∨ handle ∈ table := by
  rcases TreeMap.mem_insert.mp member with same | before
  · exact Or.inl (Std.LawfulEqCmp.compare_eq_iff_eq.mp same).symm
  · exact Or.inr before

/-- A renderer that has given out `handles` handles, and what was created. -/
structure Attended (renderer : State) (handles : Nat)
    (contexts surfaces : List (ThreadId × HandleType)) : Prop where
  counter : renderer.nextHandle.toNat = handles
  ownsContexts : OwnsContexts renderer contexts
  ownsSurfaces : OwnsSurfaces renderer surfaces
  contextsGiven : ∀ entry ∈ contexts, GivenOut renderer entry.2
  surfacesGiven : ∀ entry ∈ surfaces, GivenOut renderer entry.2

theorem attended_initial (configs : Nat) :
    Attended (State.initial configs) 0 [] [] := by
  constructor
  case counter => rfl
  case ownsContexts =>
    apply attributed_nil <;> simp [State.initial]
  case ownsSurfaces =>
    apply attributed_nil <;> simp [State.initial]
  all_goals
    intro entry member
    cases member

section

variable {renderer next : State} {handles : Nat}
variable {contexts surfaces : List (ThreadId × HandleType)}

/-- Before the counter wraps, a generated handle was never created before. -/
theorem Attended.genHandle
    (attended : Attended renderer handles contexts surfaces)
    (room : handles + 1 < 2 ^ 32) {ret : HandleType}
    (generated : renderer.genHandle = some ret) :
    ret.toNat = handles + 1 ∧
      (∀ owner, (owner, ret) ∉ contexts) ∧
        ∀ owner, (owner, ret) ∉ surfaces := by
  have givenContexts :
      ∀ handle ∈ renderer.contexts, GivenOut renderer handle := by
    intro handle member
    rcases attended.ownsContexts.known handle member with ⟨owner, made⟩
    exact attended.contextsGiven _ made
  have givenSurfaces :
      ∀ handle ∈ renderer.windows, GivenOut renderer handle := by
    intro handle member
    rcases attended.ownsSurfaces.known handle member with ⟨owner, made⟩
    exact attended.surfacesGiven _ made
  rw [← attended.counter] at room ⊢
  rcases genHandle_of_givenOut givenContexts givenSurfaces room with
    ⟨found, counted, unused⟩
  rw [found] at generated
  cases generated
  exact ⟨counted, fun owner made => unused (attended.contextsGiven _ made),
    fun owner made => unused (attended.surfacesGiven _ made)⟩

/-! ### Operations -/

/-- Operations that create nothing. -/
theorem Attended.forget
    (attended : Attended renderer handles contexts surfaces)
    (nextHandle : next.nextHandle = renderer.nextHandle)
    (ownsContexts : OwnsContexts next contexts)
    (ownsSurfaces : OwnsSurfaces next surfaces) :
    Attended next handles contexts surfaces where
  counter := by rw [nextHandle, attended.counter]
  ownsContexts := ownsContexts
  ownsSurfaces := ownsSurfaces
  contextsGiven := by
    intro entry member
    rw [GivenOut, nextHandle]
    exact attended.contextsGiven entry member
  surfacesGiven := by
    intro entry member
    rw [GivenOut, nextHandle]
    exact attended.surfacesGiven entry member

/-- The counter has gone on to the handle that was generated. -/
theorem Attended.advance
    (attended : Attended renderer handles contexts surfaces)
    (counted : next.nextHandle.toNat = handles + 1)
    {madeContexts madeSurfaces : List (ThreadId × HandleType)}
    (newContexts : ∀ entry ∈ madeContexts, entry.2 = next.nextHandle)
    (newSurfaces : ∀ entry ∈ madeSurfaces, entry.2 = next.nextHandle)
    (ownsContexts : OwnsContexts next (contexts ++ madeContexts))
    (ownsSurfaces : OwnsSurfaces next (surfaces ++ madeSurfaces)) :
    Attended next (handles + 1) (contexts ++ madeContexts)
      (surfaces ++ madeSurfaces) := by
  have later : renderer.nextHandle.toNat ≤ next.nextHandle.toNat := by
    rw [counted, attended.counter]
    exact Nat.le_succ handles
  have newest : GivenOut next next.nextHandle := by
    constructor
    · rw [counted]
      exact Nat.succ_pos handles
    · exact Nat.le_refl _
  constructor
  case counter => exact counted
  case ownsContexts => exact ownsContexts
  case ownsSurfaces => exact ownsSurfaces
  case contextsGiven =>
    intro entry member
    rcases List.mem_append.mp member with earlier | last
    · exact (attended.contextsGiven entry earlier).mono later
    · rw [newContexts entry last]
      exact newest
  case surfacesGiven =>
    intro entry member
    rcases List.mem_append.mp member with earlier | last
    · exact (attended.surfacesGiven entry earlier).mono later
    · rw [newSurfaces entry last]
      exact newest

theorem Attended.drainContexts
    (attended : Attended renderer handles contexts surfaces)
    (thread : ThreadId) :
    Attended
      ({ renderer with
        contexts :=
          (renderer.threads thread).contextSet.toList.foldl TreeMap.erase
            renderer.contexts }.setThread thread
        { renderer.threads thread with contextSet := ∅ })
      handles contexts surfaces := by
  refine attended.forget rfl (attended.ownsContexts.drop ?_ ?_ ?_)
    (attended.ownsSurfaces.keep rfl)
  · exact fun _ => mem_of_mem_foldl_erase
  · exact fun handle member => absurd member TreeSet.not_mem_emptyc
  · intro handle held present
    rw [State.setThread_contexts, TreeMap.mem_iff_isSome_getElem?,
      getElem?_foldl_erase, if_pos (TreeSet.mem_toList.mpr held)] at present
    cases present

theorem Attended.drainSurfaces
    (attended : Attended renderer handles contexts surfaces)
    (thread : ThreadId) :
    Attended
      (((renderer.threads thread).windowSet.toList.foldl drainWindow
        renderer).setThread thread
          { renderer.threads thread with windowSet := ∅ })
      handles contexts surfaces := by
  rcases foldl_drainWindow
      (renderer.threads thread).windowSet.toList renderer with
    ⟨threads, tables, nextHandle, windows⟩
  refine attended.forget nextHandle ?_ ?_
  · unfold OwnsContexts State.setThread
    rw [threads, tables]
    exact attended.ownsContexts.keep rfl
  · unfold OwnsSurfaces State.setThread
    rw [threads]
    refine attended.ownsSurfaces.drop ?_ ?_ ?_
    · intro handle present
      rw [TreeMap.mem_iff_isSome_getElem?, windows] at present
      rw [TreeMap.mem_iff_isSome_getElem?]
      split at present
      · cases present
      · exact present
    · exact fun handle member => absurd member TreeSet.not_mem_emptyc
    · intro handle held present
      rw [TreeMap.mem_iff_isSome_getElem?, windows,
        if_pos (TreeSet.mem_toList.mpr held)] at present
      cases present

/-- Every operation leaves the objects with the threads that created them. -/
theorem Attended.perform {operation : Operation} {events : List Event}
    (attended : Attended renderer handles contexts surfaces)
    (room : handles + events.countP generates < 2 ^ 32)
    (performed : Performed renderer operation next events) :
    Attended next (handles + events.countP generates)
      (contexts ++ entered contextOf operation events)
      (surfaces ++ entered surfaceOf operation events) := by
  have owned := attended.ownsContexts
  have ownedSurfaces := attended.ownsSurfaces
  cases performed with
  | unchanged =>
      rw [entered_nil, entered_nil, List.append_nil, List.append_nil]
      exact attended
  | colorBufferCreated object generated =>
      rcases attended.genHandle room generated with ⟨counted, -, -⟩
      refine attended.advance counted ?_ ?_ ?_ ?_
      · simp [entered, creator]
      · simp [entered, creator]
      · exact (List.append_nil contexts).symm ▸ owned
      · exact (List.append_nil surfaces).symm ▸ ownedSurfaces
  | contextCreated object found shared generated =>
      rcases attended.genHandle room generated with ⟨counted, fresh, -⟩
      refine attended.advance counted ?_ ?_ ?_ ?_
      · simp [entered, creator, contextOf, State.setThread]
      · simp [entered, creator, surfaceOf]
      · exact owned.enter fresh (fun _ => eq_or_mem_of_mem_insert) rfl
      · exact (List.append_nil surfaces).symm ▸ ownedSurfaces.keep rfl
  | surfaceCreated object found generated =>
      rcases attended.genHandle room generated with ⟨counted, -, fresh⟩
      refine attended.advance counted ?_ ?_ ?_ ?_
      · simp [entered, creator, contextOf]
      · simp [entered, creator, surfaceOf, State.setThread]
      · exact (List.append_nil contexts).symm ▸ owned.keep rfl
      · exact ownedSurfaces.enter fresh
          (fun _ => eq_or_mem_of_mem_insert) rfl
  | contextsDrained thread =>
      simp only [entered, creator, List.append_nil]
      exact attended.drainContexts thread
  | surfacesDrained thread =>
      have none :
          ((renderer.removedSurfaces thread).map Event.drained).countP
            generates = 0 := by
        simp [List.countP_eq_zero, generates]
      simp only [entered, creator, List.append_nil, none]
      exact attended.drainSurfaces thread
  | contextDestroyed drops =>
      simp only [entered, creator, List.append_nil]
      refine attended.forget rfl (owned.drop ?_ ?_ ?_)
        (ownedSurfaces.keep drops.windowSet)
      · exact fun _ => TreeMap.mem_of_mem_erase
      · exact fun handle member => ((drops.contextSet handle).mp member).2
      · intro handle held present
        refine (drops.contextSet handle).mpr ⟨?_, held⟩
        rintro rfl
        simp at present
  | surfaceDestroyed drops =>
      simp only [entered, creator, List.append_nil]
      refine attended.forget rfl (owned.keep drops.contextSet)
        (ownedSurfaces.drop ?_ ?_ ?_)
      · exact fun _ => TreeMap.mem_of_mem_erase
      · exact fun handle member => ((drops.windowSet handle).mp member).2
      · intro handle held present
        refine (drops.windowSet handle).mpr ⟨?_, held⟩
        rintro rfl
        simp at present
  | opened found =>
      simp only [entered, creator, List.append_nil]
      exact attended.forget rfl owned ownedSurfaces
  | closed handle =>
      simp only [entered, creator, List.append_nil]
      exact attended.forget rfl owned ownedSurfaces
  | attached found present =>
      simp only [entered, creator, List.append_nil]
      refine attended.forget rfl owned (Attributed.forget ownedSurfaces ?_
        (fun _ _ held => held) (fun _ _ held _ => held))
      intro handle member
      rcases eq_or_mem_of_mem_insert member with rfl | before
      · exact TreeMap.mem_iff_isSome_getElem?.mpr (by simp [found])
      · exact before

end

/-- The objects stay with their threads until the counter wraps. -/
theorem attended_after (configs : Nat) (operations : List Operation)
    (few : generated (after configs operations).events < 2 ^ 32) :
    Attended (after configs operations).renderer
      (generated (after configs operations).events)
      (contextsCreated configs operations)
      (surfacesCreated configs operations) := by
  induction operations using List.reverseRecOn with
  | nil => exact attended_initial configs
  | append_singleton operations operation inductionHypothesis =>
      have last : after configs (operations ++ [operation]) =
          step (after configs operations) operation := by
        rw [after_append, runFrom_cons, runFrom_nil]
      have made : ∀ object,
          creations object (System.initial configs)
              (operations ++ [operation]) =
            creations object (System.initial configs) operations ++
              entered object operation
                (newEvents (after configs operations) operation) := by
        intro object
        rw [creations_append, ← after, creations, creations, List.append_nil]
      rcases step_newEvents (after configs operations) operation with
        ⟨events, changed⟩
      rw [last, events, generated, List.countP_append] at few ⊢
      have before := inductionHypothesis
        (lt_of_le_of_lt (Nat.le_add_right _ _) few)
      rw [contextsCreated, surfacesCreated, made, made]
      rcases changed with ⟨same, silent⟩ | performed
      · rw [same, silent, entered_nil, entered_nil, List.append_nil,
          List.append_nil]
        exact before
      · exact before.perform few performed

/-! ## A drain is exact -/

theorem drainRenderContext_contexts (renderer : State) (thread : ThreadId)
    (handle : HandleType) :
    (drainRenderContext renderer thread).contexts[handle]? =
      if handle ∈ (renderer.threads thread).contextSet then none
      else renderer.contexts[handle]? := by
  simp only [drainRenderContext]
  split
  · next empty =>
    rw [if_neg (TreeSet.not_mem_of_isEmpty empty)]
  · rw [State.setThread_contexts, getElem?_foldl_erase]
    simp only [TreeSet.mem_toList]

theorem drainWindowSurface_windows (renderer : State) (thread : ThreadId)
    (handle : HandleType) :
    (drainWindowSurface renderer thread).windows[handle]? =
      if handle ∈ (renderer.threads thread).windowSet then none
      else renderer.windows[handle]? := by
  simp only [drainWindowSurface]
  split
  · next empty =>
    rw [if_neg (TreeSet.not_mem_of_isEmpty empty)]
  · rw [State.setThread_windows, (foldl_drainWindow _ renderer).2.2.2]
    simp only [TreeSet.mem_toList]

theorem drainRenderContext_empties (renderer : State) (thread : ThreadId) :
    ((drainRenderContext renderer thread).threads thread).contextSet.isEmpty =
      true := by
  simp only [drainRenderContext]
  split
  · next empty => exact empty
  · simp [State.setThread]

theorem drainWindowSurface_empties (renderer : State) (thread : ThreadId) :
    ((drainWindowSurface renderer thread).threads thread).windowSet.isEmpty =
      true := by
  simp only [drainWindowSurface]
  split
  · next empty => exact empty
  · simp [State.setThread]

/-- Removing the names that a thread holds removes what it has created. -/
theorem Owns.lookup {Entry : Type} {table : TreeMap HandleType Entry}
    {set : RenderThreadInfo → TreeSet HandleType}
    {threads : ThreadId → RenderThreadInfo}
    {made : List (ThreadId × HandleType)}
    (owns : Owns (fun handle => handle ∈ table) set threads made)
    (thread : ThreadId) (handle : HandleType) :
    (if handle ∈ set (threads thread) then none else table[handle]?) =
      if (thread, handle) ∈ made then none else table[handle]? := by
  by_cases present : handle ∈ table
  · simp only [Attributed.holds_iff owns present]
  · simp [TreeMap.getElem?_eq_none present]

/--
A drain by a thread removes exactly the live objects that the thread itself has
created, whatever other threads have created or destroyed in the meantime, and
leaves the set of the thread empty.
-/
theorem drain_removes_own_objects (configs : Nat)
    (operations : List Operation)
    (few : generated (after configs operations).events < 2 ^ 32)
    (thread : ThreadId) :
    (∀ handle : HandleType,
      (drainRenderContext (after configs operations).renderer
          thread).contexts[handle]? =
        if (thread, handle) ∈ contextsCreated configs operations then none
        else (after configs operations).renderer.contexts[handle]?) ∧
      (∀ handle : HandleType,
        (drainWindowSurface (after configs operations).renderer
            thread).windows[handle]? =
          if (thread, handle) ∈ surfacesCreated configs operations then none
          else (after configs operations).renderer.windows[handle]?) ∧
      (∀ other ≠ thread, ∀ handle : HandleType,
        ((other, handle) ∈ contextsCreated configs operations →
          (thread, handle) ∉ contextsCreated configs operations) ∧
        ((other, handle) ∈ surfacesCreated configs operations →
          (thread, handle) ∉ surfacesCreated configs operations)) ∧
      ((drainRenderContext (after configs operations).renderer
          thread).threads thread).contextSet.isEmpty = true ∧
      ((drainWindowSurface (after configs operations).renderer
          thread).threads thread).windowSet.isEmpty = true := by
  have attended := attended_after configs operations few
  refine ⟨?_, ?_, ?_, drainRenderContext_empties _ thread,
    drainWindowSurface_empties _ thread⟩
  · intro handle
    rw [drainRenderContext_contexts]
    exact attended.ownsContexts.lookup thread handle
  · intro handle
    rw [drainWindowSurface_windows]
    exact attended.ownsSurfaces.lookup thread handle
  · intro other different handle
    exact ⟨fun theirs own =>
        different (attended.ownsContexts.unique _ _ handle theirs own),
      fun theirs own =>
        different (attended.ownsSurfaces.unique _ _ handle theirs own)⟩

/-- One thread destroys a context of another one and creates one itself. -/
def destroyedByOther : List Operation :=
  [.createRenderContext 0 0 0 (some 7), .createRenderContext 0 0 0 (some 8),
    .destroyRenderContext 1 1, .createRenderContext 1 0 0 (some 9)]

theorem drain_removes_own_objects_destroyed_by_other :
    contextsCreated 1 destroyedByOther = [(0, 1), (0, 2), (1, 3)] ∧
      generated (after 1 destroyedByOther).events < 2 ^ 32 ∧
      ((drainRenderContext (after 1 destroyedByOther).renderer
        0).threads 0).contextSet.isEmpty = true := by
  have few : generated (after 1 destroyedByOther).events < 2 ^ 32 := by
    decide +kernel
  exact ⟨by decide +kernel, few,
    (drain_removes_own_objects 1 destroyedByOther few 0).2.2.2.1⟩

end Anbox.Graphics.ThreadCleanup
