import Anbox.Foundation.CyclicSearch
import Anbox.Foundation.Runs
import Std.Data.TreeMap.Lemmas
import Std.Data.TreeSet.Lemmas
import Mathlib.Logic.Function.Basic

/-!
# The renderer's handle tables

`Renderer` keeps the rendering contexts, window surfaces and color buffers of
all render threads in three tables with one handle space.  Color buffers are
counted references; a window surface remembers the handle of the color buffer
that was attached to it last.  Each render thread lists the contexts and
surfaces it created, so that they can be drained when it ends.

Whether the host creates an object is an argument of the create operations: a
missing object is the null pointer that `ColorBuffer::create` and its siblings
return on failure.
-/

namespace Anbox.Graphics.Renderer

open Anbox.Foundation.CyclicSearch
open Anbox.Foundation.Runs
open Std (TreeMap TreeSet)

/-- Type of handles; zero is never the name of an object. -/
abbrev HandleType := UInt32

/-- Identity of a host object. -/
abbrev HostPtr := Nat

abbrev ThreadId := Nat

structure ColorBufferRef where
  cb : HostPtr
  /-- Number of client-side references. -/
  refcount : UInt32
deriving DecidableEq, Repr

abbrev RenderContextMap := TreeMap HandleType HostPtr

abbrev WindowSurfaceMap := TreeMap HandleType (HostPtr × HandleType)

abbrev ColorBufferMap := TreeMap HandleType ColorBufferRef

/-- What a render thread has created and not destroyed itself. -/
structure RenderThreadInfo where
  contextSet : TreeSet HandleType
  windowSet : TreeSet HandleType

/-- The fields of `Renderer` and the thread local data of its callers. -/
structure State where
  /-- The number of entries of `m_configs`. -/
  configs : Nat
  nextHandle : HandleType
  contexts : RenderContextMap
  windows : WindowSurfaceMap
  colorbuffers : ColorBufferMap
  /-- `RenderThreadInfo::get()` of each thread. -/
  threads : ThreadId → RenderThreadInfo

/-- A renderer that has just been initialized with the host's configs. -/
def State.initial (configs : Nat) : State where
  configs := configs
  nextHandle := 0
  contexts := ∅
  windows := ∅
  colorbuffers := ∅
  threads := fun _ => ⟨∅, ∅⟩

def State.setThread (renderer : State) (thread : ThreadId)
    (info : RenderThreadInfo) : State :=
  { renderer with threads := Function.update renderer.threads thread info }

@[simp]
theorem State.setThread_contexts (renderer : State) (thread : ThreadId)
    (info : RenderThreadInfo) :
    (renderer.setThread thread info).contexts = renderer.contexts :=
  rfl

@[simp]
theorem State.setThread_windows (renderer : State) (thread : ThreadId)
    (info : RenderThreadInfo) :
    (renderer.setThread thread info).windows = renderer.windows :=
  rfl

@[simp]
theorem State.setThread_colorbuffers (renderer : State) (thread : ThreadId)
    (info : RenderThreadInfo) :
    (renderer.setThread thread info).colorbuffers = renderer.colorbuffers :=
  rfl

/-! ## Handles -/

/-- The condition under which the loop of `genHandle` ends. -/
def State.acceptsHandle (renderer : State) (id : HandleType) : Bool :=
  !(id == 0 || renderer.contexts.contains id || renderer.windows.contains id)

/--
The handle that `genHandle` returns and leaves in `s_nextHandle`; `none` if its
loop does not end because every handle names a context or a surface.
-/
def State.genHandle (renderer : State) : Option HandleType :=
  search renderer.acceptsHandle renderer.nextHandle

theorem State.acceptsHandle_iff {renderer : State} {id : HandleType} :
    renderer.acceptsHandle id = true ↔
      id ≠ 0 ∧ id ∉ renderer.contexts ∧ id ∉ renderer.windows := by
  simp [acceptsHandle, ← TreeMap.contains_iff_mem, and_assoc]

theorem State.genHandle_spec {renderer : State} {id : HandleType}
    (generated : renderer.genHandle = some id) :
    id ≠ 0 ∧ id ∉ renderer.contexts ∧ id ∉ renderer.windows :=
  State.acceptsHandle_iff.mp (search_accepts generated)

/-- `RendererConfigList::get` finds an entry. -/
def State.hasConfig (renderer : State) (config : Int) : Bool :=
  decide (0 ≤ config ∧ config < renderer.configs)

/-! ## Creating objects

The create operations return the new handle, or zero if the host could not
create the object.  They are `none` if they do not return.
-/

def createColorBuffer (renderer : State) (cb : Option HostPtr) :
    Option (State × HandleType) :=
  match cb with
  | none => some (renderer, 0)
  | some cb => do
      let ret ← renderer.genHandle
      return ({ renderer with
        nextHandle := ret
        colorbuffers := renderer.colorbuffers.insert ret ⟨cb, 1⟩ }, ret)

def createRenderContext (renderer : State) (thread : ThreadId)
    (config : Int) (share : HandleType) (rctx : Option HostPtr) :
    Option (State × HandleType) :=
  if renderer.hasConfig config = false then
    some (renderer, 0)
  else if share ≠ 0 ∧ renderer.contexts.contains share = false then
    some (renderer, 0)
  else
    match rctx with
    | none => some (renderer, 0)
    | some rctx => do
        let ret ← renderer.genHandle
        let info := renderer.threads thread
        let created :=
          { renderer with
            nextHandle := ret
            contexts := renderer.contexts.insert ret rctx }
        return (created.setThread thread
          { info with contextSet := info.contextSet.insert ret }, ret)

def createWindowSurface (renderer : State) (thread : ThreadId)
    (config : Int) (win : Option HostPtr) : Option (State × HandleType) :=
  if renderer.hasConfig config = false then
    some (renderer, 0)
  else
    match win with
    | none => some (renderer, 0)
    | some win => do
        let ret ← renderer.genHandle
        let info := renderer.threads thread
        let created :=
          { renderer with
            nextHandle := ret
            windows := renderer.windows.insert ret (win, 0) }
        return (created.setThread thread
          { info with windowSet := info.windowSet.insert ret }, ret)

/-- A thread remembers a context that it has created. -/
def RenderThreadInfo.enterContext (info : RenderThreadInfo)
    (context : HandleType) : RenderThreadInfo :=
  { info with contextSet := info.contextSet.insert context }

/-- A thread remembers a window surface that it has created. -/
def RenderThreadInfo.enterWindow (info : RenderThreadInfo)
    (surface : HandleType) : RenderThreadInfo :=
  { info with windowSet := info.windowSet.insert surface }

/-- A create operation either fails or enters its object. -/
theorem createColorBuffer_cases
    {renderer next : State} {cb : Option HostPtr} {ret : HandleType}
    (returned : createColorBuffer renderer cb = some (next, ret)) :
    (next = renderer ∧ ret = 0) ∨
      ∃ object,
        cb = some object ∧ renderer.genHandle = some ret ∧
          next =
            { renderer with
              nextHandle := ret
              colorbuffers := renderer.colorbuffers.insert ret ⟨object, 1⟩ } := by
  cases cb with
  | none =>
      obtain ⟨rfl, rfl⟩ := Prod.mk.inj (Option.some.inj returned)
      exact Or.inl ⟨rfl, rfl⟩
  | some object =>
      simp only [createColorBuffer, Option.bind_eq_bind,
        Option.bind_eq_some_iff] at returned
      obtain ⟨handle, generated, same⟩ := returned
      obtain ⟨rfl, rfl⟩ := Prod.mk.inj (Option.some.inj same)
      exact Or.inr ⟨object, rfl, generated, rfl⟩

theorem createRenderContext_cases
    {renderer next : State} {thread : ThreadId} {config : Int}
    {share : HandleType} {rctx : Option HostPtr} {ret : HandleType}
    (returned :
      createRenderContext renderer thread config share rctx =
        some (next, ret)) :
    (next = renderer ∧ ret = 0) ∨
      ∃ object,
        rctx = some object ∧ renderer.hasConfig config = true ∧
          (share ≠ 0 → renderer.contexts.contains share = true) ∧
          renderer.genHandle = some ret ∧
          next =
            { renderer with
              nextHandle := ret
              contexts := renderer.contexts.insert ret object }.setThread
                thread ((renderer.threads thread).enterContext ret) := by
  have failed
      (same : some (renderer, (0 : HandleType)) = some (next, ret)) :
      next = renderer ∧ ret = 0 := by
    obtain ⟨rfl, rfl⟩ := Prod.mk.inj (Option.some.inj same)
    exact ⟨rfl, rfl⟩
  unfold createRenderContext at returned
  split at returned
  · exact Or.inl (failed returned)
  · next config =>
    split at returned
    · exact Or.inl (failed returned)
    · next shared =>
      cases rctx with
      | none => exact Or.inl (failed returned)
      | some object =>
          simp only [Option.bind_eq_bind, Option.bind_eq_some_iff] at returned
          obtain ⟨handle, generated, same⟩ := returned
          obtain ⟨rfl, rfl⟩ := Prod.mk.inj (Option.some.inj same)
          exact Or.inr ⟨object, rfl, by simpa using config,
            by simpa using shared, generated, rfl⟩

theorem createWindowSurface_cases
    {renderer next : State} {thread : ThreadId} {config : Int}
    {win : Option HostPtr} {ret : HandleType}
    (returned :
      createWindowSurface renderer thread config win = some (next, ret)) :
    (next = renderer ∧ ret = 0) ∨
      ∃ object,
        win = some object ∧ renderer.hasConfig config = true ∧
          renderer.genHandle = some ret ∧
          next =
            { renderer with
              nextHandle := ret
              windows := renderer.windows.insert ret (object, 0) }.setThread
                thread ((renderer.threads thread).enterWindow ret) := by
  have failed
      (same : some (renderer, (0 : HandleType)) = some (next, ret)) :
      next = renderer ∧ ret = 0 := by
    obtain ⟨rfl, rfl⟩ := Prod.mk.inj (Option.some.inj same)
    exact ⟨rfl, rfl⟩
  unfold createWindowSurface at returned
  split at returned
  · exact Or.inl (failed returned)
  · next config =>
    cases win with
    | none => exact Or.inl (failed returned)
    | some object =>
        simp only [Option.bind_eq_bind, Option.bind_eq_some_iff] at returned
        obtain ⟨handle, generated, same⟩ := returned
        obtain ⟨rfl, rfl⟩ := Prod.mk.inj (Option.some.inj same)
        exact Or.inr ⟨object, rfl, by simpa using config, generated, rfl⟩

/-! ## References to color buffers -/

/--
Give back one reference and erase the color buffer with the last one.  Nothing
happens if the handle is not in the table.
-/
def releaseColorBuffer (colorbuffers : ColorBufferMap)
    (handle : HandleType) : ColorBufferMap :=
  match colorbuffers[handle]? with
  | none => colorbuffers
  | some entry =>
      if entry.refcount - 1 = 0 then
        colorbuffers.erase handle
      else
        colorbuffers.insert handle
          { entry with refcount := entry.refcount - 1 }

/-- The reference count of a handle after one reference was given back. -/
def released (refcount : UInt32) : Option UInt32 :=
  if refcount - 1 = 0 then none else some (refcount - 1)

/-- The reference counts of the table. -/
def refcounts (colorbuffers : ColorBufferMap) (handle : HandleType) :
    Option UInt32 :=
  colorbuffers[handle]?.map ColorBufferRef.refcount

theorem mem_iff_refcounts {colorbuffers : ColorBufferMap}
    {handle : HandleType} :
    handle ∈ colorbuffers ↔ (refcounts colorbuffers handle).isSome := by
  simp [refcounts]

theorem refcounts_insert (colorbuffers : ColorBufferMap)
    (handle other : HandleType) (entry : ColorBufferRef) :
    refcounts (colorbuffers.insert handle entry) other =
      if other = handle then some entry.refcount
      else refcounts colorbuffers other := by
  by_cases same : other = handle
  · subst other
    simp [refcounts]
  · simp [refcounts, TreeMap.getElem?_insert, same, Ne.symm same]

theorem releaseColorBuffer_of_ne {colorbuffers : ColorBufferMap}
    {handle other : HandleType} (different : other ≠ handle) :
    (releaseColorBuffer colorbuffers handle)[other]? =
      colorbuffers[other]? := by
  unfold releaseColorBuffer
  split
  · rfl
  · split
    · simp [TreeMap.getElem?_erase, Ne.symm different]
    · simp [TreeMap.getElem?_insert, Ne.symm different]

theorem refcounts_releaseColorBuffer (colorbuffers : ColorBufferMap)
    (handle other : HandleType) :
    refcounts (releaseColorBuffer colorbuffers handle) other =
      if other = handle then
        (refcounts colorbuffers handle).bind released
      else refcounts colorbuffers other := by
  by_cases same : other = handle
  · subst other
    unfold releaseColorBuffer
    split
    · next absent => simp [refcounts, absent]
    · next entry found =>
      split
      · next last => simp [refcounts, found, released, last]
      · next more => simp [refcounts, found, released, more]
  · simp only [refcounts, releaseColorBuffer_of_ne same, if_neg same]

/-- Returns whether the handle was found, which is `0` or `-1` in the source. -/
def openColorBuffer (renderer : State) (handle : HandleType) :
    State × Bool :=
  match renderer.colorbuffers[handle]? with
  | none => (renderer, false)
  | some entry =>
      ({ renderer with
        colorbuffers := renderer.colorbuffers.insert handle
          { entry with refcount := entry.refcount + 1 } }, true)

def closeColorBuffer (renderer : State) (handle : HandleType) : State :=
  { renderer with
    colorbuffers := releaseColorBuffer renderer.colorbuffers handle }

/-! ## Window surfaces and contexts -/

/-- One round of the loop of `drainWindowSurface`. -/
def drainWindow (renderer : State) (windowHandle : HandleType) :
    State :=
  match renderer.windows[windowHandle]? with
  | none => renderer
  | some (_, oldColorBufferHandle) =>
      { renderer with
        colorbuffers :=
          if oldColorBufferHandle = 0 then renderer.colorbuffers
          else releaseColorBuffer renderer.colorbuffers oldColorBufferHandle
        windows := renderer.windows.erase windowHandle }

theorem drainWindow_of_not_mem {renderer : State} {surface : HandleType}
    (absent : surface ∉ renderer.windows) :
    drainWindow renderer surface = renderer := by
  simp only [drainWindow, TreeMap.getElem?_eq_none absent]

theorem drainWindow_windows (renderer : State) (surface : HandleType) :
    ∀ other : HandleType,
      (drainWindow renderer surface).windows[other]? =
        if other = surface then none else renderer.windows[other]? := by
  intro other
  unfold drainWindow
  split
  · next absent =>
    split
    · next same => rw [same, absent]
    · rfl
  · by_cases same : other = surface
    · simp [same]
    · simp [TreeMap.getElem?_erase, same, Ne.symm same]

def drainWindowSurface (renderer : State) (thread : ThreadId) : State :=
  let info := renderer.threads thread
  if info.windowSet.isEmpty then renderer
  else
    (info.windowSet.toList.foldl drainWindow renderer).setThread thread
      { info with windowSet := ∅ }

theorem mem_of_mem_foldl_erase {contexts : RenderContextMap}
    {handles : List HandleType} {handle : HandleType}
    (member : handle ∈ handles.foldl TreeMap.erase contexts) :
    handle ∈ contexts := by
  induction handles generalizing contexts with
  | nil => exact member
  | cons erased handles inductionHypothesis =>
      exact TreeMap.mem_of_mem_erase (inductionHypothesis member)

def drainRenderContext (renderer : State) (thread : ThreadId) : State :=
  let info := renderer.threads thread
  if info.contextSet.isEmpty then renderer
  else
    { renderer with
      contexts := info.contextSet.toList.foldl TreeMap.erase
        renderer.contexts }.setThread thread { info with contextSet := ∅ }

def destroyRenderContext (renderer : State) (thread : ThreadId)
    (context : HandleType) : State :=
  let info := renderer.threads thread
  let destroyed :=
    { renderer with contexts := renderer.contexts.erase context }
  if info.contextSet.isEmpty then destroyed
  else
    destroyed.setThread thread
      { info with contextSet := info.contextSet.erase context }

def destroyWindowSurface (renderer : State) (thread : ThreadId)
    (surface : HandleType) : State :=
  if renderer.windows.contains surface = false then renderer
  else
    let info := renderer.threads thread
    let destroyed :=
      { renderer with windows := renderer.windows.erase surface }
    if info.windowSet.isEmpty then destroyed
    else
      destroyed.setThread thread
        { info with windowSet := info.windowSet.erase surface }

/-- Attaching takes no reference to the color buffer. -/
def setWindowSurfaceColorBuffer (renderer : State)
    (surface colorbuffer : HandleType) : State × Bool :=
  match renderer.windows[surface]? with
  | none => (renderer, false)
  | some (win, _) =>
      match renderer.colorbuffers[colorbuffer]? with
      | none => (renderer, false)
      | some _ =>
          ({ renderer with
            windows := renderer.windows.insert surface (win, colorbuffer) },
            true)

/-! ## Any number of render threads

Every operation holds `m_lock` from beginning to end, so a run of the render
threads is a sequence of operations.  A thread that does not return from
`genHandle` keeps the lock for good.
-/

inductive Operation where
  | createColorBuffer (cb : Option HostPtr)
  | createRenderContext (thread : ThreadId) (config : Int)
      (share : HandleType) (rctx : Option HostPtr)
  | createWindowSurface (thread : ThreadId) (config : Int)
      (win : Option HostPtr)
  | drainRenderContext (thread : ThreadId)
  | drainWindowSurface (thread : ThreadId)
  | destroyRenderContext (thread : ThreadId) (context : HandleType)
  | destroyWindowSurface (thread : ThreadId) (surface : HandleType)
  | openColorBuffer (colorbuffer : HandleType)
  | closeColorBuffer (colorbuffer : HandleType)
  | setWindowSurfaceColorBuffer (surface colorbuffer : HandleType)
deriving DecidableEq, Repr

/-- What the operations of a run have done, as far as it is counted. -/
inductive Event where
  | colorBufferCreated (handle : HandleType)
  | contextCreated (handle : HandleType)
  | surfaceCreated (handle : HandleType)
  /-- `openColorBuffer` found the handle. -/
  | opened (handle : HandleType)
  /-- `closeColorBuffer` was called, whether or not it found the handle. -/
  | closed (handle : HandleType)
  /-- `setWindowSurfaceColorBuffer` found both handles. -/
  | attached (surface handle : HandleType)
  /-- `drainWindowSurface` removed the surface. -/
  | drained (surface : HandleType)
deriving DecidableEq, Repr

/-- The window surfaces that `drainWindowSurface` finds and removes. -/
def State.removedSurfaces (renderer : State) (thread : ThreadId) :
    List HandleType :=
  (renderer.threads thread).windowSet.toList.filter
    fun surface => renderer.windows.contains surface

/-- The events of a create operation that returned `ret`. -/
def created (event : HandleType → Event) (ret : HandleType) : List Event :=
  if ret = 0 then [] else [event ret]

/-- Run one operation; `none` if it does not return. -/
def perform (renderer : State) : Operation → Option (State × List Event)
  | .createColorBuffer cb =>
      (createColorBuffer renderer cb).map
        (Prod.map id (created .colorBufferCreated))
  | .createRenderContext thread config share rctx =>
      (createRenderContext renderer thread config share rctx).map
        (Prod.map id (created .contextCreated))
  | .createWindowSurface thread config win =>
      (createWindowSurface renderer thread config win).map
        (Prod.map id (created .surfaceCreated))
  | .drainRenderContext thread =>
      some (drainRenderContext renderer thread, [])
  | .drainWindowSurface thread =>
      some (drainWindowSurface renderer thread,
        (renderer.removedSurfaces thread).map Event.drained)
  | .destroyRenderContext thread context =>
      some (destroyRenderContext renderer thread context, [])
  | .destroyWindowSurface thread surface =>
      some (destroyWindowSurface renderer thread surface, [])
  | .openColorBuffer colorbuffer =>
      let result := openColorBuffer renderer colorbuffer
      some (result.1, if result.2 then [.opened colorbuffer] else [])
  | .closeColorBuffer colorbuffer =>
      some (closeColorBuffer renderer colorbuffer, [.closed colorbuffer])
  | .setWindowSurfaceColorBuffer surface colorbuffer =>
      let result := setWindowSurfaceColorBuffer renderer surface colorbuffer
      some (result.1,
        if result.2 then [.attached surface colorbuffer] else [])

/-- A thread forgets a context, if it has created it. -/
structure RenderThreadInfo.DropsContext (info next : RenderThreadInfo)
    (context : HandleType) : Prop where
  windowSet : next.windowSet = info.windowSet
  contextSet :
    ∀ handle,
      handle ∈ next.contextSet ↔ handle ≠ context ∧ handle ∈ info.contextSet

/-- A thread forgets a window surface, if it has created it. -/
structure RenderThreadInfo.DropsWindow (info next : RenderThreadInfo)
    (surface : HandleType) : Prop where
  contextSet : next.contextSet = info.contextSet
  windowSet :
    ∀ handle,
      handle ∈ next.windowSet ↔ handle ≠ surface ∧ handle ∈ info.windowSet

/-- The ways in which an operation changes the renderer. -/
inductive Performed (renderer : State) :
    Operation → State → List Event → Prop where
  /-- The host failed, a handle was not found or a set was empty. -/
  | unchanged (operation : Operation) :
      Performed renderer operation renderer []
  | colorBufferCreated {ret : HandleType} (cb : HostPtr)
      (generated : renderer.genHandle = some ret) :
      Performed renderer (.createColorBuffer (some cb))
        { renderer with
          nextHandle := ret
          colorbuffers := renderer.colorbuffers.insert ret ⟨cb, 1⟩ }
        [.colorBufferCreated ret]
  | contextCreated {thread : ThreadId} {config : Int}
      {share ret : HandleType} (rctx : HostPtr)
      (found : renderer.hasConfig config = true)
      (shared : share ≠ 0 → renderer.contexts.contains share = true)
      (generated : renderer.genHandle = some ret) :
      Performed renderer
        (.createRenderContext thread config share (some rctx))
        ({ renderer with
          nextHandle := ret
          contexts := renderer.contexts.insert ret rctx }.setThread thread
            ((renderer.threads thread).enterContext ret))
        [.contextCreated ret]
  | surfaceCreated {thread : ThreadId} {config : Int} {ret : HandleType}
      (win : HostPtr) (found : renderer.hasConfig config = true)
      (generated : renderer.genHandle = some ret) :
      Performed renderer (.createWindowSurface thread config (some win))
        ({ renderer with
          nextHandle := ret
          windows := renderer.windows.insert ret (win, 0) }.setThread thread
            ((renderer.threads thread).enterWindow ret))
        [.surfaceCreated ret]
  | contextsDrained (thread : ThreadId) :
      Performed renderer (.drainRenderContext thread)
        ({ renderer with
          contexts :=
            (renderer.threads thread).contextSet.toList.foldl TreeMap.erase
              renderer.contexts }.setThread thread
          { renderer.threads thread with contextSet := ∅ }) []
  | surfacesDrained (thread : ThreadId) :
      Performed renderer (.drainWindowSurface thread)
        (((renderer.threads thread).windowSet.toList.foldl drainWindow
          renderer).setThread thread
            { renderer.threads thread with windowSet := ∅ })
        ((renderer.removedSurfaces thread).map Event.drained)
  | contextDestroyed {thread : ThreadId} {context : HandleType}
      {info : RenderThreadInfo}
      (drops : (renderer.threads thread).DropsContext info context) :
      Performed renderer (.destroyRenderContext thread context)
        ({ renderer with
          contexts := renderer.contexts.erase context }.setThread thread
            info) []
  | surfaceDestroyed {thread : ThreadId} {surface : HandleType}
      {info : RenderThreadInfo}
      (drops : (renderer.threads thread).DropsWindow info surface) :
      Performed renderer (.destroyWindowSurface thread surface)
        ({ renderer with
          windows := renderer.windows.erase surface }.setThread thread
            info) []
  | opened {handle : HandleType} {entry : ColorBufferRef}
      (found : renderer.colorbuffers[handle]? = some entry) :
      Performed renderer (.openColorBuffer handle)
        { renderer with
          colorbuffers := renderer.colorbuffers.insert handle
            { entry with refcount := entry.refcount + 1 } }
        [.opened handle]
  | closed (handle : HandleType) :
      Performed renderer (.closeColorBuffer handle)
        { renderer with
          colorbuffers := releaseColorBuffer renderer.colorbuffers handle }
        [.closed handle]
  | attached {surface handle : HandleType} {window : HostPtr × HandleType}
      {entry : ColorBufferRef}
      (found : renderer.windows[surface]? = some window)
      (present : renderer.colorbuffers[handle]? = some entry) :
      Performed renderer (.setWindowSurfaceColorBuffer surface handle)
        { renderer with
          windows := renderer.windows.insert surface (window.1, handle) }
        [.attached surface handle]

theorem created_of_genHandle {renderer : State} {ret : HandleType}
    (generated : renderer.genHandle = some ret)
    (event : HandleType → Event) :
    created event ret = [event ret] :=
  if_neg (State.genHandle_spec generated).1

/-- A set that is empty does not hold what is erased from it. -/
theorem mem_iff_of_isEmpty {handles : TreeSet HandleType}
    (empty : handles.isEmpty = true) (erased handle : HandleType) :
    handle ∈ handles ↔ handle ≠ erased ∧ handle ∈ handles := by
  have absent : handle ∉ handles := TreeSet.not_mem_of_isEmpty empty
  simp [absent]

theorem mem_erase_handle {handles : TreeSet HandleType}
    (erased handle : HandleType) :
    handle ∈ handles.erase erased ↔ handle ≠ erased ∧ handle ∈ handles := by
  rw [TreeSet.mem_erase]
  simp [ne_comm]

theorem State.setThread_self (renderer : State) (thread : ThreadId) :
    renderer.setThread thread (renderer.threads thread) = renderer := by
  simp [State.setThread]

theorem destroyRenderContext_performed (renderer : State)
    (thread : ThreadId) (context : HandleType) :
    Performed renderer (.destroyRenderContext thread context)
      (destroyRenderContext renderer thread context) [] := by
  simp only [destroyRenderContext]
  split
  · next empty =>
    rw [← State.setThread_self { renderer with
      contexts := renderer.contexts.erase context } thread]
    exact .contextDestroyed ⟨rfl, mem_iff_of_isEmpty empty context⟩
  · exact .contextDestroyed ⟨rfl, mem_erase_handle context⟩

theorem destroyWindowSurface_performed (renderer : State)
    (thread : ThreadId) (surface : HandleType) :
    Performed renderer (.destroyWindowSurface thread surface)
      (destroyWindowSurface renderer thread surface) [] := by
  simp only [destroyWindowSurface]
  split
  · exact .unchanged _
  · split
    · next empty =>
      rw [← State.setThread_self { renderer with
        windows := renderer.windows.erase surface } thread]
      exact .surfaceDestroyed ⟨rfl, mem_iff_of_isEmpty empty surface⟩
    · exact .surfaceDestroyed ⟨rfl, mem_erase_handle surface⟩

theorem drainWindowSurface_performed (renderer : State)
    (thread : ThreadId) :
    Performed renderer (.drainWindowSurface thread)
      (drainWindowSurface renderer thread)
      ((renderer.removedSurfaces thread).map Event.drained) := by
  simp only [drainWindowSurface]
  split
  · next empty =>
    have noSurface : (renderer.threads thread).windowSet.toList = [] :=
      List.isEmpty_iff.mp (TreeSet.isEmpty_toList.trans empty)
    rw [State.removedSurfaces, noSurface]
    exact .unchanged _
  · exact .surfacesDrained thread

/-- Every operation does one of these things. -/
theorem perform_performed {renderer next : State} {operation : Operation}
    {events : List Event}
    (performed : perform renderer operation = some (next, events)) :
    Performed renderer operation next events := by
  cases operation with
  | createColorBuffer cb =>
      simp only [perform, Option.map_eq_some_iff] at performed
      rcases performed with ⟨⟨next, ret⟩, returned, same⟩
      cases same
      rcases createColorBuffer_cases returned with
        ⟨rfl, rfl⟩ | ⟨object, rfl, generated, rfl⟩
      · exact .unchanged _
      · rw [created_of_genHandle generated]
        exact .colorBufferCreated object generated
  | createRenderContext thread config share rctx =>
      simp only [perform, Option.map_eq_some_iff] at performed
      rcases performed with ⟨⟨next, ret⟩, returned, same⟩
      cases same
      rcases createRenderContext_cases returned with
        ⟨rfl, rfl⟩ | ⟨object, rfl, found, shared, generated, rfl⟩
      · exact .unchanged _
      · rw [created_of_genHandle generated]
        exact .contextCreated object found shared generated
  | createWindowSurface thread config win =>
      simp only [perform, Option.map_eq_some_iff] at performed
      rcases performed with ⟨⟨next, ret⟩, returned, same⟩
      cases same
      rcases createWindowSurface_cases returned with
        ⟨rfl, rfl⟩ | ⟨object, rfl, found, generated, rfl⟩
      · exact .unchanged _
      · rw [created_of_genHandle generated]
        exact .surfaceCreated object found generated
  | drainRenderContext thread =>
      cases performed
      simp only [drainRenderContext]
      split
      · exact .unchanged _
      · exact .contextsDrained thread
  | drainWindowSurface thread =>
      cases performed
      exact drainWindowSurface_performed renderer thread
  | destroyRenderContext thread context =>
      cases performed
      exact destroyRenderContext_performed renderer thread context
  | destroyWindowSurface thread surface =>
      cases performed
      exact destroyWindowSurface_performed renderer thread surface
  | openColorBuffer handle =>
      cases performed
      cases found : renderer.colorbuffers[handle]? with
      | none =>
          simp only [openColorBuffer, found]
          exact .unchanged _
      | some entry =>
          simp only [openColorBuffer, found]
          exact .opened found
  | closeColorBuffer handle =>
      cases performed
      exact .closed handle
  | setWindowSurfaceColorBuffer surface handle =>
      cases performed
      cases found : renderer.windows[surface]? with
      | none =>
          simp only [setWindowSurfaceColorBuffer, found]
          exact .unchanged _
      | some window =>
          cases present : renderer.colorbuffers[handle]? with
          | none =>
              simp only [setWindowSurfaceColorBuffer, found, present]
              exact .unchanged _
          | some entry =>
              simp only [setWindowSurfaceColorBuffer, found, present]
              exact .attached found present

/-- A renderer together with its history. -/
structure System where
  renderer : State
  /-- A thread holds `m_lock` and is never going to release it. -/
  hung : Bool
  events : List Event

def System.initial (configs : Nat) : System :=
  ⟨State.initial configs, false, []⟩

def step (system : System) (operation : Operation) : System :=
  if system.hung then system
  else
    match perform system.renderer operation with
    | none => { system with hung := true }
    | some (renderer, events) =>
        { system with
          renderer := renderer
          events := system.events ++ events }

/-- A step either leaves the tables alone or performs its operation. -/
theorem step_cases (system : System) (operation : Operation) :
    ((step system operation).renderer = system.renderer ∧
      (step system operation).events = system.events) ∨
    ∃ events,
      Performed system.renderer operation (step system operation).renderer
          events ∧
        (step system operation).events = system.events ++ events := by
  unfold step
  split
  · exact Or.inl ⟨rfl, rfl⟩
  · split
    · exact Or.inl ⟨rfl, rfl⟩
    · next renderer events performed =>
      exact Or.inr ⟨events, perform_performed performed, rfl⟩

theorem step_events (system : System) (operation : Operation) :
    ∃ events, (step system operation).events = system.events ++ events := by
  rcases step_cases system operation with
    ⟨-, same⟩ | ⟨events, -, appended⟩
  · exact ⟨[], by rw [same, List.append_nil]⟩
  · exact ⟨events, appended⟩

/-- The system after a run on a new renderer. -/
def after (configs : Nat) (operations : List Operation) : System :=
  runFrom step (System.initial configs) operations

theorem after_append (configs : Nat) (earlier later : List Operation) :
    after configs (earlier ++ later) =
      runFrom step (after configs earlier) later :=
  runFrom_append step _ earlier later

theorem runFrom_events (system : System) (operations : List Operation) :
    ∃ events,
      (runFrom step system operations).events = system.events ++ events := by
  induction operations generalizing system with
  | nil => exact ⟨[], (List.append_nil _).symm⟩
  | cons operation operations inductionHypothesis =>
      obtain ⟨first, appended⟩ := step_events system operation
      obtain ⟨rest, followed⟩ := inductionHypothesis (step system operation)
      refine ⟨first ++ rest, ?_⟩
      rw [runFrom_cons, followed, appended, List.append_assoc]

end Anbox.Graphics.Renderer
