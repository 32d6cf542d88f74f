import Anbox.Graphics.Renderer
import Mathlib.Data.List.Count
import Mathlib.Tactic.Ring

/-!
# The ledger of color buffer references

The ledger is kept from the history alone: a color buffer begins with one
reference, an open adds one, and a close or the drain of a surface that the
buffer was attached to last takes one away.  A color buffer is live as long as
references remain.

The renderer's table of color buffers is shown to be the ledger, with the
number of remaining references in a 32-bit reference count.
-/

namespace Anbox.Graphics.ColorBufferLedger

open Anbox.Foundation.CyclicSearch
open Anbox.Graphics.Renderer
open Std (TreeMap TreeSet)

/-! ## The ledger -/

structure Ledger where
  created : HandleType → Bool
  /-- Opens of a handle while it was live. -/
  opens : HandleType → Nat
  /-- Closes of a handle while it was live. -/
  closes : HandleType → Nat
  /-- Drained surfaces that were last attached to a handle while it was live. -/
  drains : HandleType → Nat
  /-- The color buffer that was attached last to a surface. -/
  attached : HandleType → Option HandleType

def Ledger.empty : Ledger where
  created := fun _ => false
  opens := fun _ => 0
  closes := fun _ => 0
  drains := fun _ => 0
  attached := fun _ => none

/-- The number of references that have not been given back. -/
def Ledger.remaining (ledger : Ledger) (handle : HandleType) : Int :=
  1 + ledger.opens handle - ledger.closes handle - ledger.drains handle

def Ledger.Live (ledger : Ledger) (handle : HandleType) : Prop :=
  ledger.created handle = true ∧ 0 < ledger.remaining handle

instance (ledger : Ledger) (handle : HandleType) :
    Decidable (ledger.Live handle) :=
  inferInstanceAs (Decidable (_ ∧ _))

/-- Add one to the count of a handle. -/
def bump (counts : HandleType → Nat) (handle : HandleType) :
    HandleType → Nat :=
  Function.update counts handle (counts handle + 1)

def Ledger.record (ledger : Ledger) : Event → Ledger
  | .colorBufferCreated handle =>
      { ledger with created := Function.update ledger.created handle true }
  | .contextCreated _ => ledger
  | .surfaceCreated surface =>
      { ledger with attached := Function.update ledger.attached surface none }
  | .opened handle =>
      if ledger.Live handle then
        { ledger with opens := bump ledger.opens handle }
      else ledger
  | .closed handle =>
      if ledger.Live handle then
        { ledger with closes := bump ledger.closes handle }
      else ledger
  | .attached surface handle =>
      { ledger with
        attached := Function.update ledger.attached surface (some handle) }
  | .drained surface =>
      match ledger.attached surface with
      | none => ledger
      | some handle =>
          if ledger.Live handle then
            { ledger with drains := bump ledger.drains handle }
          else ledger

/-- The ledger of a history. -/
def replay (events : List Event) : Ledger :=
  events.foldl Ledger.record Ledger.empty

theorem replay_append (events more : List Event) :
    replay (events ++ more) = more.foldl Ledger.record (replay events) :=
  List.foldl_append

/-- Whether an event gives out a handle. -/
def generates : Event → Bool
  | .colorBufferCreated _ | .contextCreated _ | .surfaceCreated _ => true
  | _ => false

/-- The number of handles that were generated. -/
def generated (events : List Event) : Nat :=
  events.countP generates

/-- The reference count that the ledger predicts, if the handle is live. -/
def Ledger.refcount (ledger : Ledger) (handle : HandleType) :
    Option UInt32 :=
  if ledger.Live handle then
    some (UInt32.ofNat (ledger.remaining handle).toNat)
  else none

theorem Ledger.refcount_of_live {ledger : Ledger} {handle : HandleType}
    (live : ledger.Live handle) :
    ledger.refcount handle =
      some (UInt32.ofNat (ledger.remaining handle).toNat) :=
  if_pos live

theorem Ledger.refcount_of_not_live {ledger : Ledger} {handle : HandleType}
    (dead : ¬ledger.Live handle) :
    ledger.refcount handle = none :=
  if_neg dead

theorem Ledger.refcount_congr {ledger other : Ledger} {handle : HandleType}
    (created : ledger.created handle = other.created handle)
    (remaining : ledger.remaining handle = other.remaining handle) :
    ledger.refcount handle = other.refcount handle := by
  have sameLive : ledger.Live handle ↔ other.Live handle := by
    rw [Ledger.Live, Ledger.Live, created, remaining]
  by_cases live : ledger.Live handle
  · rw [Ledger.refcount_of_live live,
      Ledger.refcount_of_live (sameLive.mp live), remaining]
  · rw [Ledger.refcount_of_not_live live,
      Ledger.refcount_of_not_live (mt sameLive.mpr live)]

/-! ## Taking one reference away -/

/-- One reference of a handle is given back, if the handle is live. -/
structure Ledger.GivesBack (before next : Ledger) (handle : HandleType) :
    Prop where
  created : next.created = before.created
  live :
    before.Live handle →
      next.remaining handle = before.remaining handle - 1
  dead :
    ¬before.Live handle →
      next.remaining handle = before.remaining handle
  others :
    ∀ other, other ≠ handle → next.remaining other = before.remaining other
  attached : next.attached = before.attached
  opens : next.opens = before.opens

theorem Ledger.givesBack_closed (ledger : Ledger) (handle : HandleType) :
    ledger.GivesBack (ledger.record (.closed handle)) handle := by
  simp only [Ledger.record]
  split
  · next live =>
    refine ⟨rfl, fun _ => ?_, fun dead => absurd live dead, ?_, rfl, rfl⟩
    · simp only [Ledger.remaining, bump, Function.update_self]
      push_cast
      ring
    · intro other different
      simp [Ledger.remaining, bump, different]
  · next dead =>
    exact ⟨rfl, fun live => absurd live dead, fun _ => rfl, fun _ _ => rfl,
      rfl, rfl⟩

theorem Ledger.givesBack_drained (ledger : Ledger)
    {surface handle : HandleType}
    (attached : ledger.attached surface = some handle) :
    ledger.GivesBack (ledger.record (.drained surface)) handle := by
  simp only [Ledger.record, attached]
  split
  · next live =>
    refine ⟨rfl, fun _ => ?_, fun dead => absurd live dead, ?_, rfl, rfl⟩
    · simp only [Ledger.remaining, bump, Function.update_self]
      push_cast
      ring
    · intro other different
      simp [Ledger.remaining, bump, different]
  · next dead =>
    exact ⟨rfl, fun live => absurd live dead, fun _ => rfl, fun _ _ => rfl,
      rfl, rfl⟩

/-- A 32-bit count of at most `2 ^ 32` references, one of which is given back. -/
theorem released_ofNat {count : Nat} (positive : 0 < count)
    (small : count ≤ 2 ^ 32) :
    released (UInt32.ofNat count) =
      if count = 1 then none else some (UInt32.ofNat (count - 1)) := by
  have less : UInt32.ofNat count - 1 = UInt32.ofNat (count - 1) := by
    apply UInt32.toNat_inj.mp
    simp only [UInt32.toNat_sub, UInt32.toNat_ofNat', UInt32.toNat_one]
    omega
  have zero : UInt32.ofNat (count - 1) = 0 ↔ count = 1 := by
    rw [← UInt32.toNat_inj]
    simp only [UInt32.toNat_ofNat', UInt32.toNat_zero]
    omega
  rw [released, less]
  simp only [zero]

/-- Giving back a reference changes the count as `releaseColorBuffer` does. -/
theorem Ledger.GivesBack.refcount
    {before next : Ledger} {handle : HandleType}
    (givesBack : before.GivesBack next handle)
    (small : before.remaining handle ≤ 2 ^ 32)
    (other : HandleType) :
    next.refcount other =
      if other = handle then (before.refcount handle).bind released
      else before.refcount other := by
  have sameCreated : ∀ other, next.created other = before.created other :=
    fun other => congrFun givesBack.created other
  by_cases same : other = handle
  · subst other
    rw [if_pos rfl]
    by_cases live : before.Live handle
    · have fewer := givesBack.live live
      have positive := live.2
      rw [Ledger.refcount_of_live live, Option.bind_some,
        released_ofNat (by omega) (by omega)]
      split
      · next last =>
        refine Ledger.refcount_of_not_live fun stillLive => ?_
        have stillPositive := stillLive.2
        omega
      · next more =>
        have stillLive : next.Live handle :=
          ⟨(sameCreated handle).trans live.1, by omega⟩
        have lowered :
            (next.remaining handle).toNat =
              (before.remaining handle).toNat - 1 := by
          omega
        rw [Ledger.refcount_of_live stillLive, lowered]
    · rw [Ledger.refcount_congr (sameCreated handle) (givesBack.dead live),
        Ledger.refcount_of_not_live live, Option.bind_none]
  · rw [if_neg same]
    exact Ledger.refcount_congr (sameCreated other)
      (givesBack.others other same)

/-! ## The renderer keeps the ledger -/

/-- Every handle in use was given out by the counter. -/
def GivenOut (renderer : State) (handle : HandleType) : Prop :=
  0 < handle.toNat ∧ handle.toNat ≤ renderer.nextHandle.toNat

theorem GivenOut.mono {renderer next : State} {handle : HandleType}
    (given : GivenOut renderer handle)
    (later : renderer.nextHandle.toNat ≤ next.nextHandle.toNat) :
    GivenOut next handle :=
  ⟨given.1, given.2.trans later⟩

/-- Before the counter wraps, the next handle is one more than the last. -/
theorem genHandle_of_givenOut {renderer : State}
    (contexts : ∀ handle ∈ renderer.contexts, GivenOut renderer handle)
    (windows : ∀ handle ∈ renderer.windows, GivenOut renderer handle)
    (room : renderer.nextHandle.toNat + 1 < 2 ^ 32) :
    renderer.genHandle = some (renderer.nextHandle + 1) ∧
      (renderer.nextHandle + 1).toNat = renderer.nextHandle.toNat + 1 ∧
        ¬GivenOut renderer (renderer.nextHandle + 1) := by
  have next : (renderer.nextHandle + 1).toNat =
      renderer.nextHandle.toNat + 1 := by
    rw [UInt32.toNat_add, UInt32.toNat_one]
    exact Nat.mod_eq_of_lt room
  have unused : ¬GivenOut renderer (renderer.nextHandle + 1) := by
    rintro ⟨-, atMost⟩
    rw [next] at atMost
    omega
  refine ⟨search_of_accepts_next
    (State.acceptsHandle_iff.mpr ⟨?_, ?_, ?_⟩), next, unused⟩
  · intro zero
    rw [zero, UInt32.toNat_zero] at next
    omega
  · exact fun member => unused (contexts _ member)
  · exact fun member => unused (windows _ member)

/--
What a renderer and its ledger have in common after `handles` handles were
given out and before the counter wraps.
-/
structure Balanced (renderer : State) (ledger : Ledger) (handles : Nat) :
    Prop where
  counter : renderer.nextHandle.toNat = handles
  contexts : ∀ handle ∈ renderer.contexts, GivenOut renderer handle
  windows : ∀ handle ∈ renderer.windows, GivenOut renderer handle
  created :
    ∀ handle, ledger.created handle = true → GivenOut renderer handle
  untouched :
    ∀ handle, ledger.created handle = false → ledger.remaining handle = 1
  refcount :
    ∀ handle,
      refcounts renderer.colorbuffers handle = ledger.refcount handle
  /-- The second component of a surface is what was attached last. -/
  attached :
    ∀ surface entry, renderer.windows[surface]? = some entry →
      entry.2 = (ledger.attached surface).getD 0
  attachedCreated :
    ∀ surface handle, ledger.attached surface = some handle →
      ledger.created handle = true
  nonnegative : ∀ handle, 0 ≤ ledger.remaining handle

/-- No handle was opened more often than a 32-bit counter can tell apart. -/
def Ledger.FewOpens (ledger : Ledger) : Prop :=
  ∀ handle, ledger.opens handle < 2 ^ 32

theorem balanced_initial (configs : Nat) :
    Balanced (State.initial configs) Ledger.empty 0 := by
  constructor <;>
    simp [State.initial, Ledger.empty, Ledger.remaining, refcounts,
      Ledger.refcount, Ledger.Live]

theorem Ledger.FewOpens.remaining_le {ledger : Ledger}
    (few : ledger.FewOpens) (handle : HandleType) :
    ledger.remaining handle ≤ 2 ^ 32 := by
  have opens := few handle
  unfold Ledger.remaining
  omega

section

variable {renderer : State} {ledger : Ledger} {handles : Nat}

theorem Balanced.mem_iff_live (balanced : Balanced renderer ledger handles)
    {handle : HandleType} :
    handle ∈ renderer.colorbuffers ↔ ledger.Live handle := by
  rw [mem_iff_refcounts, balanced.refcount]
  by_cases live : ledger.Live handle
  · simp [Ledger.refcount_of_live live, live]
  · simp [Ledger.refcount_of_not_live live, live]

theorem Balanced.genHandle (balanced : Balanced renderer ledger handles)
    (room : handles + 1 < 2 ^ 32) :
    renderer.genHandle = some (renderer.nextHandle + 1) ∧
      (renderer.nextHandle + 1).toNat = handles + 1 ∧
        ledger.created (renderer.nextHandle + 1) = false := by
  rw [← balanced.counter] at room ⊢
  rcases genHandle_of_givenOut balanced.contexts balanced.windows room with
    ⟨next, counted, unused⟩
  exact ⟨next, counted, Bool.eq_false_iff.mpr
    fun created => unused (balanced.created _ created)⟩

/-- A reference is given back in the table and in the ledger. -/
theorem Balanced.givesBack (balanced : Balanced renderer ledger handles)
    (few : ledger.FewOpens) {next : Ledger} {handle : HandleType}
    (givesBack : ledger.GivesBack next handle) :
    Balanced
      { renderer with
        colorbuffers := releaseColorBuffer renderer.colorbuffers handle }
      next handles where
  counter := balanced.counter
  contexts := balanced.contexts
  windows := balanced.windows
  created := by
    rw [givesBack.created]
    exact balanced.created
  untouched := by
    intro other uncreated
    rw [givesBack.created] at uncreated
    have one := balanced.untouched other uncreated
    by_cases same : other = handle
    · subst other
      rw [givesBack.dead (by simp [Ledger.Live, uncreated]), one]
    · rw [givesBack.others other same, one]
  refcount := by
    intro other
    rw [givesBack.refcount (few.remaining_le handle),
      refcounts_releaseColorBuffer, balanced.refcount, balanced.refcount]
  attached := by
    rw [givesBack.attached]
    exact balanced.attached
  attachedCreated := by
    rw [givesBack.attached, givesBack.created]
    exact balanced.attachedCreated
  nonnegative := by
    intro other
    have before := balanced.nonnegative other
    by_cases same : other = handle
    · subst other
      by_cases live : ledger.Live handle
      · have positive := live.2
        rw [givesBack.live live]
        omega
      · rwa [givesBack.dead live]
    · rwa [givesBack.others other same]

/-- Contexts and surfaces may go away without a trace in the ledger. -/
theorem Balanced.remove {next : State}
    (balanced : Balanced renderer ledger handles)
    (nextHandle : next.nextHandle = renderer.nextHandle)
    (colorbuffers : next.colorbuffers = renderer.colorbuffers)
    (contexts : ∀ handle ∈ next.contexts, handle ∈ renderer.contexts)
    (windows :
      ∀ (handle : HandleType) entry, next.windows[handle]? = some entry →
        renderer.windows[handle]? = some entry) :
    Balanced next ledger handles where
  counter := by rw [nextHandle, balanced.counter]
  contexts := by
    intro handle member
    rw [GivenOut, nextHandle]
    exact balanced.contexts handle (contexts handle member)
  windows := by
    intro handle member
    rw [GivenOut, nextHandle]
    obtain ⟨entry, found⟩ := Option.isSome_iff_exists.mp
      (TreeMap.isSome_getElem?_iff_mem.mpr member)
    exact balanced.windows handle (TreeMap.mem_iff_isSome_getElem?.mpr
      (by simp [windows handle entry found]))
  created := by
    intro handle created
    rw [GivenOut, nextHandle]
    exact balanced.created handle created
  untouched := balanced.untouched
  refcount := by
    rw [colorbuffers]
    exact balanced.refcount
  attached := by
    intro surface entry found
    exact balanced.attached surface entry (windows surface entry found)
  attachedCreated := balanced.attachedCreated
  nonnegative := balanced.nonnegative

theorem getElem?_of_getElem?_erase {windows : WindowSurfaceMap}
    {surface handle : HandleType} {entry : HostPtr × HandleType}
    (found : (windows.erase surface)[handle]? = some entry) :
    windows[handle]? = some entry := by
  rw [TreeMap.getElem?_erase] at found
  split at found
  · cases found
  · exact found

/-- A surface is removed and gives back what was attached to it last. -/
theorem Balanced.drainWindow (balanced : Balanced renderer ledger handles)
    (few : ledger.FewOpens) {surface : HandleType}
    (member : surface ∈ renderer.windows) :
    Balanced (drainWindow renderer surface)
      (ledger.record (.drained surface)) handles := by
  obtain ⟨⟨win, old⟩, found⟩ := Option.isSome_iff_exists.mp
    (TreeMap.isSome_getElem?_iff_mem.mpr member)
  have oldAttached := balanced.attached surface _ found
  simp only [Renderer.drainWindow, found]
  cases attached : ledger.attached surface with
  | none =>
      rw [attached, Option.getD_none] at oldAttached
      rw [if_pos oldAttached]
      simp only [Ledger.record, attached]
      exact balanced.remove rfl rfl (fun _ member => member)
        fun _ _ => getElem?_of_getElem?_erase
  | some handle =>
      rw [attached, Option.getD_some] at oldAttached
      subst oldAttached
      have nonzero : old ≠ 0 := by
        rintro rfl
        have given :=
          balanced.created 0 (balanced.attachedCreated surface 0 attached)
        exact absurd given.1 (by decide)
      rw [if_neg nonzero]
      exact (balanced.givesBack few
        (ledger.givesBack_drained attached)).remove rfl rfl
          (fun _ member => member) fun _ _ => getElem?_of_getElem?_erase

theorem Ledger.record_drained_opens (ledger : Ledger)
    (surface : HandleType) :
    (ledger.record (.drained surface)).opens = ledger.opens := by
  simp only [Ledger.record]
  split
  · rfl
  · split <;> rfl

/-- The loop of `drainWindowSurface` over distinct surfaces. -/
theorem Balanced.drainWindows {surfaces : List HandleType}
    (distinct : surfaces.Nodup)
    (balanced : Balanced renderer ledger handles) (few : ledger.FewOpens) :
    Balanced (surfaces.foldl Renderer.drainWindow renderer)
      (((surfaces.filter fun surface =>
        renderer.windows.contains surface).map Event.drained).foldl
          Ledger.record ledger) handles := by
  induction surfaces generalizing renderer ledger with
  | nil => exact balanced
  | cons surface surfaces inductionHypothesis =>
      obtain ⟨notAgain, distinct⟩ := List.nodup_cons.mp distinct
      rw [List.foldl_cons]
      by_cases member : surface ∈ renderer.windows
      · have contained : renderer.windows.contains surface = true :=
          TreeMap.contains_iff_mem.mpr member
        have others :
            (surfaces.filter fun other => renderer.windows.contains other) =
              surfaces.filter fun other =>
                (Renderer.drainWindow renderer surface).windows.contains
                  other := by
          refine List.filter_congr fun other listed => ?_
          have different : other ≠ surface :=
            fun same => notAgain (same ▸ listed)
          rw [TreeMap.contains_eq_isSome_getElem?,
            TreeMap.contains_eq_isSome_getElem?, drainWindow_windows,
            if_neg different]
        rw [List.filter_cons_of_pos contained, List.map_cons,
          List.foldl_cons, others]
        exact inductionHypothesis distinct (balanced.drainWindow few member)
          (by rwa [Ledger.FewOpens, Ledger.record_drained_opens])
      · have missing : ¬renderer.windows.contains surface = true :=
          mt TreeMap.contains_iff_mem.mp member
        rw [drainWindow_of_not_mem member, List.filter_cons_of_neg missing]
        exact inductionHypothesis distinct balanced few

theorem Ledger.remaining_opened {handle : HandleType}
    (live : ledger.Live handle) (other : HandleType) :
    (ledger.record (.opened handle)).remaining other =
      ledger.remaining other + if other = handle then 1 else 0 := by
  simp only [Ledger.record, if_pos live, Ledger.remaining, bump]
  by_cases same : other = handle
  · subst other
    simp only [Function.update_self, if_true]
    push_cast
    ring
  · simp [same]

theorem Balanced.openColorBuffer (balanced : Balanced renderer ledger handles)
    {handle : HandleType} {entry : ColorBufferRef}
    (found : renderer.colorbuffers[handle]? = some entry) :
    Balanced
      { renderer with
        colorbuffers := renderer.colorbuffers.insert handle
          { entry with refcount := entry.refcount + 1 } }
      (ledger.record (.opened handle)) handles := by
  have live : ledger.Live handle :=
    balanced.mem_iff_live.mp
      (TreeMap.mem_iff_isSome_getElem?.mpr (by simp [found]))
  have created :
      (ledger.record (.opened handle)).created = ledger.created := by
    simp only [Ledger.record, if_pos live]
  have attached :
      (ledger.record (.opened handle)).attached = ledger.attached := by
    simp only [Ledger.record, if_pos live]
  have remaining := Ledger.remaining_opened live
  constructor
  case counter => exact balanced.counter
  case contexts => exact balanced.contexts
  case windows => exact balanced.windows
  case created =>
    rw [created]
    exact balanced.created
  case untouched =>
    intro other uncreated
    rw [created] at uncreated
    have different : other ≠ handle := by
      rintro rfl
      rw [live.1] at uncreated
      cases uncreated
    rw [remaining, if_neg different, balanced.untouched other uncreated,
      add_zero]
  case refcount =>
    intro other
    rw [refcounts_insert]
    by_cases same : other = handle
    · subst other
      have count : some entry.refcount = ledger.refcount handle := by
        rw [← balanced.refcount, refcounts, found, Option.map_some]
      rw [Ledger.refcount_of_live live] at count
      have positive := live.2
      have stillLive : (ledger.record (.opened handle)).Live handle := by
        refine ⟨by rw [created, live.1], ?_⟩
        rw [remaining, if_pos rfl]
        omega
      have more :
          (ledger.remaining handle + 1).toNat =
            (ledger.remaining handle).toNat + 1 := by
        omega
      rw [if_pos rfl, Ledger.refcount_of_live stillLive, remaining,
        if_pos rfl, more, Option.some.inj count, UInt32.ofNat_add]
      rfl
    · rw [if_neg same, balanced.refcount]
      refine Ledger.refcount_congr (congrFun created other).symm ?_
      rw [remaining, if_neg same, add_zero]
  case attached =>
    rw [attached]
    exact balanced.attached
  case attachedCreated =>
    rw [attached, created]
    exact balanced.attachedCreated
  case nonnegative =>
    intro other
    have before := balanced.nonnegative other
    rw [remaining]
    split <;> omega

theorem Balanced.attach (balanced : Balanced renderer ledger handles)
    {surface handle : HandleType} {win : HostPtr} {old : HandleType}
    (found : renderer.windows[surface]? = some (win, old))
    (present : handle ∈ renderer.colorbuffers) :
    Balanced
      { renderer with
        windows := renderer.windows.insert surface (win, handle) }
      (ledger.record (.attached surface handle)) handles where
  counter := balanced.counter
  contexts := balanced.contexts
  windows := by
    intro other member
    rcases TreeMap.mem_insert.mp member with same | before
    · obtain rfl : surface = other := by simpa using same
      exact balanced.windows surface
        (TreeMap.mem_iff_isSome_getElem?.mpr (by simp [found]))
    · exact balanced.windows other before
  created := balanced.created
  untouched := balanced.untouched
  refcount := balanced.refcount
  attached := by
    intro other entry found
    simp only [Ledger.record]
    by_cases same : other = surface
    · subst other
      rw [TreeMap.getElem?_insert_self] at found
      obtain rfl := Option.some.inj found
      simp
    · rw [Function.update_of_ne same]
      refine balanced.attached other entry ?_
      simpa [TreeMap.getElem?_insert, Ne.symm same] using found
  attachedCreated := by
    intro other attachedHandle attached
    simp only [Ledger.record] at attached ⊢
    by_cases same : other = surface
    · subst other
      rw [Function.update_self] at attached
      obtain rfl := Option.some.inj attached
      exact (balanced.mem_iff_live.mp present).1
    · rw [Function.update_of_ne same] at attached
      exact balanced.attachedCreated other attachedHandle attached
  nonnegative := balanced.nonnegative

/-- Giving out the next handle keeps all earlier ones given out. -/
theorem Balanced.advance (balanced : Balanced renderer ledger handles)
    (next : State) (counted : next.nextHandle.toNat = handles + 1) :
    renderer.nextHandle.toNat ≤ next.nextHandle.toNat ∧
      GivenOut next next.nextHandle := by
  have before := balanced.counter
  unfold GivenOut
  omega

theorem Balanced.enterContext (balanced : Balanced renderer ledger handles)
    {handle : HandleType} (counted : handle.toNat = handles + 1)
    (rctx : HostPtr) :
    Balanced
      { renderer with
        nextHandle := handle
        contexts := renderer.contexts.insert handle rctx }
      (ledger.record (.contextCreated handle)) (handles + 1) := by
  obtain ⟨later, newest⟩ := balanced.advance
    { renderer with
      nextHandle := handle
      contexts := renderer.contexts.insert handle rctx } counted
  exact
    { counter := counted
      contexts := by
        intro other member
        rcases TreeMap.mem_insert.mp member with same | before
        · obtain rfl : handle = other := by simpa using same
          exact newest
        · exact (balanced.contexts other before).mono later
      windows := fun other member => (balanced.windows other member).mono later
      created := fun other created => (balanced.created other created).mono later
      untouched := balanced.untouched
      refcount := balanced.refcount
      attached := balanced.attached
      attachedCreated := balanced.attachedCreated
      nonnegative := balanced.nonnegative }

theorem Balanced.enterSurface (balanced : Balanced renderer ledger handles)
    {handle : HandleType} (counted : handle.toNat = handles + 1)
    (win : HostPtr) :
    Balanced
      { renderer with
        nextHandle := handle
        windows := renderer.windows.insert handle (win, 0) }
      (ledger.record (.surfaceCreated handle)) (handles + 1) := by
  obtain ⟨later, newest⟩ := balanced.advance
    { renderer with
      nextHandle := handle
      windows := renderer.windows.insert handle (win, 0) } counted
  constructor
  case counter => exact counted
  case contexts =>
    exact fun other member => (balanced.contexts other member).mono later
  case windows =>
    intro other member
    rcases TreeMap.mem_insert.mp member with same | before
    · obtain rfl : handle = other := by simpa using same
      exact newest
    · exact (balanced.windows other before).mono later
  case created =>
    exact fun other created => (balanced.created other created).mono later
  case untouched => exact balanced.untouched
  case refcount => exact balanced.refcount
  case attached =>
    intro other entry found
    simp only [Ledger.record]
    by_cases same : other = handle
    · subst other
      rw [TreeMap.getElem?_insert_self] at found
      obtain rfl := Option.some.inj found
      simp
    · rw [Function.update_of_ne same]
      refine balanced.attached other entry ?_
      simpa [TreeMap.getElem?_insert, Ne.symm same] using found
  case attachedCreated =>
    intro other attachedHandle attached
    simp only [Ledger.record] at attached ⊢
    by_cases same : other = handle
    · subst other
      rw [Function.update_self] at attached
      cases attached
    · rw [Function.update_of_ne same] at attached
      exact balanced.attachedCreated other attachedHandle attached
  case nonnegative => exact balanced.nonnegative

theorem Balanced.enterColorBuffer
    (balanced : Balanced renderer ledger handles)
    {handle : HandleType} (counted : handle.toNat = handles + 1)
    (fresh : ledger.created handle = false) (cb : HostPtr) :
    Balanced
      { renderer with
        nextHandle := handle
        colorbuffers := renderer.colorbuffers.insert handle ⟨cb, 1⟩ }
      (ledger.record (.colorBufferCreated handle)) (handles + 1) := by
  obtain ⟨later, newest⟩ := balanced.advance
    { renderer with
      nextHandle := handle
      colorbuffers := renderer.colorbuffers.insert handle ⟨cb, 1⟩ } counted
  constructor
  case counter => exact counted
  case contexts =>
    exact fun other member => (balanced.contexts other member).mono later
  case windows =>
    exact fun other member => (balanced.windows other member).mono later
  case created =>
    intro other created
    by_cases same : other = handle
    · subst other
      exact newest
    · simp only [Ledger.record, Function.update_of_ne same] at created
      exact (balanced.created other created).mono later
  case untouched =>
    intro other uncreated
    have different : other ≠ handle := by
      rintro rfl
      simp [Ledger.record] at uncreated
    simp only [Ledger.record, Function.update_of_ne different] at uncreated
    exact balanced.untouched other uncreated
  case refcount =>
    intro other
    rw [refcounts_insert]
    by_cases same : other = handle
    · subst other
      have one : (ledger.record (.colorBufferCreated handle)).remaining
          handle = 1 :=
        balanced.untouched handle fresh
      have live :
          (ledger.record (.colorBufferCreated handle)).Live handle := by
        refine ⟨by simp [Ledger.record], ?_⟩
        rw [one]
        decide
      rw [if_pos rfl, Ledger.refcount_of_live live, one]
      rfl
    · rw [if_neg same, balanced.refcount]
      refine Ledger.refcount_congr ?_ rfl
      simp only [Ledger.record, Function.update_of_ne same]
  case attached => exact balanced.attached
  case attachedCreated =>
    intro surface attachedHandle attached
    have before := balanced.attachedCreated surface attachedHandle attached
    by_cases same : attachedHandle = handle
    · simp [Ledger.record, same]
    · simpa only [Ledger.record, Function.update_of_ne same] using before
  case nonnegative => exact balanced.nonnegative

/-- Before the counter wraps, a create operation enters a new handle. -/
theorem Balanced.generated (balanced : Balanced renderer ledger handles)
    {handle : HandleType} (room : handles + 1 < 2 ^ 32)
    (generated : renderer.genHandle = some handle) :
    handle.toNat = handles + 1 ∧ ledger.created handle = false := by
  rcases balanced.genHandle room with ⟨next, counted, fresh⟩
  rw [next] at generated
  cases generated
  exact ⟨counted, fresh⟩

/-- The tables and the ledger stay balanced over every operation. -/
theorem Balanced.perform (balanced : Balanced renderer ledger handles)
    {operation : Operation} {next : State} {events : List Event}
    (few : ledger.FewOpens)
    (room : handles + events.countP generates < 2 ^ 32)
    (performed : Performed renderer operation next events) :
    Balanced next (events.foldl Ledger.record ledger)
      (handles + events.countP generates) := by
  cases performed with
  | unchanged => exact balanced
  | colorBufferCreated object generated =>
      rcases balanced.generated room generated with ⟨counted, fresh⟩
      exact balanced.enterColorBuffer counted fresh object
  | contextCreated object found shared generated =>
      rcases balanced.generated room generated with ⟨counted, -⟩
      exact (balanced.enterContext counted object).remove rfl rfl
        (fun _ member => member) (fun _ _ found => found)
  | surfaceCreated object found generated =>
      rcases balanced.generated room generated with ⟨counted, -⟩
      exact (balanced.enterSurface counted object).remove rfl rfl
        (fun _ member => member) (fun _ _ found => found)
  | contextsDrained thread =>
      exact balanced.remove rfl rfl
        (fun _ member => mem_of_mem_foldl_erase member)
        (fun _ _ found => found)
  | surfacesDrained thread =>
      have none :
          ((renderer.removedSurfaces thread).map Event.drained).countP
            generates = 0 := by
        simp [List.countP_eq_zero, generates]
      have distinct : (renderer.threads thread).windowSet.toList.Nodup :=
        TreeSet.distinct_toList.imp fun different same =>
          different (Std.LawfulEqCmp.compare_eq_iff_eq.mpr same)
      rw [none]
      exact (balanced.drainWindows distinct few).remove rfl rfl
        (fun _ member => member) (fun _ _ found => found)
  | contextDestroyed drops =>
      exact balanced.remove rfl rfl
        (fun _ => TreeMap.mem_of_mem_erase) (fun _ _ found => found)
  | surfaceDestroyed drops =>
      exact balanced.remove rfl rfl (fun _ member => member)
        fun _ _ => getElem?_of_getElem?_erase
  | opened found => exact balanced.openColorBuffer found
  | closed handle =>
      exact balanced.givesBack few (ledger.givesBack_closed handle)
  | attached found present =>
      exact balanced.attach found
        (TreeMap.mem_iff_isSome_getElem?.mpr (by simp [present]))

end

/-! ## What later events leave alone -/

theorem Ledger.opens_le_record (ledger : Ledger) (event : Event)
    (handle : HandleType) :
    ledger.opens handle ≤ (ledger.record event).opens handle := by
  cases event with
  | opened other =>
      simp only [Ledger.record]
      split
      · by_cases same : handle = other
        · simp [bump, same]
        · simp [bump, same]
      · exact le_rfl
  | closed other =>
      rw [(ledger.givesBack_closed other).opens]
  | drained surface =>
      rw [Ledger.record_drained_opens]
  | colorBufferCreated | contextCreated | surfaceCreated | attached =>
      exact le_rfl

theorem Ledger.opens_le_foldl (ledger : Ledger) (events : List Event)
    (handle : HandleType) :
    ledger.opens handle ≤
      (events.foldl Ledger.record ledger).opens handle := by
  induction events generalizing ledger with
  | nil => exact le_rfl
  | cons event events inductionHypothesis =>
      exact (ledger.opens_le_record event handle).trans
        (inductionHypothesis (ledger.record event))

theorem Ledger.opens_record_le (ledger : Ledger) (event : Event)
    (handle : HandleType) :
    (ledger.record event).opens handle ≤
      ledger.opens handle + [event].count (.opened handle) := by
  cases event with
  | opened other =>
      simp only [Ledger.record]
      split
      · by_cases same : handle = other
        · simp [bump, same]
        · simp [bump, same]
      · exact Nat.le_add_right _ _
  | closed other =>
      rw [(ledger.givesBack_closed other).opens]
      exact Nat.le_add_right _ _
  | drained surface =>
      rw [Ledger.record_drained_opens]
      exact Nat.le_add_right _ _
  | colorBufferCreated | contextCreated | surfaceCreated | attached =>
      exact Nat.le_add_right _ _

theorem Ledger.closes_record_le (ledger : Ledger) (event : Event)
    (handle : HandleType) :
    (ledger.record event).closes handle ≤
      ledger.closes handle + [event].count (.closed handle) := by
  cases event with
  | closed other =>
      simp only [Ledger.record]
      split
      · by_cases same : handle = other
        · simp [bump, same]
        · simp [bump, same]
      · exact Nat.le_add_right _ _
  | opened other =>
      simp only [Ledger.record]
      split
      · exact Nat.le_add_right _ _
      · exact Nat.le_add_right _ _
  | drained surface =>
      simp only [Ledger.record]
      split
      · exact Nat.le_add_right _ _
      · split
        · exact Nat.le_add_right _ _
        · exact Nat.le_add_right _ _
  | colorBufferCreated | contextCreated | surfaceCreated | attached =>
      exact Nat.le_add_right _ _

/-- A count that grows at most with one kind of event. -/
theorem replay_count_le {count : Ledger → Nat} {counted : Event}
    (initial : count Ledger.empty = 0)
    (grows :
      ∀ ledger event,
        count (Ledger.record ledger event) ≤
          count ledger + [event].count counted)
    (events : List Event) :
    count (replay events) ≤ events.count counted := by
  suffices general : ∀ ledger,
      count (events.foldl Ledger.record ledger) ≤
        count ledger + events.count counted by
    have bound := general Ledger.empty
    rwa [initial, Nat.zero_add] at bound
  induction events with
  | nil => exact fun _ => le_rfl
  | cons event events inductionHypothesis =>
      intro ledger
      have first := grows ledger event
      have rest := inductionHypothesis (ledger.record event)
      rw [List.foldl_cons, ← List.singleton_append, List.count_append]
      omega

theorem replay_opens_le (events : List Event) (handle : HandleType) :
    (replay events).opens handle ≤ events.count (.opened handle) :=
  @replay_count_le (fun ledger => ledger.opens handle) _ rfl
    (fun ledger event => ledger.opens_record_le event handle) events

theorem replay_closes_le (events : List Event) (handle : HandleType) :
    (replay events).closes handle ≤ events.count (.closed handle) :=
  @replay_count_le (fun ledger => ledger.closes handle) _ rfl
    (fun ledger event => ledger.closes_record_le event handle) events

theorem Ledger.created_record {ledger : Ledger} {handle : HandleType}
    (created : ledger.created handle = true) (event : Event) :
    (ledger.record event).created handle = true := by
  cases event with
  | colorBufferCreated other =>
      by_cases same : handle = other
      · simp [Ledger.record, same]
      · simpa [Ledger.record, Function.update_of_ne same] using created
  | contextCreated | surfaceCreated | attached => exact created
  | opened other =>
      simp only [Ledger.record]
      split
      · exact created
      · exact created
  | closed other => rwa [(ledger.givesBack_closed other).created]
  | drained surface =>
      cases attached : ledger.attached surface with
      | none => simpa only [Ledger.record, attached] using created
      | some other => rwa [(ledger.givesBack_drained attached).created]

theorem Ledger.created_foldl {ledger : Ledger} {handle : HandleType}
    (created : ledger.created handle = true) (events : List Event) :
    (events.foldl Ledger.record ledger).created handle = true := by
  induction events generalizing ledger with
  | nil => exact created
  | cons event events inductionHypothesis =>
      exact inductionHypothesis (Ledger.created_record created event)

theorem replay_created {events : List Event} {handle : HandleType}
    (created : .colorBufferCreated handle ∈ events) :
    (replay events).created handle = true := by
  obtain ⟨before, rest, rfl⟩ := List.append_of_mem created
  rw [replay_append, List.foldl_cons]
  exact Ledger.created_foldl (by simp [Ledger.record]) rest

/-- A handle whose references have all been given back. -/
def Ledger.Spent (ledger : Ledger) (handle : HandleType) : Prop :=
  ledger.created handle = true ∧ ledger.remaining handle ≤ 0

theorem Ledger.Spent.not_live {ledger : Ledger} {handle : HandleType}
    (spent : ledger.Spent handle) : ¬ledger.Live handle :=
  fun live => absurd live.2 (not_lt.mpr spent.2)

theorem Ledger.GivesBack.spent {before next : Ledger}
    {handle other : HandleType} (givesBack : before.GivesBack next other)
    (spent : before.Spent handle) : next.remaining handle ≤ 0 := by
  by_cases same : handle = other
  · subst same
    rw [givesBack.dead spent.not_live]
    exact spent.2
  · rw [givesBack.others handle same]
    exact spent.2

/-- No event brings a handle back. -/
theorem Ledger.Spent.record {ledger : Ledger} {handle : HandleType}
    (spent : ledger.Spent handle) (event : Event) :
    (ledger.record event).Spent handle := by
  refine ⟨Ledger.created_record spent.1 event, ?_⟩
  cases event with
  | colorBufferCreated | contextCreated | surfaceCreated | attached =>
      exact spent.2
  | opened other =>
      simp only [Ledger.record]
      split
      · next live =>
        have different : handle ≠ other := by
          rintro rfl
          exact spent.not_live live
        simpa [Ledger.remaining, bump, different] using spent.2
      · exact spent.2
  | closed other => exact (ledger.givesBack_closed other).spent spent
  | drained surface =>
      cases attached : ledger.attached surface with
      | none => simpa only [Ledger.record, attached] using spent.2
      | some other =>
          exact (ledger.givesBack_drained attached).spent spent

theorem Ledger.Spent.foldl {ledger : Ledger} {handle : HandleType}
    (spent : ledger.Spent handle) (events : List Event) :
    (events.foldl Ledger.record ledger).Spent handle := by
  induction events generalizing ledger with
  | nil => exact spent
  | cons event events inductionHypothesis =>
      exact inductionHypothesis (spent.record event)

end Anbox.Graphics.ColorBufferLedger
