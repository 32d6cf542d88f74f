import Anbox.Foundation.OrderedMap
import Anbox.Foundation.Runs

/-!
# Native windows and their registration with the renderer

`wm::Window::attach` registers the native handle of a window with the renderer
and `release` takes it out again.  The destructor calls `release`, too, but at
that point `native_handle` is the function of the base class, which returns 0,
and the window itself has been given back to SDL.  So only an explicit
`release` has an effect.

Windows are numbered in the order of their construction.  The windowing system
never gives one handle to two windows at a time, but it may give the handle of
a destroyed window to a new one.
-/

namespace Anbox.Wm.NativeWindows

open Std
open Anbox.Foundation.OrderedMap
open Anbox.Foundation.Runs

/-! ## The calls made on one window -/

/-- A call of a window's user. -/
inductive Use where
  /-- `attach`, and what it returned. -/
  | attach (succeeded : Bool)
  | release
deriving DecidableEq, Repr

/-- What the calls on a window say about its registration. -/
structure Upkeep where
  registered : Bool
  attached : Bool
deriving DecidableEq, Repr

/-- A failed `attach` makes later calls of `release` ineffective. -/
def Upkeep.after (upkeep : Upkeep) : Use → Upkeep
  | .attach true => ⟨true, true⟩
  | .attach false => { upkeep with attached := false }
  | .release =>
      if upkeep.attached then { upkeep with registered := false } else upkeep

def upkeep (uses : List Use) : Upkeep :=
  uses.foldl Upkeep.after ⟨false, false⟩

/-- A successful `attach` has not been followed by an effective `release`. -/
def needsRelease (uses : List Use) : Bool :=
  (upkeep uses).registered

@[simp]
theorem upkeep_append (uses : List Use) (use : Use) :
    upkeep (uses ++ [use]) = (upkeep uses).after use := by
  simp [upkeep]

/-! ## Windows and the renderer -/

/-- A window, alive or destroyed. -/
structure Window where
  /-- What `native_handle` returns until the destructor runs. -/
  handle : Nat
  hasRenderer : Bool
  attached : Bool
  alive : Bool
  uses : List Use
deriving DecidableEq, Repr

namespace Window

/-- `attached_` is set to what `createNativeWindow` returned. -/
def attach (succeeded : Bool) (window : Window) : Window :=
  { window with
    attached := succeeded
    uses := window.uses ++ [.attach succeeded] }

/-- Without a renderer `attach` returns before it sets the flag. -/
def attachWithoutRenderer (window : Window) : Window :=
  { window with uses := window.uses ++ [.attach false] }

/-- `release` does not reset the flag. -/
def release (window : Window) : Window :=
  { window with uses := window.uses ++ [.release] }

def destroy (window : Window) : Window :=
  { window with alive := false }

end Window

/-- What happened to `m_nativeWindows`. -/
inductive Event where
  | registered (window : Nat) (handle : Nat)
  /-- The entry of `owner` was removed by `caller`. -/
  | unregistered (owner : Nat) (handle : Nat) (caller : Nat)
deriving DecidableEq, Repr

/-- The windows and the map `m_nativeWindows`, with the owner of each entry. -/
structure State where
  windows : List Window
  nativeWindows : TreeMap Nat Nat
  log : List Event

def State.initial : State := ⟨[], ∅, []⟩

namespace State

def modifyWindow (state : State) (number : Nat)
    (change : Window → Window) : State :=
  { state with windows := state.windows.modify number change }

/-- `createNativeWindow`; `insert` keeps an entry that exists. -/
def createNativeWindow (state : State) (number handle : Nat)
    (succeeds : Bool) : State :=
  if succeeds ∧ state.nativeWindows[handle]? = none then
    { state with
      nativeWindows := state.nativeWindows.insert handle number
      log := state.log ++ [.registered number handle] }
  else state

/-- `destroyNativeWindow`, called by the window with this number. -/
def destroyNativeWindow (state : State) (caller handle : Nat) : State :=
  match state.nativeWindows[handle]? with
  | none => state
  | some owner =>
      { state with
        nativeWindows := state.nativeWindows.erase handle
        log := state.log ++ [.unregistered owner handle caller] }

/-- `release`, with what `native_handle` returns when it is called. -/
def release (state : State) (number : Nat) (window : Window)
    (nativeHandle : Nat) : State :=
  if !window.hasRenderer || !window.attached then state
  else state.destroyNativeWindow number nativeHandle

/-- Add a window with this handle. -/
def construct (state : State) (handle : Nat) (hasRenderer : Bool) :
    State :=
  { state with
    windows := state.windows ++
      [⟨handle, hasRenderer, false, true, []⟩] }

/-- A live window has this handle. -/
def inUse (state : State) (handle : Nat) : Bool :=
  state.windows.any fun window => window.alive && window.handle == handle

/-- A call on a window that has not been destroyed. -/
def whenAlive (state : State) (number : Nat)
    (next : Window → State) : State :=
  match state.windows[number]? with
  | some window => if window.alive then next window else state
  | none => state

end State

/-- What is done with windows. -/
inductive Label where
  /-- SDL creates a window with a handle that is not in use. -/
  | construct (handle : Nat) (hasRenderer : Bool)
  /-- The EGL calls of `createNativeWindow` succeed or fail. -/
  | attach (number : Nat) (succeeds : Bool)
  | release (number : Nat)
  | destroy (number : Nat)
deriving DecidableEq, Repr

/-- `attach`, with the outcome of the EGL calls. -/
def attach (state : State) (number : Nat) (window : Window)
    (succeeds : Bool) : State :=
  if window.hasRenderer then
    (state.createNativeWindow number window.handle succeeds).modifyWindow
      number (Window.attach succeeds)
  else state.modifyWindow number Window.attachWithoutRenderer

/-- An explicit `release`, which uses the handle of the SDL window. -/
def release (state : State) (number : Nat) (window : Window) : State :=
  (state.release number window window.handle).modifyWindow number
    Window.release

/-- The two destructors; `native_handle` returns 0 in the second one. -/
def destroy (state : State) (number : Nat) (window : Window) : State :=
  (state.modifyWindow number Window.destroy).release number window 0

def step (state : State) : Label → State
  | .construct handle hasRenderer =>
      if handle = 0 ∨ state.inUse handle then state
      else state.construct handle hasRenderer
  | .attach number succeeds =>
      state.whenAlive number fun window =>
        attach state number window succeeds
  | .release number =>
      state.whenAlive number fun window => release state number window
  | .destroy number =>
      state.whenAlive number fun window => destroy state number window

/-- The state after a run. -/
def after (labels : List Label) : State :=
  runFrom step State.initial labels

/-! ## The life of a native window -/

/-- The window was registered under this handle. -/
def Event.registers (number handle : Nat) : Event → Bool
  | .registered window key => window = number ∧ key = handle
  | .unregistered _ _ _ => false

/-- The window whose entry an event is about. -/
def Event.subject : Event → Nat
  | .registered window _ => window
  | .unregistered owner _ _ => owner

/-- The registration of the window under this handle was removed. -/
def Event.removes (number handle : Nat) : Event → Bool
  | .registered _ _ => false
  | .unregistered owner key _ => owner = number ∧ key = handle

/--
Every entry belongs to a live window.  What was registered for a window that
has been destroyed was removed once, and only by the window itself.
-/
structure Lifecycle (state : State) : Prop where
  live :
    ∀ handle owner : Nat, state.nativeWindows[handle]? = some owner →
      ∃ window, state.windows[owner]? = some window ∧
        window.alive = true ∧ window.handle = handle
  once :
    ∀ (number : Nat) (window : Window),
      state.windows[number]? = some window → window.alive = false →
        state.log.countP (Event.registers number window.handle) =
          state.log.countP (Event.removes number window.handle)
  own :
    ∀ owner handle caller : Nat,
      .unregistered owner handle caller ∈ state.log → caller = owner

/-- A window is destroyed only when it does not need a `release` any more. -/
def ReleasedBefore (state : State) : Label → Prop
  | .destroy number =>
      ∀ window, state.windows[number]? = some window →
        window.alive = true → needsRelease window.uses = false
  | _ => True

/-! ## What holds in every state -/

/-- How entries are owned and counted. -/
structure Accounted (state : State) : Prop where
  logged : ∀ event ∈ state.log, event.subject < state.windows.length
  owner :
    ∀ handle owner : Nat, state.nativeWindows[handle]? = some owner →
      ∃ window, state.windows[owner]? = some window ∧
        window.handle = handle
  balance :
    ∀ (number : Nat) (window : Window),
      state.windows[number]? = some window →
        state.log.countP (Event.registers number window.handle) =
          state.log.countP (Event.removes number window.handle) +
            if state.nativeWindows[window.handle]? = some number then 1
            else 0

/-- How the calls made on live windows are reflected by the entries. -/
structure Tracked (state : State) : Prop where
  nonzero :
    ∀ (number : Nat) (window : Window),
      state.windows[number]? = some window → window.handle ≠ 0
  distinct :
    ∀ (number other : Nat) (window otherWindow : Window),
      state.windows[number]? = some window →
        state.windows[other]? = some otherWindow →
        window.alive = true → otherWindow.alive = true →
        window.handle = otherWindow.handle → number = other
  flag :
    ∀ (number : Nat) (window : Window),
      state.windows[number]? = some window →
        window.attached = (upkeep window.uses).attached ∧
          (window.attached = true → window.hasRenderer = true)
  registered :
    ∀ (number : Nat) (window : Window),
      state.windows[number]? = some window → window.alive = true →
        (needsRelease window.uses = true →
            state.nativeWindows[window.handle]? ≠ none) ∧
          (needsRelease window.uses = false →
            state.nativeWindows[window.handle]? ≠ some number)

variable {state : State}

theorem getElem?_modifyWindow {number : Nat} {window : Window}
    {change : Window → Window}
    (found : state.windows[number]? = some window)
    {other : Nat} {next : Window}
    (isNext :
      (state.modifyWindow number change).windows[other]? = some next) :
    other = number ∧ next = change window ∨
      other ≠ number ∧ state.windows[other]? = some next := by
  simp only [State.modifyWindow, List.getElem?_modify] at isNext
  by_cases same : number = other
  · subst same
    rw [found] at isNext
    left
    simpa using isNext.symm
  · right
    exact ⟨Ne.symm same, by simpa [same] using isNext⟩

theorem modifyWindow_handle {number : Nat} {change : Window → Window}
    (sameHandle : ∀ window, (change window).handle = window.handle)
    {other : Nat} {window : Window}
    (found : state.windows[other]? = some window) :
    ∃ next, (state.modifyWindow number change).windows[other]? =
        some next ∧ next.handle = window.handle := by
  simp only [State.modifyWindow, List.getElem?_modify, found]
  by_cases same : number = other
  · exact ⟨change window, by simp [same], sameHandle window⟩
  · exact ⟨window, by simp [same], rfl⟩

/-! ## Entries -/

theorem Accounted.modifyWindow (accounted : Accounted state)
    {number : Nat} {window : Window} {change : Window → Window}
    (found : state.windows[number]? = some window)
    (sameHandle : ∀ window, (change window).handle = window.handle) :
    Accounted (state.modifyWindow number change) := by
  constructor
  · simpa [State.modifyWindow] using accounted.logged
  · intro handle owner registered
    rcases accounted.owner handle owner registered with
      ⟨ownerWindow, isOwner, rfl⟩
    exact modifyWindow_handle sameHandle isOwner
  · intro other next isNext
    rcases getElem?_modifyWindow found isNext with
      ⟨rfl, rfl⟩ | ⟨-, before⟩
    · rw [sameHandle]
      exact accounted.balance _ window found
    · exact accounted.balance other next before

theorem Accounted.createNativeWindow (accounted : Accounted state)
    {number : Nat} {window : Window}
    (found : state.windows[number]? = some window) (succeeds : Bool) :
    Accounted
      (state.createNativeWindow number window.handle succeeds) := by
  unfold State.createNativeWindow
  split
  · rename_i free
    constructor
    · intro event member
      rcases List.mem_append.mp member with before | new
      · exact accounted.logged event before
      · rw [List.mem_singleton.mp new]
        exact (List.getElem?_eq_some_iff.mp found).1
    · intro handle owner registered
      rw [getElem?_insert_eq] at registered
      split at registered
      · rename_i same
        cases registered
        exact ⟨window, found, same.symm⟩
      · exact accounted.owner handle owner registered
    · intro other otherWindow isOther
      have balance := accounted.balance other otherWindow isOther
      simp only [getElem?_insert_eq, List.countP_append,
        List.countP_singleton]
      by_cases own : other = number
      · subst own
        rw [found] at isOther
        cases isOther
        rw [free.2] at balance
        simpa [Event.registers, Event.removes] using balance
      · have unchanged :
            (if otherWindow.handle = window.handle then some number
              else state.nativeWindows[otherWindow.handle]?) = some other ↔
              state.nativeWindows[otherWindow.handle]? = some other := by
          by_cases same : otherWindow.handle = window.handle
          · simp [same, free.2, Ne.symm own]
          · simp [same]
        simpa [Event.registers, Event.removes, Ne.symm own, unchanged]
          using balance
  · exact accounted

theorem Accounted.destroyNativeWindow (accounted : Accounted state)
    (caller handle : Nat) :
    Accounted (state.destroyNativeWindow caller handle) := by
  unfold State.destroyNativeWindow
  split
  · exact accounted
  · rename_i owner registered
    constructor
    · intro event member
      rcases List.mem_append.mp member with before | new
      · exact accounted.logged event before
      · rcases accounted.owner handle owner registered with
          ⟨window, found, -⟩
        rw [List.mem_singleton.mp new]
        exact (List.getElem?_eq_some_iff.mp found).1
    · intro key other stored
      exact accounted.owner key other
        (getElem?_erase_eq_some_iff.mp stored).2
    · intro other otherWindow isOther
      have balance := accounted.balance other otherWindow isOther
      simp only [List.countP_append, List.countP_singleton]
      by_cases same : otherWindow.handle = handle
      · have gone : (state.nativeWindows.erase handle)[handle]? = none :=
          TreeMap.getElem?_erase_self
        rw [same, registered] at balance
        rw [same, gone]
        by_cases own : owner = other
        · simpa [Event.registers, Event.removes, own] using balance
        · simpa [Event.registers, Event.removes, own] using balance
      · rw [getElem?_erase_of_ne same]
        simpa [Event.registers, Event.removes, Ne.symm same] using balance

/-- What a window has when another window is used does not change. -/
theorem Tracked.modifyWindow (tracked : Tracked state) {next : State}
    {number : Nat} {window : Window} {change : Window → Window}
    (found : state.windows[number]? = some window)
    (isAlive : window.alive = true)
    (sameWindows :
      next.windows = (state.modifyWindow number change).windows)
    (elsewhere :
      ∀ handle, handle ≠ window.handle →
        next.nativeWindows[handle]? = state.nativeWindows[handle]?)
    (sameHandle : (change window).handle = window.handle)
    (flag :
      (change window).attached =
          (upkeep (change window).uses).attached ∧
        ((change window).attached = true →
          (change window).hasRenderer = true))
    (registered :
      (change window).alive = true →
        (needsRelease (change window).uses = true →
            next.nativeWindows[window.handle]? ≠ none) ∧
          (needsRelease (change window).uses = false →
            next.nativeWindows[window.handle]? ≠ some number)) :
    Tracked next := by
  have cases : ∀ {other : Nat} {otherWindow : Window},
      next.windows[other]? = some otherWindow →
        other = number ∧ otherWindow = change window ∨
          other ≠ number ∧ state.windows[other]? = some otherWindow := by
    intro other otherWindow isOther
    rw [sameWindows] at isOther
    exact getElem?_modifyWindow found isOther
  constructor
  · intro other otherWindow isOther
    rcases cases isOther with ⟨rfl, rfl⟩ | ⟨-, before⟩
    · rw [sameHandle]
      exact tracked.nonzero _ window found
    · exact tracked.nonzero other otherWindow before
  · intro first second firstWindow secondWindow isFirst isSecond
      firstAlive secondAlive same
    rcases cases isFirst with ⟨rfl, rfl⟩ | ⟨firstOther, firstBefore⟩
    · rcases cases isSecond with ⟨rfl, -⟩ | ⟨-, secondBefore⟩
      · rfl
      · exact tracked.distinct _ second window secondWindow found
          secondBefore isAlive secondAlive (sameHandle.symm.trans same)
    · rcases cases isSecond with ⟨rfl, rfl⟩ | ⟨-, secondBefore⟩
      · exact tracked.distinct first _ firstWindow window firstBefore
          found firstAlive isAlive (same.trans sameHandle)
      · exact tracked.distinct first second firstWindow secondWindow
          firstBefore secondBefore firstAlive secondAlive same
  · intro other otherWindow isOther
    rcases cases isOther with ⟨rfl, rfl⟩ | ⟨-, before⟩
    · exact flag
    · exact tracked.flag other otherWindow before
  · intro other otherWindow isOther otherAlive
    rcases cases isOther with ⟨rfl, rfl⟩ | ⟨different, before⟩
    · rw [sameHandle]
      exact registered otherAlive
    · have apart : otherWindow.handle ≠ window.handle := by
        intro same
        exact different (tracked.distinct other number otherWindow window
          before found otherAlive isAlive same)
      rw [elsewhere _ apart]
      exact tracked.registered other otherWindow before otherAlive

section Registry

variable (state)

@[simp]
theorem windows_createNativeWindow (number handle : Nat)
    (succeeds : Bool) :
    (state.createNativeWindow number handle succeeds).windows =
      state.windows := by
  unfold State.createNativeWindow
  split <;> rfl

@[simp]
theorem windows_destroyNativeWindow (caller handle : Nat) :
    (state.destroyNativeWindow caller handle).windows =
      state.windows := by
  unfold State.destroyNativeWindow
  split <;> rfl

theorem createNativeWindow_elsewhere {number handle other : Nat}
    (different : other ≠ handle) (succeeds : Bool) :
    (state.createNativeWindow number handle
        succeeds).nativeWindows[other]? =
      state.nativeWindows[other]? := by
  unfold State.createNativeWindow
  split
  · rw [getElem?_insert_eq, if_neg different]
  · rfl

theorem createNativeWindow_registered (number handle : Nat) :
    (state.createNativeWindow number handle
        true).nativeWindows[handle]? ≠ none := by
  unfold State.createNativeWindow
  split
  · rw [getElem?_insert_eq, if_pos rfl]
    exact Option.some_ne_none number
  · rename_i taken
    intro free
    exact taken ⟨rfl, free⟩

theorem destroyNativeWindow_elsewhere {caller handle other : Nat}
    (different : other ≠ handle) :
    (state.destroyNativeWindow caller handle).nativeWindows[other]? =
      state.nativeWindows[other]? := by
  unfold State.destroyNativeWindow
  split
  · rfl
  · exact getElem?_erase_of_ne different

theorem destroyNativeWindow_gone (caller handle : Nat) :
    (state.destroyNativeWindow caller handle).nativeWindows[handle]? =
      none := by
  unfold State.destroyNativeWindow
  split
  · assumption
  · exact TreeMap.getElem?_erase_self

end Registry

/-- What holds in every state that can be reached. -/
structure Sound (state : State) : Prop where
  accounted : Accounted state
  tracked : Tracked state

theorem Sound.initial : Sound State.initial where
  accounted := by
    constructor
    · simp [State.initial]
    · intro handle owner registered
      simp [State.initial] at registered
    · intro number window found
      simp [State.initial] at found
  tracked := by
    constructor <;> simp [State.initial]

/-- No window is ever registered under the handle 0. -/
theorem Sound.not_registered_zero (sound : Sound state) :
    state.nativeWindows[0]? = none := by
  by_contra present
  rcases Option.ne_none_iff_exists'.mp present with ⟨owner, registered⟩
  rcases sound.accounted.owner 0 owner registered with
    ⟨window, isWindow, handle⟩
  exact sound.tracked.nonzero owner window isWindow handle

/-- The destructor of the base class removes nothing. -/
theorem Sound.destroy_eq (sound : Sound state) (number : Nat)
    (window : Window) :
    destroy state number window =
      state.modifyWindow number Window.destroy := by
  unfold destroy State.release
  split
  · rfl
  · have absent := sound.not_registered_zero
    simp only [State.destroyNativeWindow, State.modifyWindow, absent]

/-- A call on a window changes nothing unless the window is alive. -/
theorem whenAlive_rule {motive : State → Prop} {number : Nat}
    {next : Window → State} (unchanged : motive state)
    (used :
      ∀ window, state.windows[number]? = some window →
        window.alive = true → motive (next window)) :
    motive (state.whenAlive number next) := by
  unfold State.whenAlive
  split
  · rename_i window found
    split
    · rename_i isAlive
      exact used window found isAlive
    · exact unchanged
  · exact unchanged

@[simp]
theorem nativeWindows_modifyWindow (state : State) (number : Nat)
    (change : Window → Window) :
    (state.modifyWindow number change).nativeWindows =
      state.nativeWindows :=
  rfl

theorem Sound.attach (sound : Sound state) {number : Nat}
    {window : Window} (found : state.windows[number]? = some window)
    (isAlive : window.alive = true) (succeeds : Bool) :
    Sound (attach state number window succeeds) := by
  have flag := sound.tracked.flag number window found
  have registered := sound.tracked.registered number window found isAlive
  unfold NativeWindows.attach
  split
  · rename_i hasRenderer
    have created := sound.accounted.createNativeWindow found succeeds
    have windows :
        ((state.createNativeWindow number window.handle
            succeeds).modifyWindow number (Window.attach succeeds)).windows =
          (state.modifyWindow number (Window.attach succeeds)).windows := by
      simp [State.modifyWindow]
    constructor
    · exact created.modifyWindow (by simpa using found) fun _ => rfl
    · refine sound.tracked.modifyWindow found isAlive windows
        (fun handle different =>
          createNativeWindow_elsewhere state different succeeds) rfl ?_ ?_
      · cases succeeds <;> simp [Window.attach, Upkeep.after, hasRenderer]
      · intro _
        cases succeeds with
        | true =>
            simpa [needsRelease, Window.attach, Upkeep.after] using
              createNativeWindow_registered state number window.handle
        | false =>
            simpa [needsRelease, Window.attach, Upkeep.after,
              State.createNativeWindow] using registered
  · rename_i noRenderer
    have notAttached : window.attached = false := by
      by_contra attached
      exact noRenderer (flag.2 (by simpa using attached))
    constructor
    · exact sound.accounted.modifyWindow found fun _ => rfl
    · refine sound.tracked.modifyWindow found isAlive rfl
        (fun _ _ => rfl) rfl ?_ ?_
      · simp [Window.attachWithoutRenderer, Upkeep.after, notAttached]
      · intro _
        simpa [needsRelease, Window.attachWithoutRenderer, Upkeep.after]
          using registered

theorem Sound.release (sound : Sound state) {number : Nat}
    {window : Window} (found : state.windows[number]? = some window)
    (isAlive : window.alive = true) :
    Sound (release state number window) := by
  have flag := sound.tracked.flag number window found
  have registered := sound.tracked.registered number window found isAlive
  unfold NativeWindows.release State.release
  split
  · rename_i ineffective
    have notAttached : window.attached = false := by
      by_contra attached
      have attached : window.attached = true := by simpa using attached
      simp [attached, flag.2 attached] at ineffective
    have kept : upkeep (Window.release window).uses =
        upkeep window.uses := by
      simp [Window.release, Upkeep.after, ← flag.1, notAttached]
    constructor
    · exact sound.accounted.modifyWindow found fun _ => rfl
    · refine sound.tracked.modifyWindow found isAlive rfl
        (fun _ _ => rfl) rfl ?_ ?_
      · rw [kept]
        exact flag
      · intro _
        rw [needsRelease, kept]
        exact registered
  · rename_i effective
    have attached : window.attached = true := by
      by_contra notAttached
      simp [notAttached] at effective
    have removed := sound.accounted.destroyNativeWindow number
      window.handle
    have windows :
        ((state.destroyNativeWindow number window.handle).modifyWindow
            number Window.release).windows =
          (state.modifyWindow number Window.release).windows := by
      simp [State.modifyWindow]
    have after : upkeep (Window.release window).uses =
        ⟨false, true⟩ := by
      simp [Window.release, Upkeep.after, ← flag.1, attached]
    constructor
    · exact removed.modifyWindow (by simpa using found) fun _ => rfl
    · refine sound.tracked.modifyWindow found isAlive windows
        (fun handle different =>
          destroyNativeWindow_elsewhere state different) rfl ?_ ?_
      · rw [after]
        exact ⟨attached, flag.2⟩
      · intro _
        rw [needsRelease, after]
        simp [destroyNativeWindow_gone]

theorem Sound.destroy (sound : Sound state) {number : Nat}
    {window : Window} (found : state.windows[number]? = some window)
    (isAlive : window.alive = true) :
    Sound (destroy state number window) := by
  rw [sound.destroy_eq]
  constructor
  · exact sound.accounted.modifyWindow found fun _ => rfl
  · refine sound.tracked.modifyWindow found isAlive rfl
      (fun _ _ => rfl) rfl ?_ ?_
    · exact sound.tracked.flag number window found
    · intro stillAlive
      cases stillAlive

/-- A window that has just been constructed, or one that was there before. -/
theorem getElem?_append_window {window : Window} {number : Nat}
    {found : Window}
    (isWindow : (state.windows ++ [window])[number]? = some found) :
    state.windows[number]? = some found ∨
      number = state.windows.length ∧ found = window := by
  by_cases inside : number < state.windows.length
  · left
    rwa [List.getElem?_append_left inside] at isWindow
  · right
    have bound := (List.getElem?_eq_some_iff.mp isWindow).1
    simp only [List.length_append, List.length_singleton] at bound
    obtain rfl : number = state.windows.length := by omega
    simp only [List.getElem?_concat_length, Option.some.injEq] at isWindow
    exact ⟨rfl, isWindow.symm⟩

theorem getElem?_append_of_some {number : Nat} {window : Window}
    (found : state.windows[number]? = some window) (more : Window) :
    (state.windows ++ [more])[number]? = some window := by
  rw [List.getElem?_append_left (List.getElem?_eq_some_iff.mp found).1]
  exact found

theorem not_inUse_iff {handle : Nat} :
    state.inUse handle = false ↔
      ∀ (number : Nat) (window : Window),
        state.windows[number]? = some window → window.alive = true →
          window.handle ≠ handle := by
  simp only [State.inUse, List.any_eq_false, Bool.and_eq_true, beq_iff_eq,
    not_and]
  constructor
  · intro unused number window found
    exact unused window (List.mem_of_getElem? found)
  · intro unused window member
    rcases List.getElem?_of_mem member with ⟨number, found⟩
    exact unused number window found

/-- A window that has just been constructed owns no entry. -/
theorem Accounted.not_owner (accounted : Accounted state) (key : Nat) :
    state.nativeWindows[key]? ≠ some state.windows.length := by
  intro registered
  rcases accounted.owner key _ registered with ⟨window, found, -⟩
  simp at found

/-- Nothing was logged about a window that has just been constructed. -/
theorem Accounted.not_logged (accounted : Accounted state)
    {about : Event → Bool}
    (concerns :
      ∀ event, about event = true →
        event.subject = state.windows.length) :
    state.log.countP about = 0 := by
  apply List.countP_eq_zero.mpr
  intro event member isAbout
  have earlier := accounted.logged event member
  have subject := concerns event isAbout
  omega

theorem Event.subject_of_registers {number handle : Nat} {event : Event}
    (registers : event.registers number handle = true) :
    event.subject = number := by
  cases event with
  | registered window key =>
      simp only [Event.registers, decide_eq_true_eq] at registers
      exact registers.1
  | unregistered owner key caller => cases registers

theorem Event.subject_of_removes {number handle : Nat} {event : Event}
    (removes : event.removes number handle = true) :
    event.subject = number := by
  cases event with
  | registered window key => cases removes
  | unregistered owner key caller =>
      simp only [Event.removes, decide_eq_true_eq] at removes
      exact removes.1

theorem Accounted.construct (accounted : Accounted state) (handle : Nat)
    (hasRenderer : Bool) :
    Accounted (state.construct handle hasRenderer) := by
  constructor
  · intro event member
    have earlier := accounted.logged event member
    simp only [State.construct, List.length_append, List.length_singleton]
    omega
  · intro key owner registered
    rcases accounted.owner key owner registered with
      ⟨window, found, same⟩
    exact ⟨window, getElem?_append_of_some found _, same⟩
  · intro number window isWindow
    rcases getElem?_append_window isWindow with before | ⟨rfl, rfl⟩
    · exact accounted.balance number window before
    · have registrations := accounted.not_logged
        (fun _ => @Event.subject_of_registers _ handle _)
      have removals := accounted.not_logged
        (fun _ => @Event.subject_of_removes _ handle _)
      have unowned :
          (state.construct handle hasRenderer).nativeWindows[handle]? ≠
            some state.windows.length := accounted.not_owner handle
      rw [if_neg unowned]
      exact registrations.trans removals.symm

theorem Tracked.construct (tracked : Tracked state)
    (accounted : Accounted state) {handle : Nat} (nonzero : handle ≠ 0)
    (unused : state.inUse handle = false) (hasRenderer : Bool) :
    Tracked (state.construct handle hasRenderer) := by
  have free := not_inUse_iff.mp unused
  constructor
  · intro number window isWindow
    rcases getElem?_append_window isWindow with before | ⟨rfl, rfl⟩
    · exact tracked.nonzero number window before
    · exact nonzero
  · intro first second firstWindow secondWindow isFirst isSecond
      firstAlive secondAlive same
    rcases getElem?_append_window isFirst with firstBefore | ⟨rfl, rfl⟩
    · rcases getElem?_append_window isSecond with
        secondBefore | ⟨rfl, rfl⟩
      · exact tracked.distinct first second firstWindow secondWindow
          firstBefore secondBefore firstAlive secondAlive same
      · exact absurd same (free first firstWindow firstBefore firstAlive)
    · rcases getElem?_append_window isSecond with
        secondBefore | ⟨rfl, rfl⟩
      · exact absurd same.symm
          (free second secondWindow secondBefore secondAlive)
      · rfl
  · intro number window isWindow
    rcases getElem?_append_window isWindow with before | ⟨rfl, rfl⟩
    · exact tracked.flag number window before
    · simp [upkeep]
  · intro number window isWindow isAlive
    rcases getElem?_append_window isWindow with before | ⟨rfl, rfl⟩
    · exact tracked.registered number window before isAlive
    · refine ⟨?_, fun _ => accounted.not_owner handle⟩
      simp [needsRelease, upkeep]

theorem Sound.preserved (sound : Sound state) (label : Label) :
    Sound (step state label) := by
  cases label with
  | construct handle hasRenderer =>
      simp only [step]
      split
      · exact sound
      · rename_i possible
        rw [not_or] at possible
        exact ⟨sound.accounted.construct handle hasRenderer,
          sound.tracked.construct sound.accounted possible.1
            (by simpa using possible.2) hasRenderer⟩
  | attach number succeeds =>
      apply whenAlive_rule sound
      intro window found isAlive
      exact sound.attach found isAlive succeeds
  | release number =>
      apply whenAlive_rule sound
      intro window found isAlive
      exact sound.release found isAlive
  | destroy number =>
      apply whenAlive_rule sound
      intro window found isAlive
      exact sound.destroy found isAlive

/-! ## Entries of destroyed windows -/

/-- A live window that shares its handle with an entry owns the entry. -/
theorem Lifecycle.owner_eq (lifecycle : Lifecycle state)
    (tracked : Tracked state) {number owner : Nat} {window : Window}
    (found : state.windows[number]? = some window)
    (isAlive : window.alive = true)
    (registered : state.nativeWindows[window.handle]? = some owner) :
    owner = number := by
  rcases lifecycle.live _ owner registered with
    ⟨ownerWindow, isOwner, ownerAlive, same⟩
  exact tracked.distinct owner number ownerWindow window isOwner found
    ownerAlive isAlive same

/-- Modifying a live window keeps the entries of all windows. -/
theorem Lifecycle.modifyWindow (lifecycle : Lifecycle state)
    {number : Nat} {window : Window} {change : Window → Window}
    (found : state.windows[number]? = some window)
    (sameHandle : ∀ window, (change window).handle = window.handle)
    (sameAlive : ∀ window, (change window).alive = window.alive) :
    Lifecycle (state.modifyWindow number change) := by
  constructor
  · intro handle owner registered
    rcases lifecycle.live handle owner registered with
      ⟨ownerWindow, isOwner, isAlive, same⟩
    simp only [State.modifyWindow, List.getElem?_modify, isOwner]
    by_cases own : number = owner
    · exact ⟨change ownerWindow, by simp [own],
        (sameAlive _).trans isAlive, (sameHandle _).trans same⟩
    · exact ⟨ownerWindow, by simp [own], isAlive, same⟩
  · intro other next isNext dead
    rcases getElem?_modifyWindow found isNext with
      ⟨rfl, rfl⟩ | ⟨-, before⟩
    · rw [sameHandle]
      exact lifecycle.once _ window found ((sameAlive window).symm.trans dead)
    · exact lifecycle.once other next before dead
  · exact lifecycle.own

theorem Lifecycle.createNativeWindow (lifecycle : Lifecycle state)
    {number : Nat} {window : Window}
    (found : state.windows[number]? = some window)
    (isAlive : window.alive = true) (succeeds : Bool) :
    Lifecycle
      (state.createNativeWindow number window.handle succeeds) := by
  unfold State.createNativeWindow
  split
  · constructor
    · intro handle owner registered
      rw [getElem?_insert_eq] at registered
      split at registered
      · rename_i same
        cases registered
        exact ⟨window, found, isAlive, same.symm⟩
      · exact lifecycle.live handle owner registered
    · intro other otherWindow isOther dead
      have different : number ≠ other := by
        rintro rfl
        rw [found] at isOther
        cases isOther
        rw [isAlive] at dead
        cases dead
      simpa [Event.registers, Event.removes, different] using
        lifecycle.once other otherWindow isOther dead
    · intro owner handle caller member
      exact lifecycle.own owner handle caller (by simpa using member)
  · exact lifecycle

theorem Lifecycle.destroyNativeWindow (lifecycle : Lifecycle state)
    (tracked : Tracked state) {number : Nat} {window : Window}
    (found : state.windows[number]? = some window)
    (isAlive : window.alive = true) :
    Lifecycle (state.destroyNativeWindow number window.handle) := by
  unfold State.destroyNativeWindow
  split
  · exact lifecycle
  · rename_i owner registered
    obtain rfl := lifecycle.owner_eq tracked found isAlive registered
    constructor
    · intro handle other stored
      exact lifecycle.live handle other
        (getElem?_erase_eq_some_iff.mp stored).2
    · intro other otherWindow isOther dead
      have different : owner ≠ other := by
        rintro rfl
        rw [found] at isOther
        cases isOther
        rw [isAlive] at dead
        cases dead
      simpa [Event.registers, Event.removes, different] using
        lifecycle.once other otherWindow isOther dead
    · intro other handle caller member
      rcases List.mem_append.mp member with before | new
      · exact lifecycle.own other handle caller before
      · cases List.mem_singleton.mp new
        rfl

/-- Destroying a window leaves no entry behind if it needed no `release`. -/
theorem Lifecycle.destroy_iff (lifecycle : Lifecycle state)
    (sound : Sound state) {number : Nat} {window : Window}
    (found : state.windows[number]? = some window)
    (isAlive : window.alive = true) :
    needsRelease window.uses = false ↔
      Lifecycle (destroy state number window) := by
  have registered := sound.tracked.registered number window found isAlive
  rw [sound.destroy_eq]
  constructor
  · intro released
    have gone := registered.2 released
    constructor
    · intro handle owner stored
      rcases lifecycle.live handle owner stored with
        ⟨ownerWindow, isOwner, ownerAlive, same⟩
      have different : number ≠ owner := by
        rintro rfl
        rw [found] at isOwner
        cases isOwner
        rw [same] at gone
        exact gone stored
      refine ⟨ownerWindow, ?_, ownerAlive, same⟩
      simp [State.modifyWindow, different, isOwner]
    · intro other next isNext dead
      rcases getElem?_modifyWindow found isNext with
        ⟨rfl, rfl⟩ | ⟨-, before⟩
      · have balance := sound.accounted.balance other window found
        rwa [if_neg gone, Nat.add_zero] at balance
      · exact lifecycle.once other next before dead
    · exact lifecycle.own
  · intro kept
    by_contra needed
    have present := registered.1 (by simpa using needed)
    rcases Option.ne_none_iff_exists'.mp present with ⟨owner, stored⟩
    obtain rfl :=
      lifecycle.owner_eq sound.tracked found isAlive stored
    rcases kept.live window.handle owner stored with
      ⟨next, isNext, stillAlive, -⟩
    rcases getElem?_modifyWindow found isNext with
      ⟨-, rfl⟩ | ⟨different, -⟩
    · cases stillAlive
    · exact different rfl

theorem lifecycle_step_iff (sound : Sound state)
    (lifecycle : Lifecycle state) (label : Label) :
    ReleasedBefore state label ↔ Lifecycle (step state label) := by
  cases label with
  | construct handle hasRenderer =>
      refine iff_of_true trivial ?_
      simp only [step]
      split
      · exact lifecycle
      · constructor
        · intro key owner registered
          rcases lifecycle.live key owner registered with
            ⟨window, found, isAlive, same⟩
          exact ⟨window, getElem?_append_of_some found _, isAlive, same⟩
        · intro number window isWindow dead
          rcases getElem?_append_window isWindow with
            before | ⟨-, rfl⟩
          · exact lifecycle.once number window before dead
          · cases dead
        · exact lifecycle.own
  | attach number succeeds =>
      refine iff_of_true trivial ?_
      apply whenAlive_rule lifecycle
      intro window found isAlive
      unfold NativeWindows.attach
      split
      · have created :=
          lifecycle.createNativeWindow found isAlive succeeds
        exact created.modifyWindow (by simpa using found)
          (fun _ => rfl) (fun _ => rfl)
      · exact lifecycle.modifyWindow found (fun _ => rfl) (fun _ => rfl)
  | release number =>
      refine iff_of_true trivial ?_
      apply whenAlive_rule lifecycle
      intro window found isAlive
      unfold NativeWindows.release State.release
      split
      · exact lifecycle.modifyWindow found (fun _ => rfl) (fun _ => rfl)
      · have removed :=
          lifecycle.destroyNativeWindow sound.tracked found isAlive
        exact removed.modifyWindow (by simpa using found)
          (fun _ => rfl) (fun _ => rfl)
  | destroy number =>
      simp only [ReleasedBefore, step, State.whenAlive]
      cases found : state.windows[number]? with
      | none => simp [lifecycle]
      | some window =>
          by_cases isAlive : window.alive = true
          · simpa [isAlive] using
              lifecycle.destroy_iff sound found isAlive
          · simp [isAlive, lifecycle]

theorem lifecycle_initial : Lifecycle State.initial := by
  constructor
  · intro handle owner registered
    simp [State.initial] at registered
  · simp [State.initial]
  · simp [State.initial]

/--
All entries belong to live windows, and what was registered for a destroyed
window was removed once and by the window itself, exactly if every window that
was attached is released before it is destroyed.
-/
theorem lifecycle_iff (labels : List Label) :
    (∀ earlier, earlier <+: labels → Lifecycle (after earlier)) ↔
      Admitted step ReleasedBefore State.initial labels :=
  (@admitted_iff_always State Label step ReleasedBefore Sound Lifecycle
    (fun _ label sound => sound.preserved label)
    (fun _ label sound lifecycle =>
      lifecycle_step_iff sound lifecycle label)
    State.initial Sound.initial lifecycle_initial labels).symm

/-- A window that is dropped, and a window that gets the same handle. -/
def droppedThenRecycled : List Label :=
  [.construct 5 true, .attach 0 true, .destroy 0, .construct 5 true,
    .attach 1 true, .release 1]

/--
The entry of the first window outlives it, and the second window, which was
never entered, removes it in the end.
-/
theorem dropped_window_keeps_entry :
    ((after (droppedThenRecycled.take 3)).nativeWindows[5]? = some 0 ∧
        (after (droppedThenRecycled.take 3)).windows.map Window.alive =
          [false]) ∧
      (after droppedThenRecycled).log =
        [.registered 0 5, .unregistered 0 5 1] ∧
      ¬ Lifecycle (after (droppedThenRecycled.take 3)) ∧
      ¬ Lifecycle (after droppedThenRecycled) := by
  refine ⟨⟨rfl, rfl⟩, rfl, ?_, ?_⟩
  · intro lifecycle
    rcases lifecycle.live 5 0 rfl with ⟨window, found, isAlive, -⟩
    cases found
    cases isAlive
  · intro lifecycle
    have own := lifecycle.own 0 5 1 (by decide)
    cases own

end Anbox.Wm.NativeWindows
