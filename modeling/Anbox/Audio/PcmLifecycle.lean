import Anbox.Foundation.HandleLog
import Anbox.Foundation.Runs

/-!
# The PCM handle of an audio stream

A stream opens its PCM device when it is created and closes it in standby.  The
first read or write in standby opens it again.  `pcm_open` may fail with a null
pointer or with a handle that is not ready, which has to be closed.

Input and output streams are two copies of the same state machine.  They
differ in what becomes of a handle that is not ready when the device is opened
again: `out_write` clears `p_handle` after `pcm_close` and `in_read` does not.
-/

namespace Anbox.Audio.PcmLifecycle

open Anbox.Foundation.HandleLog
open Anbox.Foundation.Runs

def einval : Int := -22

def enomem : Int := -12

/-! ## Streams -/

/-- The members of `x_stream_in_t` and `x_stream_out_t` that matter here. -/
structure Stream where
  standby : Bool
  pHandle : Option Handle
  muted : Bool
  /-- Counted by output streams. -/
  errorCntr : Int32
deriving DecidableEq, Repr

/-- What `pcm_open` and `pcm_is_ready` say, with the error of a failure. -/
inductive Opening where
  | null (errno : Int)
  | notReady (errno : Int)
  | ready
deriving DecidableEq, Repr

/-- A stream as `calloc` clears it, with the handle of its device. -/
def Stream.opened (handle : Handle) : Stream := ⟨false, some handle, false, 0⟩

/-- `in_create` and `out_create`. -/
def createStream (allocated : Bool) (opening : Opening)
    (library : Library) : Int × Option Stream × Library :=
  if !allocated then (enomem, none, library)
  else
    match opening with
    | .null errno => (-errno, none, library)
    | .notReady errno =>
        let handle := library.next
        -- `pcm_is_ready`, `pcm_get_error` and `pcm_close`
        (-errno, none,
          ((library.openNew.use (some handle)).use (some handle)).close
            (some handle))
    | .ready =>
        let handle := library.next
        (0, some (.opened handle), library.openNew.use (some handle))

def inCreate : Bool → Opening → Library → Int × Option Stream × Library :=
  createStream

def outCreate : Bool → Opening → Library → Int × Option Stream × Library :=
  createStream

/-- `in_standby` and `out_standby`. -/
def standbyStream (stream : Stream) (library : Library) :
    Stream × Library :=
  if stream.standby then (stream, library)
  else
    ({ stream with standby := true, pHandle := none },
      library.close stream.pHandle)

def inStandby : Stream → Library → Stream × Library := standbyStream

def outStandby : Stream → Library → Stream × Library := standbyStream

/-- `in_destroy` and `out_destroy`. -/
def destroyStream (stream : Stream) (library : Library) : Library :=
  library.close stream.pHandle

def inDestroy : Stream → Library → Library := destroyStream

def outDestroy : Stream → Library → Library := destroyStream

/-! ## Reading -/

/-- The part of `in_read` behind the opening of the device. -/
def readFrames (bytes : Nat) (failure : Option Int) (stream : Stream)
    (library : Library) : Int × Stream × Library :=
  let read := library.use stream.pHandle
  match failure with
  -- the text of the error is asked for as well
  | some errno => (-errno, stream, read.use stream.pHandle)
  | none => (bytes, stream, read)

/--
`in_read`.  A handle that is not ready is closed and stays in `p_handle`.
-/
def inRead (hasBuffer : Bool) (bytes : Nat) (opening : Opening)
    (failure : Option Int) (stream : Stream) (library : Library) :
    Int × Stream × Library :=
  if !hasBuffer then (einval, stream, library)
  else if bytes = 0 then (0, stream, library)
  else if stream.standby then
    let handle := library.next
    match opening with
    | .null errno => (-errno, { stream with pHandle := none }, library)
    | .notReady errno =>
        (-errno, { stream with pHandle := some handle },
          (library.openNew.use (some handle)).close (some handle))
    | .ready =>
        readFrames bytes failure
          { stream with pHandle := some handle, standby := false }
          (library.openNew.use (some handle))
  else readFrames bytes failure stream library

/-! ## Writing -/

/-- `MAX_ALLOWED_ERRORS`. -/
def maxAllowedErrors : Int32 := 5

/--
The part of `out_write` behind the opening of the device.  The error is 0 if
`pcm_write` succeeds.
-/
def writeFrames (bytes : Nat) (originalErrno : Int) (stream : Stream)
    (library : Library) : Int × Stream × Library :=
  let written := if stream.muted then library else library.use stream.pHandle
  if !stream.muted && originalErrno ≠ 0 then
    let failed := { stream with errorCntr := stream.errorCntr + 1 }
    let asked := written.use stream.pHandle
    if failed.errorCntr ≥ maxAllowedErrors then
      (-originalErrno, outStandby failed asked)
    else (-originalErrno, failed, asked)
  else (bytes, { stream with errorCntr := 0 }, written)

/-- `out_write`. -/
def outWrite (hasBuffer : Bool) (bytes : Nat) (opening : Opening)
    (originalErrno : Int) (stream : Stream) (library : Library) :
    Int × Stream × Library :=
  if !hasBuffer then (einval, stream, library)
  else if bytes = 0 then (0, stream, library)
  else if stream.standby then
    let handle := library.next
    match opening with
    | .null errno => (-errno, { stream with pHandle := none }, library)
    | .notReady errno =>
        (-errno, { stream with pHandle := none },
          (library.openNew.use (some handle)).close (some handle))
    | .ready =>
        writeFrames bytes originalErrno
          { stream with pHandle := some handle, standby := false }
          (library.openNew.use (some handle))
  else writeFrames bytes originalErrno stream library

/-! ## Runs -/

inductive Direction where
  | input
  | output
deriving DecidableEq, Repr

structure System where
  stream : Option Stream
  library : Library
deriving DecidableEq, Repr

def System.initial : System := ⟨none, .initial⟩

/-- The operations on a stream. -/
inductive Operation where
  | create (allocated : Bool) (opening : Opening)
  /-- A read of an input stream, a write of an output stream. -/
  | transfer (hasBuffer : Bool) (bytes : Nat) (opening : Opening)
      (failure : Option Int)
  | standby
  | setMute (mute : Bool)
  | destroy
deriving DecidableEq, Repr

/-- A read or a write, with the `errno` of a failure. -/
def transfer (direction : Direction) (hasBuffer : Bool) (bytes : Nat)
    (opening : Opening) (failure : Option Int) (stream : Stream)
    (library : Library) : Int × Stream × Library :=
  match direction with
  | .input => inRead hasBuffer bytes opening failure stream library
  | .output =>
      outWrite hasBuffer bytes opening (failure.getD 0) stream library

/-- A stream that exists. -/
def stepStream (direction : Direction) (stream : Stream)
    (library : Library) : Operation → System
  | .create _ _ => ⟨some stream, library⟩
  | .transfer hasBuffer bytes opening failure =>
      let result :=
        transfer direction hasBuffer bytes opening failure stream library
      ⟨some result.2.1, result.2.2⟩
  | .standby =>
      let result :=
        match direction with
        | .input => inStandby stream library
        | .output => outStandby stream library
      ⟨some result.1, result.2⟩
  | .setMute mute => ⟨some { stream with muted := mute }, library⟩
  | .destroy =>
      match direction with
      | .input => ⟨none, inDestroy stream library⟩
      | .output => ⟨none, outDestroy stream library⟩

/-- Without a stream, only one can be created. -/
def step (direction : Direction) (system : System)
    (operation : Operation) : System :=
  match system.stream with
  | some stream => stepStream direction stream system.library operation
  | none =>
      match operation with
      | .create allocated opening =>
          let result :=
            match direction with
            | .input => inCreate allocated opening system.library
            | .output => outCreate allocated opening system.library
          ⟨result.2.1, result.2.2⟩
      | _ => system

def reached (direction : Direction) (operations : List Operation) :
    System :=
  runFrom (step direction) System.initial operations

/-! ## The life of a handle -/

/-- The handle that the stream has, if there is a stream. -/
def System.held (system : System) : Option Handle :=
  system.stream.bind Stream.pHandle

/--
A stream has a handle exactly when it is not in standby.  Every handle that
was opened and is not the stream's has been closed once, and no handle is
given to the library after it was closed.
-/
structure Lifecycle (system : System) : Prop where
  standby :
    ∀ stream, system.stream = some stream →
      (stream.pHandle.isSome = true ↔ stream.standby = false)
  closed :
    ∀ handle, .opened handle ∈ system.library.calls →
      system.library.calls.count (.closed handle) =
        if system.held = some handle then 0 else 1
  ordered : system.library.calls.Pairwise NotAfterClose

/--
No input stream in standby gets a handle that is not ready when it opens its
device again.
-/
def ReopensReady (direction : Direction) (system : System) :
    Operation → Prop
  | .transfer hasBuffer bytes (.notReady _) _ =>
      direction = .input → hasBuffer = true → bytes ≠ 0 →
        ∀ stream, system.stream = some stream → stream.standby = false
  | _ => True

/-! ## One operation -/

/-- The stream holds what is open, and holds it unless in standby. -/
structure Good (stream : Stream) (library : Library) : Prop where
  tidy : Tidy library stream.pHandle
  standby : stream.pHandle.isSome = true ↔ stream.standby = false

section

variable {stream : Stream} {library : Library}

/-- The device of a stream that is not in standby is open. -/
theorem Good.active (good : Good stream library)
    (active : stream.standby = false) :
    ∃ handle, stream.pHandle = some handle :=
  Option.isSome_iff_exists.mp (good.standby.mpr active)

/-- In standby everything is closed. -/
theorem Good.closed (good : Good stream library)
    (standby : stream.standby = true) : stream.pHandle = none := by
  cases held : stream.pHandle with
  | none => rfl
  | some handle =>
      have active := good.standby.mp (by rw [held]; rfl)
      rw [standby] at active
      cases active

/-- A device that is ready becomes the device of the stream. -/
theorem Good.reopened (good : Good stream library)
    (standby : stream.standby = true) :
    Good { stream with pHandle := some library.next, standby := false }
      (library.openNew.use (some library.next)) := by
  have tidy := good.tidy
  rw [good.closed standby] at tidy
  exact ⟨tidy.openNew.use, by simp⟩

/-- A device that is not ready is closed and forgotten. -/
theorem Good.refused (good : Good stream library)
    (standby : stream.standby = true) :
    Good { stream with pHandle := none }
      ((library.openNew.use (some library.next)).close
        (some library.next)) := by
  have tidy := good.tidy
  rw [good.closed standby] at tidy
  exact ⟨tidy.openNew.use.close, by simp [standby]⟩

/-- Without a device the stream stays as it is. -/
theorem Good.unopened (good : Good stream library)
    (standby : stream.standby = true) :
    Good { stream with pHandle := none } library := by
  have tidy := good.tidy
  rw [good.closed standby] at tidy
  exact ⟨tidy, by simp [standby]⟩

theorem Good.use (good : Good stream library)
    (active : stream.standby = false) :
    Good stream (library.use stream.pHandle) := by
  rcases good.active active with ⟨handle, held⟩
  refine ⟨?_, good.standby⟩
  have tidy := good.tidy
  rw [held] at tidy ⊢
  exact tidy.use

theorem Good.standbyStream (good : Good stream library) :
    Good (standbyStream stream library).1
      (standbyStream stream library).2 := by
  unfold PcmLifecycle.standbyStream
  split
  · exact good
  · exact ⟨good.tidy.closeHeld, by simp⟩

theorem Good.readFrames (good : Good stream library)
    (active : stream.standby = false) (bytes : Nat)
    (failure : Option Int) :
    Good (readFrames bytes failure stream library).2.1
      (readFrames bytes failure stream library).2.2 := by
  cases failure with
  | none => exact good.use active
  | some errno => exact (good.use active).use active

/-- The counter of errors is of no consequence for the handle. -/
theorem Good.counted (good : Good stream library) (count : Int32) :
    Good { stream with errorCntr := count } library :=
  ⟨good.tidy, good.standby⟩

theorem Good.writeFrames (good : Good stream library)
    (active : stream.standby = false) (bytes : Nat)
    (originalErrno : Int) :
    Good (writeFrames bytes originalErrno stream library).2.1
      (writeFrames bytes originalErrno stream library).2.2 := by
  have written :
      Good stream
        (if stream.muted then library
          else library.use stream.pHandle) := by
    split
    · exact good
    · exact good.use active
  unfold PcmLifecycle.writeFrames
  dsimp only
  split
  · have failed :=
      (written.use active).counted (stream.errorCntr + 1)
    split
    · exact failed.standbyStream
    · exact failed
  · exact written.counted 0

theorem Good.outWrite (good : Good stream library) (hasBuffer : Bool)
    (bytes : Nat) (opening : Opening) (originalErrno : Int) :
    Good
      (outWrite hasBuffer bytes opening originalErrno stream library).2.1
      (outWrite hasBuffer bytes opening originalErrno stream
        library).2.2 := by
  unfold PcmLifecycle.outWrite
  split
  · exact good
  · split
    · exact good
    · split
      · rename_i standby
        cases opening with
        | null errno => exact good.unopened standby
        | notReady errno => exact good.refused standby
        | ready =>
            exact (good.reopened standby).writeFrames rfl bytes
              originalErrno
      · rename_i active
        exact good.writeFrames (by simpa using active) bytes originalErrno

/-- A read keeps the stream good unless it keeps a closed handle. -/
theorem Good.inRead (good : Good stream library) (hasBuffer : Bool)
    (bytes : Nat) (opening : Opening) (failure : Option Int)
    (ready :
      ∀ errno, opening = .notReady errno → hasBuffer = true →
        bytes ≠ 0 → stream.standby = false) :
    Good (inRead hasBuffer bytes opening failure stream library).2.1
      (inRead hasBuffer bytes opening failure stream library).2.2 := by
  unfold PcmLifecycle.inRead
  split
  · exact good
  · rename_i buffer
    split
    · exact good
    · rename_i some
      split
      · rename_i standby
        cases opening with
        | null errno => exact good.unopened standby
        | notReady errno =>
            have active := ready errno rfl (by simpa using buffer) some
            rw [active] at standby
            cases standby
        | ready =>
            exact (good.reopened standby).readFrames rfl bytes failure
      · rename_i active
        exact good.readFrames (by simpa using active) bytes failure

/-- A closed handle that is kept shows in standby. -/
theorem inRead_notReady (standby : stream.standby = true) {bytes : Nat}
    (some : bytes ≠ 0) (errno : Int) (failure : Option Int) :
    let result :=
      (inRead true bytes (.notReady errno) failure stream library).2.1
    result.pHandle.isSome = true ∧ result.standby = true := by
  simp [inRead, some, standby]

theorem createStream_cases (allocated : Bool) (opening : Opening)
    (tidy : Tidy library none) :
    let result := createStream allocated opening library
    (result.2.1 = none ∧ Tidy result.2.2 none) ∨
      ∃ stream, result.2.1 = some stream ∧ Good stream result.2.2 := by
  unfold createStream
  split
  · exact Or.inl ⟨rfl, tidy⟩
  · cases opening with
    | null errno => exact Or.inl ⟨rfl, tidy⟩
    | notReady errno =>
        exact Or.inl ⟨rfl, tidy.openNew.use.use.close⟩
    | ready =>
        exact Or.inr ⟨_, rfl, tidy.openNew.use, by simp [Stream.opened]⟩

end

/-! ## Whole runs -/

/-- What is open is held by the stream, if there is one. -/
def Sound (system : System) : Prop :=
  match system.stream with
  | some stream => Good stream system.library
  | none => Tidy system.library none

theorem Sound.lifecycle {system : System} (sound : Sound system) :
    Lifecycle system := by
  rcases system with ⟨stream, library⟩
  cases stream with
  | none =>
      have tidy : Tidy library none := sound
      refine ⟨?_, tidy.closed, tidy.ordered⟩
      intro stream absent
      cases absent
  | some stream =>
      have good : Good stream library := sound
      refine ⟨?_, good.tidy.closed, good.tidy.ordered⟩
      intro other same
      cases same
      exact good.standby

theorem Sound.step {direction : Direction} {system : System}
    (sound : Sound system) (operation : Operation)
    (ready : ReopensReady direction system operation) :
    Sound (step direction system operation) := by
  rcases system with ⟨stream, library⟩
  cases stream with
  | none =>
      cases operation with
      | create allocated opening =>
          have created : Sound
              ⟨(createStream allocated opening library).2.1,
                (createStream allocated opening library).2.2⟩ := by
            rcases createStream_cases allocated opening sound with
              ⟨absent, tidy⟩ | ⟨stream, present, good⟩
            · rw [absent]
              exact tidy
            · rw [present]
              exact good
          cases direction with
          | input => exact created
          | output => exact created
      | transfer hasBuffer bytes opening failure => exact sound
      | standby => exact sound
      | setMute mute => exact sound
      | destroy => exact sound
  | some stream =>
      have good : Good stream library := sound
      cases operation with
      | create allocated opening => exact good
      | transfer hasBuffer bytes opening failure =>
          cases direction with
          | output =>
              exact good.outWrite hasBuffer bytes opening (failure.getD 0)
          | input =>
              apply good.inRead
              rintro errno rfl buffer some
              exact ready rfl buffer some stream rfl
      | standby =>
          cases direction with
          | input => exact good.standbyStream
          | output => exact good.standbyStream
      | setMute mute => exact ⟨good.tidy, good.standby⟩
      | destroy =>
          cases direction with
          | input => exact good.tidy.closeHeld
          | output => exact good.tidy.closeHeld

/-- A handle that is kept after it was closed breaks the lifecycle. -/
theorem reopensReady_of_lifecycle {direction : Direction}
    {system : System} (operation : Operation)
    (lifecycle : Lifecycle (step direction system operation)) :
    ReopensReady direction system operation := by
  cases operation with
  | create allocated opening => trivial
  | standby => trivial
  | setMute mute => trivial
  | destroy => trivial
  | transfer hasBuffer bytes opening failure =>
      cases opening with
      | null errno => trivial
      | ready => trivial
      | notReady errno =>
          rintro rfl rfl some stream present
          cases standby : stream.standby with
          | false => rfl
          | true =>
              rcases system with ⟨_, library⟩
              cases present
              rcases @inRead_notReady stream library standby bytes some
                  errno failure with ⟨held, still⟩
              have active := (lifecycle.standby _ rfl).mp held
              exact absurd (active.symm.trans still) (by simp)

/--
Every handle is closed once and held exactly outside of standby, all through a
run, if and only if no input stream gets a handle that is not ready when it
opens its device again.
-/
theorem lifecycle_always_iff_reopensReady (direction : Direction)
    (operations : List Operation) :
    (∀ earlier, earlier <+: operations →
        Lifecycle (reached direction earlier)) ↔
      Admitted (step direction) (ReopensReady direction) System.initial
        operations :=
  @always_iff_admitted System Operation (step direction)
    (ReopensReady direction) Sound Lifecycle
    (fun _ sound => sound.lifecycle)
    (fun _ operation sound ready => sound.step operation ready)
    (fun _ operation _ lifecycle =>
      reopensReady_of_lifecycle operation lifecycle)
    System.initial tidy_initial operations

/-- A device is not ready when the stream wakes up. -/
def wakesNotReady : List Operation :=
  [.create true .ready, .standby, .transfer true 4 (.notReady 16) none]

/--
The stream is in standby and has a handle, which has been closed.  Its
destruction closes the handle a second time.
-/
theorem not_ready_handle_closed_twice :
    (reached .input wakesNotReady).stream =
      some ⟨true, some 1, false, 0⟩ ∧
    ¬Lifecycle (reached .input wakesNotReady) ∧
    (reached .input (wakesNotReady ++ [.destroy])).library.calls.count
      (.closed 1) = 2 := by
  refine ⟨by decide, ?_, by decide⟩
  intro lifecycle
  have active :=
    (lifecycle.standby ⟨true, some 1, false, 0⟩ (by decide)).mp rfl
  cases active

end Anbox.Audio.PcmLifecycle
