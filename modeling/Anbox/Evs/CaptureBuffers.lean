import Mathlib.Algebra.Order.Ring.Int
import Anbox.Foundation.Runs
import Anbox.Foundation.SlotTable

/-!
# The buffers of a video camera

The driver keeps a record for each graphics buffer.  The number of a record is
the id under which its buffer is sent to a client, so a record stays when its
buffer is released and can take another buffer later.

The capture thread and the service take turns under a lock: a frame begins in
one turn, when a buffer is found for it, and ends in another one, when it has
been sent.
-/

namespace Anbox.Evs.CaptureBuffers

open Anbox.Foundation.Runs
open Anbox.Foundation.SlotTable

/-! ## State -/

/-- A `BufferRecord`; no handle is `nullptr`. -/
structure BufferRecord where
  handle : Option Nat
  inUse : Bool
deriving DecidableEq, Repr

/-- What a `BufferDesc` says about the buffer of a frame. -/
structure BufferDesc where
  bufferId : Nat
  memHandle : Option Nat
deriving DecidableEq, Repr

/--
An `EvsV4lCamera`, with whether `mVideo` is open and `mStream` is set, the
record that `forwardFrame` has picked, and the graphics buffers allocated.
-/
structure EvsV4lCamera where
  isOpen : Bool
  buffers : List BufferRecord
  framesAllowed : Nat
  framesInUse : Nat
  streaming : Bool
  filling : Option Nat
  allocator : Store Nat Unit

def maxBuffersInFlight : Nat :=
  100

/-- The constructor; the device can fail to open. -/
def EvsV4lCamera.new (isOpen : Bool) : EvsV4lCamera where
  isOpen := isOpen
  buffers := []
  framesAllowed := 0
  framesInUse := 0
  streaming := false
  filling := none
  allocator := Store.empty

/-- An `unsigned` counts down. -/
def decrement : Nat → Nat
  | 0 => 2 ^ 32 - 1
  | count + 1 => count

/-- The record holds a buffer that is not in use. -/
def BufferRecord.idle (record : BufferRecord) : Bool :=
  !record.inUse && record.handle.isSome

/-! ## More and fewer buffers -/

/-- Store a new buffer in the first empty record, or in a new one. -/
def storeBuffer (buffers : List BufferRecord) (memHandle : Nat) :
    List BufferRecord :=
  match buffers.findIdx? fun record => record.handle.isNone with
  | some index => buffers.modify index fun _ => ⟨some memHandle, false⟩
  | none => buffers ++ [⟨some memHandle, false⟩]

/--
`increaseAvailableFrames_Locked`, where `allocations` are the results of
`allocate`: the camera and the number of buffers added.
-/
def increaseAvailableFrames :
    EvsV4lCamera → List (Option Nat) → Nat → EvsV4lCamera × Nat
  | camera, _, 0 => (camera, 0)
  | camera, some memHandle :: allocations, numToAdd + 1 =>
      let (increased, added) :=
        increaseAvailableFrames
          { camera with
            buffers := storeBuffer camera.buffers memHandle
            framesAllowed := camera.framesAllowed + 1
            allocator := camera.allocator.create memHandle () }
          allocations numToAdd
      (increased, added + 1)
  | camera, _, _ + 1 => (camera, 0)

/-- Release the buffer of a record. -/
def releaseBuffer (camera : EvsV4lCamera) (index memHandle : Nat) :
    EvsV4lCamera :=
  { camera with
    buffers :=
      camera.buffers.modify index fun record => { record with handle := none }
    framesAllowed := decrement camera.framesAllowed
    allocator := camera.allocator.destroy memHandle }

/-- The loop of `decreaseAvailableFrames_Locked` over some records. -/
def releaseBuffers (numToRemove : Nat) :
    List Nat → EvsV4lCamera → Nat → EvsV4lCamera × Nat
  | [], camera, removed => (camera, removed)
  | index :: indices, camera, removed =>
      match camera.buffers[index]? with
      | some ⟨some memHandle, false⟩ =>
          let released := releaseBuffer camera index memHandle
          if removed + 1 = numToRemove then (released, removed + 1)
          else releaseBuffers numToRemove indices released (removed + 1)
      | _ => releaseBuffers numToRemove indices camera removed

/--
`decreaseAvailableFrames_Locked`.  The number to remove is looked at after a
buffer has been released.
-/
def decreaseAvailableFrames (camera : EvsV4lCamera) (numToRemove : Nat) :
    EvsV4lCamera × Nat :=
  releaseBuffers numToRemove (List.range camera.buffers.length) camera 0

/-- `setAvailableFrames_Locked`. -/
def setAvailableFrames (camera : EvsV4lCamera) (bufferCount : Nat)
    (allocations : List (Option Nat)) : EvsV4lCamera × Bool :=
  if bufferCount < 1 then (camera, false)
  else if maxBuffersInFlight < bufferCount then (camera, false)
  else if camera.framesAllowed < bufferCount then
    let needed := bufferCount - camera.framesAllowed
    let (increased, added) :=
      increaseAvailableFrames camera allocations needed
    if added ≠ needed then
      ((decreaseAvailableFrames increased added).1, false)
    else (increased, true)
  else if bufferCount < camera.framesAllowed then
    let framesToRelease := camera.framesAllowed - bufferCount
    ((decreaseAvailableFrames camera framesToRelease).1, true)
  else (camera, true)

inductive EvsResult where
  | ok
  | invalidArg
  | streamAlreadyRunning
  | bufferNotAvailable
  | ownershipLost
  | underlyingServiceError
deriving DecidableEq, Repr

def setMaxFramesInFlight (camera : EvsV4lCamera) (bufferCount : Nat)
    (allocations : List (Option Nat)) : EvsV4lCamera × EvsResult :=
  if camera.isOpen = false then (camera, .ownershipLost)
  else if bufferCount < 1 then (camera, .invalidArg)
  else
    let (changed, result) :=
      setAvailableFrames camera bufferCount allocations
    (changed, if result then .ok else .bufferNotAvailable)

/-! ## The stream -/

/-- `startVideoStream`; the video capture can fail to start. -/
def startVideoStream (camera : EvsV4lCamera)
    (allocations : List (Option Nat)) (started : Bool) :
    EvsV4lCamera × EvsResult :=
  if camera.isOpen = false then (camera, .ownershipLost)
  else if camera.streaming then (camera, .streamAlreadyRunning)
  else
    let (prepared, result) :=
      if camera.framesAllowed < 1 then
        setAvailableFrames camera 1 allocations
      else (camera, true)
    if result = false then (prepared, .bufferNotAvailable)
    else if started then ({ prepared with streaming := true }, .ok)
    else ({ prepared with streaming := false }, .underlyingServiceError)

/-- `stopVideoStream`, whether it sends the empty last frame. -/
def stopVideoStream (camera : EvsV4lCamera) : EvsV4lCamera × Bool :=
  ({ camera with streaming := false }, camera.streaming)

/-- The first locked part of `forwardFrame`. -/
def beginFrame (camera : EvsV4lCamera) : EvsV4lCamera :=
  if camera.framesAllowed ≤ camera.framesInUse then camera
  else
    match camera.buffers.findIdx? BufferRecord.idle with
    | none => camera
    | some index =>
        { camera with
          buffers :=
            camera.buffers.modify index fun record =>
              { record with inUse := true }
          framesInUse := camera.framesInUse + 1
          filling := some index }

/-- The end of `forwardFrame`. -/
def endFrame (camera : EvsV4lCamera) (delivered : Bool) : EvsV4lCamera :=
  match camera.filling with
  | none => camera
  | some index =>
      if delivered then { camera with filling := none }
      else
        { camera with
          buffers :=
            camera.buffers.modify index fun record =>
              { record with inUse := false }
          framesInUse := decrement camera.framesInUse
          filling := none }

/-- Move the buffer of a record to the first empty record. -/
def moveDown (buffers : List BufferRecord) (index : Nat) :
    List BufferRecord :=
  match buffers.findIdx? fun record => record.handle.isNone with
  | none => buffers
  | some empty =>
      let memHandle := (buffers[index]?).bind BufferRecord.handle
      (buffers.modify empty fun record =>
          { record with handle := memHandle }).modify index fun record =>
        { record with handle := none }

def doneWithFrame (camera : EvsV4lCamera) (buffer : BufferDesc) :
    EvsV4lCamera :=
  if camera.isOpen = false then camera
  else if buffer.memHandle = none then camera
  else
    match camera.buffers[buffer.bufferId]? with
    | none => camera
    | some record =>
        if record.inUse = false then camera
        else
          let returned :=
            camera.buffers.modify buffer.bufferId fun record =>
              { record with inUse := false }
          { camera with
            buffers :=
              if camera.framesAllowed ≤ buffer.bufferId then
                moveDown returned buffer.bufferId
              else returned
            framesInUse := decrement camera.framesInUse }

/-- The handles that records hold. -/
def handles (buffers : List BufferRecord) (index : Nat) : Option Nat :=
  (buffers[index]?).bind BufferRecord.handle

/-- The records of the camera and the buffers they look after. -/
def bank (camera : EvsV4lCamera) : Bank Nat Nat Unit :=
  ⟨handles camera.buffers, camera.allocator⟩

/-- `shutdown`. -/
def shutdown (camera : EvsV4lCamera) : EvsV4lCamera :=
  let indices := List.range camera.buffers.length
  { (stopVideoStream camera).1 with
    isOpen := false
    buffers := []
    allocator := ((bank camera).destroyAll indices).store }

/-! ## Runs -/

/-- What happens to the camera. -/
inductive Event where
  | setMaxFramesInFlight (bufferCount : Nat)
      (allocations : List (Option Nat))
  | startVideoStream (allocations : List (Option Nat)) (started : Bool)
  | beginFrame
  | endFrame (delivered : Bool)
  | doneWithFrame (buffer : BufferDesc)
  | stopVideoStream
  | shutdown
deriving DecidableEq, Repr

def step (camera : EvsV4lCamera) : Event → EvsV4lCamera
  | .setMaxFramesInFlight bufferCount allocations =>
      (setMaxFramesInFlight camera bufferCount allocations).1
  | .startVideoStream allocations started =>
      (startVideoStream camera allocations started).1
  | .beginFrame => beginFrame camera
  | .endFrame delivered => endFrame camera delivered
  | .doneWithFrame buffer => doneWithFrame camera buffer
  | .stopVideoStream => (stopVideoStream camera).1
  | .shutdown => shutdown camera

/-- No handle is given out a second time. -/
def Fresh (camera : EvsV4lCamera) (allocations : List (Option Nat)) : Prop :=
  allocations.reduceOption.Nodup ∧
    ∀ memHandle ∈ allocations.reduceOption,
      memHandle ∉ camera.allocator.created

instance (camera : EvsV4lCamera) (allocations : List (Option Nat)) :
    Decidable (Fresh camera allocations) :=
  inferInstanceAs (Decidable (_ ∧ _))

/-- The record of the frame that ends is still in use. -/
def StillInUse (camera : EvsV4lCamera) : Prop :=
  ∀ index ∈ camera.filling,
    (camera.buffers[index]?).map BufferRecord.inUse = some true

instance (camera : EvsV4lCamera) : Decidable (StillInUse camera) :=
  inferInstanceAs (Decidable (∀ index ∈ camera.filling, _))

/--
The events that can happen.  The capture thread runs while there is a stream,
and `stopVideoStream` waits for its end.  A frame that could not be delivered
has not been returned.
-/
def admits (camera : EvsV4lCamera) : Event → Prop
  | .setMaxFramesInFlight _ allocations => Fresh camera allocations
  | .startVideoStream allocations _ => Fresh camera allocations
  | .beginFrame => camera.streaming = true ∧ camera.filling = none
  | .endFrame delivered => delivered = false → StillInUse camera
  | .doneWithFrame _ => True
  | .stopVideoStream => camera.filling = none
  | .shutdown => camera.filling = none

instance (camera : EvsV4lCamera) (event : Event) :
    Decidable (admits camera event) :=
  match event with
  | .setMaxFramesInFlight _ allocations =>
      inferInstanceAs (Decidable (Fresh camera allocations))
  | .startVideoStream allocations _ =>
      inferInstanceAs (Decidable (Fresh camera allocations))
  | .beginFrame => inferInstanceAs (Decidable (_ ∧ _))
  | .endFrame _ => inferInstanceAs (Decidable (_ → StillInUse camera))
  | .doneWithFrame _ => isTrue trivial
  | .stopVideoStream => inferInstanceAs (Decidable (_ = none))
  | .shutdown => inferInstanceAs (Decidable (_ = none))

/-- The camera after some events. -/
def run (isOpen : Bool) (events : List Event) : EvsV4lCamera :=
  runFrom step (EvsV4lCamera.new isOpen) events

end Anbox.Evs.CaptureBuffers
