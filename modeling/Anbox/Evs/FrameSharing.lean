import Anbox.Evs.CaptureBuffers

/-!
# Clients that share the frames of a camera

The manager hands each frame of a hardware camera to all clients that stream
and have room for it, and counts how many took it.  The frame goes back to the
hardware when the last of them is done with it.

A step has no result where the manager follows a null pointer: a client has
been closed, or it is sent something but has no stream.
-/

namespace Anbox.Evs.FrameSharing

open Anbox.Evs.CaptureBuffers (BufferDesc decrement)
open Anbox.Foundation.Runs

/-! ## State -/

inductive StreamState where
  | stopped
  | running
  | stopping
deriving DecidableEq, Repr

/-- A `VirtualCamera`, with whether `mStream` is set. -/
structure VirtualCamera where
  id : Nat
  hasStream : Bool
  framesHeld : List BufferDesc
  framesAllowed : Nat
  streamState : StreamState
deriving DecidableEq, Repr

/-- The constructor. -/
def VirtualCamera.new (id : Nat) : VirtualCamera where
  id := id
  hasStream := false
  framesHeld := []
  framesAllowed := 1
  streamState := .stopped

structure FrameRecord where
  frameId : Nat
  refCount : Nat
deriving DecidableEq, Repr

/--
A `HalCamera`.  `clients` are those of `mClients` that are still there, and
`closed` the ones that have lost their `mHalCamera`.

The code does not keep the history: the frames that the hardware delivered and
those that were returned to it, and the frames that clients had when they were
gone.
-/
structure HalCamera where
  clients : List VirtualCamera
  closed : List VirtualCamera
  frames : List FrameRecord
  opened : Nat
  delivered : List BufferDesc
  returned : List BufferDesc
  gone : List BufferDesc
deriving DecidableEq, Repr

def HalCamera.new : HalCamera where
  clients := []
  closed := []
  frames := []
  opened := 0
  delivered := []
  returned := []
  gone := []

/-! ## Frames of the hardware camera -/

/-- `changeFramesInFlight`, if the hardware grants the buffers or not. -/
def changeFramesInFlight (camera : HalCamera) (granted : Bool) : HalCamera :=
  if granted then
    { camera with
      frames := camera.frames.filter fun record => 0 < record.refCount }
  else camera

/-- Count down the first record of a frame: whether nobody has it any more. -/
def releaseRecord (frameId : Nat) :
    List FrameRecord → List FrameRecord × Bool
  | [] => ([], false)
  | record :: frames =>
      if record.frameId = frameId then
        let refCount := decrement record.refCount
        ({ record with refCount := refCount } :: frames, refCount = 0)
      else
        let (released, last) := releaseRecord frameId frames
        (record :: released, last)

/-- `HalCamera::doneWithFrame`. -/
def HalCamera.doneWithFrame (camera : HalCamera) (buffer : BufferDesc) :
    HalCamera :=
  let (frames, last) := releaseRecord buffer.bufferId camera.frames
  { camera with
    frames := frames
    returned :=
      if last then camera.returned ++ [buffer] else camera.returned }

/-- Record a frame in the first record that is not used, or in a new one. -/
def recordFrame (frameId deliveries : Nat) :
    List FrameRecord → List FrameRecord
  | [] => [⟨frameId, deliveries⟩]
  | record :: frames =>
      if record.refCount = 0 then ⟨frameId, deliveries⟩ :: frames
      else record :: recordFrame frameId deliveries frames

/-- `VirtualCamera::deliverFrame`: the client, and whether it took the frame. -/
def VirtualCamera.deliverFrame (client : VirtualCamera)
    (buffer : BufferDesc) : Option (VirtualCamera × Bool) :=
  if buffer.memHandle = none then
    if client.hasStream then
      some ({ client with streamState := .stopped }, true)
    else none
  else if client.streamState = .stopped then some (client, false)
  else if client.framesAllowed ≤ client.framesHeld.length then
    some (client, false)
  else if client.hasStream then
    some ({ client with framesHeld := client.framesHeld ++ [buffer] }, true)
  else none

/-- Deliver a frame to all clients and count those that took it. -/
def deliverToClients (buffer : BufferDesc) :
    List VirtualCamera → Option (List VirtualCamera × Nat)
  | [] => some ([], 0)
  | client :: clients => do
      let (served, took) ← client.deliverFrame buffer
      let (others, deliveries) ← deliverToClients buffer clients
      return (served :: others, (if took then 1 else 0) + deliveries)

/-- `HalCamera::deliverFrame`. -/
def HalCamera.deliverFrame (camera : HalCamera) (buffer : BufferDesc) :
    Option HalCamera := do
  let (clients, deliveries) ← deliverToClients buffer camera.clients
  let served :=
    { camera with
      clients := clients
      delivered := camera.delivered ++ [buffer] }
  if deliveries < 1 then
    return { served with returned := camera.returned ++ [buffer] }
  else
    return { served with
      frames := recordFrame buffer.bufferId deliveries camera.frames }

/-! ## Clients -/

/-- Replace the client of a given number. -/
def HalCamera.modifyClient (camera : HalCamera) (id : Nat)
    (change : VirtualCamera → VirtualCamera) : HalCamera :=
  { camera with
    clients :=
      camera.clients.map fun client =>
        if client.id = id then change client else client }

def HalCamera.removeClient (camera : HalCamera) (id : Nat) : HalCamera :=
  { camera with
    clients := camera.clients.filter fun client => client.id ≠ id }

def HalCamera.findClient (camera : HalCamera) (id : Nat) :
    Option VirtualCamera :=
  camera.clients.find? fun client => client.id = id

def HalCamera.findClosed (camera : HalCamera) (id : Nat) :
    Option VirtualCamera :=
  camera.closed.find? fun client => client.id = id

/-- `makeVirtualCamera`. -/
def makeVirtualCamera (camera : HalCamera) (granted : Bool) : HalCamera :=
  if granted then
    let changed := changeFramesInFlight camera granted
    { changed with
      clients := changed.clients ++ [VirtualCamera.new camera.opened]
      opened := camera.opened + 1 }
  else camera

/-- `VirtualCamera::stopVideoStream`, which comes back in the last state. -/
def VirtualCamera.stopVideoStream (client : VirtualCamera) :
    Option VirtualCamera :=
  if client.streamState = .running then
    if client.hasStream then some { client with streamState := .stopped }
    else none
  else some client

/--
`VirtualCamera::shutdown` for a client that is not in the list any more: the
frames that it held are returned only if it was not stopped.
-/
def shutdownClient (camera : HalCamera) (client : VirtualCamera) :
    HalCamera × VirtualCamera :=
  if client.streamState ≠ .stopped then
    (client.framesHeld.foldl HalCamera.doneWithFrame camera,
      { client with streamState := .stopped, framesHeld := [] })
  else
    ({ camera with gone := camera.gone ++ client.framesHeld }, client)

/-- `disownVirtualCamera`. -/
def disownVirtualCamera (camera : HalCamera) (client : VirtualCamera)
    (granted : Bool) : Option HalCamera := do
  let stopped ← client.stopVideoStream
  let (left, shut) := shutdownClient (camera.removeClient client.id) stopped
  return changeFramesInFlight { left with closed := shut :: left.closed }
    granted

/-- `VirtualCamera::setMaxFramesInFlight`. -/
def setMaxFrames (camera : HalCamera) (id bufferCount : Nat)
    (granted : Bool) : HalCamera :=
  if granted then
    (changeFramesInFlight camera granted).modifyClient id fun client =>
      { client with framesAllowed := bufferCount }
  else camera

/-- `VirtualCamera::startVideoStream`, if the hardware camera starts or not. -/
def VirtualCamera.startVideoStream (client : VirtualCamera)
    (stream started : Bool) : VirtualCamera :=
  if client.streamState ≠ .stopped then client
  else if started then
    { client with hasStream := stream, streamState := .running }
  else { client with hasStream := false, streamState := .stopped }

/-- `VirtualCamera::doneWithFrame`. -/
def clientDoneWithFrame (camera : HalCamera) (client : VirtualCamera)
    (buffer : BufferDesc) : HalCamera :=
  if buffer.memHandle = none then camera
  else if client.framesHeld.any fun held => held.bufferId = buffer.bufferId then
    (camera.modifyClient client.id fun client =>
      { client with
        framesHeld :=
          client.framesHeld.eraseP fun held =>
            held.bufferId = buffer.bufferId }).doneWithFrame buffer
  else camera

/-! ## Runs -/

/-- A call of a client's camera. -/
inductive Call where
  | closeCamera (granted : Bool)
  | dies
  | setMaxFramesInFlight (bufferCount : Nat) (granted : Bool)
  | startVideoStream (stream started : Bool)
  | stopVideoStream
  | doneWithFrame (buffer : BufferDesc)
deriving DecidableEq, Repr

/-- What clients ask for and what the hardware camera delivers. -/
inductive Event where
  | openCamera (granted : Bool)
  | call (id : Nat) (call : Call)
  | deliverFrame (buffer : BufferDesc)
deriving DecidableEq, Repr

/-- A call of a client that is open. -/
def clientStep (camera : HalCamera) (client : VirtualCamera) :
    Call → Option HalCamera
  | .closeCamera granted => disownVirtualCamera camera client granted
  | .dies => some (shutdownClient (camera.removeClient client.id) client).1
  | .setMaxFramesInFlight bufferCount granted =>
      some (setMaxFrames camera client.id bufferCount granted)
  | .startVideoStream stream started =>
      some
        (camera.modifyClient client.id fun client =>
          client.startVideoStream stream started)
  | .stopVideoStream => do
      let stopped ← client.stopVideoStream
      return camera.modifyClient client.id fun _ => stopped
  | .doneWithFrame buffer => some (clientDoneWithFrame camera client buffer)

/-- A call of a client that has been closed. -/
def closedStep (camera : HalCamera) (client : VirtualCamera) :
    Call → Option HalCamera
  | .closeCamera _ => none
  | .dies =>
      some
        { camera with
          closed := camera.closed.filter fun other => other.id ≠ client.id }
  | .setMaxFramesInFlight _ _ => none
  | .startVideoStream _ _ => none
  | .stopVideoStream => some camera
  | .doneWithFrame buffer =>
      if buffer.memHandle = none then some camera
      else if
        client.framesHeld.any fun held => held.bufferId = buffer.bufferId then
        none
      else some camera

/-- One step; there is no call from a client that is not there. -/
def step (camera : HalCamera) : Event → Option HalCamera
  | .openCamera granted => some (makeVirtualCamera camera granted)
  | .call id call =>
      match camera.findClient id with
      | some client => clientStep camera client call
      | none =>
          match camera.findClosed id with
          | some client => closedStep camera client call
          | none => some camera
  | .deliverFrame buffer => camera.deliverFrame buffer

/-- A step from what the last one has left. -/
def stepAfter (current : Option HalCamera) (event : Event) :
    Option HalCamera :=
  current.bind fun camera => step camera event

/-- The camera after some calls, if none of them fails. -/
def run (events : List Event) : Option HalCamera :=
  runFrom stepAfter (some HalCamera.new) events

end Anbox.Evs.FrameSharing
