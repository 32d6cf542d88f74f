import Anbox.Foundation.Runs
import Anbox.Qemud.OutgoingPackets
import Anbox.Qemud.SerialPort

/-!
# The multiplexer of the qemud daemon

Clients connect to a socket and name a service.  The daemon picks a number for
the channel, asks the emulator to connect it, and passes data between the
client and the channel once the emulator has agreed.  All channels share one
serial port; channel 0 is for control messages.

A step is one event that the looper reports for a descriptor, with what the
descriptor gives and takes.  It has no result where the daemon reads or writes
memory that is not its own, or never comes back.
-/

namespace Anbox.Qemud.Multiplexing

open Anbox.Foundation.Runs
open Anbox.Qemud.OutgoingPackets
open Anbox.Qemud.SerialPort

/-! ## State -/

/-- A `Client`, with the handler of its socket. -/
structure Client where
  id : Nat
  channel : Int
  registered : Bool
  handler : FdHandler
deriving DecidableEq, Repr

/-- A handler in the list `closing`; its client is freed. -/
structure Draining where
  id : Nat
  handler : FdHandler
deriving DecidableEq, Repr

/--
The `Multiplexer` with the handlers of all descriptors.  Clients are numbered
in the order in which they connect.
-/
structure Multiplexer where
  clients : List Client
  draining : List Draining
  lastChannel : Nat
  serial : Serial
  port : FdHandler
  connected : Nat

/-- The multiplexer made by `multiplexer_init`. -/
def Multiplexer.initial : Multiplexer where
  clients := []
  draining := []
  lastChannel := 0
  serial := Serial.initial
  port := FdHandler.new
  connected := 0

/-- `client_new`. -/
def Client.new (id : Nat) : Client where
  id := id
  channel := -1
  registered := false
  handler := FdHandler.new

def ascii (text : String) : List UInt8 :=
  text.toList.map fun character => UInt8.ofNat character.toNat

/-! ## Messages to the emulator -/

/-- `serial_send` with the packets it enqueues. -/
def sendPacket (multiplexer : Multiplexer) (packet : Packet) : Multiplexer :=
  { multiplexer with
    port := (serialSend packet).foldl fdhandlerEnqueue multiplexer.port }

/--
The search of `multiplexer_open_channel`, for at most `fuel` numbers: the
counter at its end and the channel.
-/
def nextChannelFuel (clients : List Client) :
    Nat → Nat → Option (Nat × Int)
  | 0, _ => none
  | fuel + 1, lastChannel =>
      let channel : Int := (lastChannel + 1) % 256
      if clients.any fun client => client.channel = channel then
        nextChannelFuel clients fuel (lastChannel + 1)
      else some (lastChannel + 1, channel)

/-- The search; if none of the 256 numbers is free, it goes on for ever. -/
def nextChannel (clients : List Client) (lastChannel : Nat) :
    Option (Nat × Int) :=
  nextChannelFuel clients 256 lastChannel

/-- The message written by `multiplexer_open_channel`. -/
def connectMessage (service : List UInt8) (channel : Int) : List UInt8 :=
  ascii "connect:" ++ service.takeWhile (· ≠ 0) ++ ascii ":" ++
    int2hex channel 2

/-- The message written by `multiplexer_close_channel`. -/
def disconnectMessage (channel : Int) : List UInt8 :=
  ascii "disconnect:" ++ int2hex channel 2

/-- `multiplexer_open_channel`: the channel, or -1 if the name is too long. -/
def multiplexerOpenChannel (multiplexer : Multiplexer)
    (service : List UInt8) : Option (Multiplexer × Int) := do
  let (lastChannel, channel) ←
    nextChannel multiplexer.clients multiplexer.lastChannel
  let counted := { multiplexer with lastChannel := lastChannel }
  let message := connectMessage service channel
  if maxPayload ≤ message.length then return (counted, -1)
  else return (sendPacket counted ⟨channelControl, message⟩, channel)

/-- `multiplexer_close_channel`. -/
def multiplexerCloseChannel (multiplexer : Multiplexer) (channel : Int) :
    Multiplexer :=
  sendPacket multiplexer ⟨channelControl, disconnectMessage channel⟩

/-! ## Clients -/

/-- Replace the client of a given number. -/
def Multiplexer.modifyClient (multiplexer : Multiplexer) (id : Nat)
    (change : Client → Client) : Multiplexer :=
  { multiplexer with
    clients :=
      multiplexer.clients.map fun client =>
        if client.id = id then change client else client }

/-- Take a client out of the list. -/
def Multiplexer.removeClient (multiplexer : Multiplexer) (id : Nat) :
    Multiplexer :=
  { multiplexer with
    clients := multiplexer.clients.filter fun client => client.id ≠ id }

/--
`client_free`: the handler stays until it is hung up if it has packets to
write, and is closed otherwise.
-/
def clientFree (multiplexer : Multiplexer) (client : Client) : Multiplexer :=
  let removed := multiplexer.removeClient client.id
  if client.handler.out ≠ [] then
    { removed with
      draining :=
        ⟨client.id, { client.handler with closing := true }⟩ ::
          removed.draining }
  else removed

/-- `client_fd_receive`. -/
def clientFdReceive (multiplexer : Multiplexer) (client : Client)
    (data : List UInt8) : Option Multiplexer :=
  if client.registered then
    some (sendPacket multiplexer ⟨client.channel, data⟩)
  else if client.channel > 0 then some (clientFree multiplexer client)
  else do
    let (opened, channel) ← multiplexerOpenChannel multiplexer data
    if channel < 0 then return clientFree opened client
    else
      return opened.modifyClient client.id fun client =>
        { client with channel := channel }

/-- `client_fd_close`, called by `fdhandler_close`. -/
def clientFdClose (multiplexer : Multiplexer) (client : Client) :
    Multiplexer :=
  let told :=
    if client.channel > 0 then
      multiplexerCloseChannel multiplexer client.channel
    else multiplexer
  told.removeClient client.id

/-- `client_send`. -/
def clientSend (multiplexer : Multiplexer) (client : Client)
    (data : List UInt8) : Multiplexer :=
  multiplexer.modifyClient client.id fun client =>
    { client with handler := fdhandlerEnqueue client.handler data }

/-- `client_registration`. -/
def clientRegistration (multiplexer : Multiplexer) (client : Client)
    (registered : Bool) : Multiplexer :=
  multiplexer.modifyClient client.id fun client =>
    { client with
      handler :=
        fdhandlerEnqueue client.handler
          (ascii (if registered then "OK" else "KO"))
      registered := registered
      channel := if registered then client.channel else -1 }

/-! ## Messages from the emulator -/

/-- `multiplexer_find_client`. -/
def multiplexerFindClient (multiplexer : Multiplexer) (channel : Int) :
    Option Client :=
  multiplexer.clients.find? fun client => client.channel = channel

/-- What a control message asks for, and of which channel. -/
inductive Control where
  | connected (channel : Int)
  | refused (channel : Int)
  | disconnected (channel : Int)
  | unknown
deriving DecidableEq, Repr

/-- The channel that a control message is about. -/
def Control.channel? : Control → Option Int
  | .connected channel => some channel
  | .refused channel => some channel
  | .disconnected channel => some channel
  | .unknown => none

/-- The tests in `multiplexer_handle_control`. -/
def controlMessage (data : List UInt8) : Control :=
  let channel := hex2int ((data.drop 11).take 2)
  if data.length = 13 ∧ data.take 11 = ascii "ok:connect:" then
    .connected channel
  else if data.length = 13 ∧ data.take 11 = ascii "ko:connect:" then
    .refused channel
  else if data.length = 13 ∧ data.take 11 = ascii "disconnect:" then
    .disconnected channel
  else .unknown

/-- `multiplexer_handle_control`. -/
def multiplexerHandleControl (multiplexer : Multiplexer)
    (data : List UInt8) : Multiplexer :=
  match controlMessage data with
  | .connected channel =>
      match multiplexerFindClient multiplexer channel with
      | some client => clientRegistration multiplexer client true
      | none => multiplexer
  | .refused channel =>
      match multiplexerFindClient multiplexer channel with
      | some client => clientRegistration multiplexer client false
      | none => multiplexer
  | .disconnected channel =>
      match multiplexerFindClient multiplexer channel with
      | some client => clientFree multiplexer client
      | none => multiplexer
  | .unknown => multiplexer

/-- `multiplexer_serial_receive`. -/
def multiplexerSerialReceive (multiplexer : Multiplexer) (packet : Packet) :
    Multiplexer :=
  if packet.channel = channelControl then
    multiplexerHandleControl multiplexer packet.data
  else
    match multiplexerFindClient multiplexer packet.channel with
    | some client => clientSend multiplexer client packet.data
    | none => multiplexer

/-! ## Events -/

/-- What one read of a descriptor gives. -/
structure Chunk where
  bytes : List UInt8
  fits : bytes.length ≤ maxPayload

/--
The events of one descriptor in one round of the looper.  `input` and `output`
are there if `EPOLLIN` and `EPOLLOUT` are set, `hangUp` is `EPOLLHUP` or
`EPOLLERR`, and an output is what `fd_write` returns.
-/
inductive Event where
  | accepted
  | socket (id : Nat) (input : Option Chunk) (hangUp : Bool)
      (output : Option (Option Nat))
  | port (input : Option Chunk) (output : Option (Option Nat))

/-- `multiplexer_control_accept`. -/
def multiplexerControlAccept (multiplexer : Multiplexer) : Multiplexer :=
  { multiplexer with
    clients := Client.new multiplexer.connected :: multiplexer.clients
    connected := multiplexer.connected + 1 }

def Multiplexer.findId (multiplexer : Multiplexer) (id : Nat) :
    Option Client :=
  multiplexer.clients.find? fun client => client.id = id

def Multiplexer.findDraining (multiplexer : Multiplexer) (id : Nat) :
    Option Draining :=
  multiplexer.draining.find? fun draining => draining.id = id

/-- `fdhandler_close` for a handler that is closing already. -/
def Multiplexer.removeDraining (multiplexer : Multiplexer) (id : Nat) :
    Multiplexer :=
  { multiplexer with
    draining :=
      multiplexer.draining.filter fun draining => draining.id ≠ id }

def Multiplexer.writeDraining (multiplexer : Multiplexer) (id : Nat)
    (returned : Option Nat) : Multiplexer :=
  { multiplexer with
    draining :=
      multiplexer.draining.map fun draining =>
        if draining.id = id then
          { draining with
            handler := fdhandlerWrite draining.handler returned }
        else draining }

/--
The first part of `fdhandler_event` for a socket.  The receiver of a handler
that is closing still points to the client that was freed.
-/
def socketInput (multiplexer : Multiplexer) (id : Nat) (data : List UInt8) :
    Option Multiplexer :=
  if data = [] then some multiplexer
  else
    match multiplexer.findId id with
    | some client => clientFdReceive multiplexer client data
    | none =>
        match multiplexer.findDraining id with
        | some _ => none
        | none => some multiplexer

/--
The rest of `fdhandler_event` for a socket.  If the handler is closed by now,
its memory is free.
-/
def socketRest (multiplexer : Multiplexer) (id : Nat) (hangUp : Bool)
    (output : Option (Option Nat)) : Option Multiplexer :=
  match multiplexer.findId id with
  | some client =>
      if hangUp then some (clientFdClose multiplexer client)
      else
        match output with
        | none => some multiplexer
        | some returned =>
            some
              (multiplexer.modifyClient id fun client =>
                { client with
                  handler := fdhandlerWrite client.handler returned })
  | none =>
      match multiplexer.findDraining id with
      | some _ =>
          if hangUp then some (multiplexer.removeDraining id)
          else
            match output with
            | none => some multiplexer
            | some returned => some (multiplexer.writeDraining id returned)
      | none => if hangUp || output.isSome then none else some multiplexer

/--
`fdhandler_event` for a socket.  A looper that was told of several descriptors
also calls the handlers that have been closed in the meantime.
-/
def socketEvent (multiplexer : Multiplexer) (id : Nat)
    (input : Option Chunk) (hangUp : Bool) (output : Option (Option Nat)) :
    Option Multiplexer :=
  if (multiplexer.findId id).isNone ∧ (multiplexer.findDraining id).isNone then
    none
  else do
    let read ← socketInput multiplexer id ((input.map Chunk.bytes).getD [])
    socketRest read id hangUp output

/-- `fdhandler_event` for the serial port. -/
def portEvent (multiplexer : Multiplexer) (input : Option Chunk)
    (output : Option (Option Nat)) : Option Multiplexer := do
  let (serial, packets) ←
    serialFdReceive multiplexer.serial ((input.map Chunk.bytes).getD [])
  let received :=
    packets.foldl multiplexerSerialReceive
      { multiplexer with serial := serial }
  match output with
  | none => return received
  | some returned =>
      return { received with port := fdhandlerWrite received.port returned }

/-- One turn of `looper_loop` for one descriptor. -/
def step (multiplexer : Multiplexer) : Event → Option Multiplexer
  | .accepted => some (multiplexerControlAccept multiplexer)
  | .socket id input hangUp output =>
      socketEvent multiplexer id input hangUp output
  | .port input output => portEvent multiplexer input output

/-- A step from what the last one has left. -/
def stepAfter (current : Option Multiplexer) (event : Event) :
    Option Multiplexer :=
  current.bind fun multiplexer => step multiplexer event

/-- The daemon after some events, if all of them have a result. -/
def run (events : List Event) : Option Multiplexer :=
  runFrom stepAfter (some Multiplexer.initial) events

/-- What every step with a result keeps holds after every run with one. -/
theorem run_keeps {Invariant : Multiplexer → Prop}
    (initial : Invariant Multiplexer.initial)
    (kept :
      ∀ multiplexer event next, Invariant multiplexer →
        step multiplexer event = some next → Invariant next)
    {events : List Event} {multiplexer : Multiplexer}
    (reached : run events = some multiplexer) : Invariant multiplexer := by
  have always := @run_invariant _ _ stepAfter
    (fun current => ∀ multiplexer ∈ current, Invariant multiplexer)
    (by
      intro current event all next stepped
      rcases Option.bind_eq_some_iff.mp stepped with
        ⟨multiplexer, before, taken⟩
      exact kept multiplexer event next (all multiplexer before) taken)
    (some Multiplexer.initial)
    (by
      intro multiplexer same
      cases same
      exact initial)
    events
  exact always multiplexer reached

end Anbox.Qemud.Multiplexing
