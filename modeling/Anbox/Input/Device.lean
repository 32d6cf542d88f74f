import Anbox.Foundation.OrderedMap
import Anbox.Foundation.Runs
import Mathlib.Data.List.Basic

/-!
# Input devices

A `Device` publishes a socket.  Each client that connects gets a connection
with the next id, and `send_events` writes a batch of events to the connections
one after another, by their position.

Nothing is ever read from these connections, so that the end of one goes
unnoticed: it stays in `connections_`, and the next write to it throws.  What
follows in the loop gets nothing.

The sockets do not block.  A socket that is full ends a write with `try_again`,
perhaps in the middle of the batch, and `send` begins the whole batch again,
for as long as that takes.

As no connection is removed, each of them holds a descriptor for good; the ids
stay far below the end of `int` and are natural numbers here.
-/

namespace Anbox.Input.Device

open Std
open Anbox.Foundation.OrderedMap
open Anbox.Foundation.Runs

/-! ## Events -/

/-- `input::Event`. -/
structure Event where
  type : UInt16
  code : UInt16
  value : Int32
deriving DecidableEq, Repr

/-- `struct timespec` of the monotonic clock. -/
structure TimeSpec where
  sec : UInt64
  nsec : UInt64
deriving DecidableEq, Repr

/-- The layout of an event for the container. -/
structure CompatEvent where
  sec : UInt64
  usec : UInt64
  type : UInt16
  code : UInt16
  value : UInt32
deriving DecidableEq, Repr

def compatEvent (spec : TimeSpec) (event : Event) : CompatEvent :=
  { sec := spec.sec
    usec := spec.nsec / 1000
    type := event.type
    code := event.code
    value := event.value.toUInt32 }

/-- What the other side reads; there the value is signed. -/
def CompatEvent.event (event : CompatEvent) : Event :=
  ⟨event.type, event.code, event.value.toInt32⟩

theorem event_compatEvent (spec : TimeSpec) (event : Event) :
    (compatEvent spec event).event = event :=
  rfl

/-! ## Clients -/

/-- What is written at once: the struct that describes a device, or a batch. -/
inductive Packet where
  | info (bytes : List UInt8)
  | events (batch : List CompatEvent)
deriving DecidableEq, Repr

/-- `sizeof(struct CompatEvent)`. -/
def eventSize : Nat := 24

def Packet.size : Packet → Nat
  | .info bytes => bytes.length
  | .events batch => batch.length * eventSize

/-- The first bytes of a packet. -/
structure Piece where
  packet : Packet
  bytes : Nat
deriving DecidableEq, Repr

/-- The client at the other end, with what its socket has taken. -/
structure Client where
  isOpen : Bool
  received : List Piece
deriving DecidableEq, Repr

def Client.receive (client : Client) (piece : Piece) : Client :=
  if piece.bytes = 0 then client
  else { client with received := client.received ++ [piece] }

/-! ## Writing to a client -/

/-- How the attempts to write a packet end. -/
inductive Ending where
  | taken
  /-- The client goes in the meantime, or something else fails. -/
  | failed
  /-- The socket is full each time. -/
  | never
deriving DecidableEq, Repr

/--
What the socket of an open client does with a packet: the attempts that end
with `try_again`, by the bytes that it has taken of each, and the ending.
-/
structure Writing where
  refused : List Nat
  ending : Ending
deriving DecidableEq, Repr

/-- The socket has room for the packet. -/
def Writing.atOnce : Writing := ⟨[], .taken⟩

/-- A call that has returned or thrown, or that never does. -/
inductive Course (State : Type) where
  | returned (state : State)
  | thrown (state : State)
  | stuck (state : State)
deriving DecidableEq, Repr

def Course.state {State : Type} : Course State → State
  | .returned state => state
  | .thrown state => state
  | .stuck state => state

/-- The client after the attempts that end with `try_again`. -/
def Client.tried (client : Client) (packet : Packet) (refused : List Nat) :
    Client :=
  refused.foldl (fun client bytes => client.receive ⟨packet, bytes⟩) client

/--
`send` of a connection; it throws if the client has gone.  A packet without
bytes is not written.
-/
def send (clients : List Client) (socket : Nat) (packet : Packet)
    (writing : Writing) : Course (List Client) :=
  if packet.size = 0 then .returned clients
  else
    match clients[socket]? with
    | none => .thrown clients
    | some client =>
        if client.isOpen then
          let tried := client.tried packet writing.refused
          match writing.ending with
          | .taken =>
              .returned
                (clients.set socket (tried.receive ⟨packet, packet.size⟩))
          | .failed =>
              .thrown (clients.set socket { tried with isOpen := false })
          | .never => .stuck (clients.set socket tried)
        else .thrown clients

/-- `connections_`: the socket of each connection under its id. -/
abbrev Connections := TreeMap Nat Nat

/-- The loop of `send_events`; `at` throws if there is no such id. -/
def sendEach (connections : Connections) (packet : Packet)
    (writing : Nat → Writing) (clients : List Client) :
    List Nat → Course (List Client)
  | [] => .returned clients
  | n :: positions =>
      match connections[n]? with
      | none => .thrown clients
      | some socket =>
          match send clients socket packet (writing n) with
          | .returned clients =>
              sendEach connections packet writing clients positions
          | .thrown clients => .thrown clients
          | .stuck clients => .stuck clients

/-! ## The device -/

structure System where
  /-- The bytes of `info_`, which is set up before a client connects. -/
  info : List UInt8
  nextConnectionId : Nat
  connections : Connections
  /-- Everybody who has connected, in order. -/
  clients : List Client

def System.initial (info : List UInt8) : System := ⟨info, 0, ∅, []⟩

/-- `new_client`; the client may be gone when its connection is accepted. -/
def System.newClient (system : System) (present : Bool) (writing : Writing) :
    System :=
  let socket := system.clients.length
  let clients := system.clients ++ [⟨present, []⟩]
  { system with
    nextConnectionId := system.nextConnectionId + 1
    connections :=
      system.connections.insertIfNew system.nextConnectionId socket
    clients :=
      (send clients socket (.info system.info) writing).state }

/-- The writing to each client; those that are not named take all at once. -/
def writingTo (writings : List Writing) (n : Nat) : Writing :=
  writings.getD n .atOnce

def System.sendEvents (system : System) (spec : TimeSpec)
    (events : List Event) (writings : List Writing) : Course (List Client) :=
  sendEach system.connections (.events (events.map (compatEvent spec)))
    (writingTo writings) system.clients
    (List.range system.connections.size)

/-- What happens, with what the sockets do with each packet. -/
inductive Label where
  | connect (present : Bool) (writing : Writing)
  | disconnect (client : Nat)
  | sendEvents (spec : TimeSpec) (events : List Event)
      (writings : List Writing)
deriving DecidableEq, Repr

def step (system : System) : Label → System
  | .connect present writing => system.newClient present writing
  | .disconnect client =>
      { system with
        clients :=
          system.clients.modify client fun client =>
            { client with isOpen := false } }
  | .sendEvents spec events writings =>
      { system with
        clients := (system.sendEvents spec events writings).state }

def after (info : List UInt8) (labels : List Label) : System :=
  runFrom step (System.initial info) labels

/-! ## What is meant -/

/-- What an open client has when a batch has been sent. -/
def Client.delivered (batch : List CompatEvent) (client : Client) : Client :=
  if client.isOpen then
    client.receive ⟨.events batch, (Packet.events batch).size⟩
  else client

/-- The call returns, and all open clients have got just the events. -/
def Delivers (system : System) (spec : TimeSpec) (events : List Event)
    (writings : List Writing) : Prop :=
  ∃ batch : List CompatEvent,
    batch.map CompatEvent.event = events ∧
      system.sendEvents spec events writings =
        .returned (system.clients.map (Client.delivered batch))

/-- Some attempt takes all, and those before it took nothing. -/
def Writing.Whole (writing : Writing) : Prop :=
  writing.ending = .taken ∧ ∀ bytes ∈ writing.refused, bytes = 0

/--
There is nothing to send, or nobody who has connected has gone and every socket
takes the batch as a whole.
-/
def AllTake (system : System) (events : List Event)
    (writings : List Writing) : Prop :=
  events = [] ∨
    ∀ n client, system.clients[n]? = some client →
      client.isOpen = true ∧ (writingTo writings n).Whole

/-! ## One call -/

/-- The connection of each client has its number as the id. -/
structure Numbered (system : System) : Prop where
  next : system.nextConnectionId = system.clients.length
  size : system.connections.size = system.clients.length
  sockets :
    ∀ n, system.connections[n]? =
      if n < system.clients.length then some n else none

/-- An open client after all attempts, the last of which takes the packet. -/
def Client.written (client : Client) (packet : Packet) (writing : Writing) :
    Client :=
  (client.tried packet writing.refused).receive ⟨packet, packet.size⟩

section Calls

variable {connections : Connections} {packet : Packet}
  {writing : Nat → Writing}

/-- Attempts that take nothing leave nothing behind. -/
theorem tried_of_nothing {refused : List Nat}
    (nothing : ∀ bytes ∈ refused, bytes = 0) (client : Client) :
    client.tried packet refused = client := by
  induction refused with
  | nil => rfl
  | cons bytes refused inductionHypothesis =>
      rw [List.forall_mem_cons] at nothing
      rw [Client.tried, List.foldl_cons, Client.receive, if_pos nothing.1]
      exact inductionHypothesis nothing.2

/-- What the attempts have left with a client is there for good. -/
theorem received_tried (client : Client) (refused : List Nat) :
    (client.tried packet refused).received =
      client.received ++
        (refused.filter (· ≠ 0)).map fun bytes => ⟨packet, bytes⟩ := by
  induction refused generalizing client with
  | nil => exact (List.append_nil _).symm
  | cons bytes refused inductionHypothesis =>
      rw [Client.tried, List.foldl_cons, ← Client.tried, inductionHypothesis,
        Client.receive, List.filter_cons]
      by_cases isNothing : bytes = 0
      · simp [isNothing]
      · simp [isNothing]

theorem received_written (nonempty : packet.size ≠ 0) (client : Client)
    (writing : Writing) :
    (client.written packet writing).received =
      client.received ++
        (writing.refused.filter (· ≠ 0)).map (fun bytes => ⟨packet, bytes⟩) ++
          [⟨packet, packet.size⟩] := by
  rw [Client.written, Client.receive, if_neg nonempty]
  dsimp only
  rw [received_tried]

theorem send_eq_returned_iff (nonempty : packet.size ≠ 0)
    {clients next : List Client} {socket : Nat} {writing : Writing} :
    send clients socket packet writing = .returned next ↔
      ∃ client, clients[socket]? = some client ∧ client.isOpen = true ∧
        writing.ending = .taken ∧
          clients.set socket (client.written packet writing) = next := by
  rw [send, if_neg nonempty]
  cases found : clients[socket]? with
  | none => simp
  | some client =>
      cases isOpen : client.isOpen with
      | false => simp [isOpen]
      | true =>
          cases ending : writing.ending with
          | taken => simp [isOpen, Client.written]
          | failed => simp [isOpen]
          | never => simp [isOpen]

theorem length_send (clients : List Client) (socket : Nat)
    (packet : Packet) (writing : Writing) :
    (send clients socket packet writing).state.length = clients.length := by
  rw [send]
  split
  · rfl
  · split
    · rfl
    · split
      · dsimp only
        split <;> exact List.length_set
      · rfl

theorem length_sendEach (clients : List Client) (positions : List Nat) :
    (sendEach connections packet writing clients positions).state.length =
      clients.length := by
  induction positions generalizing clients with
  | nil => rfl
  | cons n positions inductionHypothesis =>
      rw [sendEach]
      split
      · rfl
      · next socket located =>
        have kept := length_send clients socket packet (writing n)
        split
        · next between sent =>
          rw [sent] at kept
          exact (inductionHypothesis between).trans kept
        · next between sent =>
          rw [sent] at kept
          exact kept
        · next between sent =>
          rw [sent] at kept
          exact kept

/-- Nothing is written if there is nothing to write. -/
theorem sendEach_of_empty (empty : packet.size = 0) (clients : List Client)
    {positions : List Nat}
    (located : ∀ n ∈ positions, connections[n]? = some n) :
    sendEach connections packet writing clients positions =
      .returned clients := by
  induction positions with
  | nil => rfl
  | cons n positions inductionHypothesis =>
      rw [List.forall_mem_cons] at located
      rw [sendEach, located.1]
      dsimp only
      rw [send, if_pos empty]
      exact inductionHypothesis located.2

theorem forall_getElem?_cons {Item : Type} {head : Item}
    {tail : List Item} {Property : Nat → Item → Prop} :
    (∀ n item, (head :: tail)[n]? = some item → Property n item) ↔
      Property 0 head ∧
        ∀ n item, tail[n]? = some item → Property (n + 1) item := by
  constructor
  · intro all
    exact ⟨all 0 head rfl, fun n item found => all (n + 1) item found⟩
  · rintro ⟨first, later⟩ n item found
    cases n with
    | zero =>
        cases found
        exact first
    | succ n => exact later n item found

/--
The loop returns exactly if each client is open and takes the packet in the
end; it leaves all attempts with them.
-/
theorem sendEach_eq_returned_iff (nonempty : packet.size ≠ 0)
    (done rest : List Client)
    (sockets :
      ∀ n, n < done.length + rest.length → connections[n]? = some n)
    {next : List Client} :
    sendEach connections packet writing (done ++ rest)
        (List.range' done.length rest.length) = .returned next ↔
      (∀ n client, rest[n]? = some client →
        client.isOpen = true ∧
          (writing (done.length + n)).ending = .taken) ∧
        done ++ rest.mapIdx (fun n client =>
          client.written packet (writing (done.length + n))) = next := by
  induction rest generalizing done with
  | nil => simp [sendEach]
  | cons client rest inductionHypothesis =>
      have found : (done ++ client :: rest)[done.length]? = some client := by
        simp
      have moved (other : Client) :
          (done ++ client :: rest).set done.length other =
            (done ++ [other]) ++ rest := by
        simp
      have head {between : List Client} :=
        @send_eq_returned_iff _ nonempty (done ++ client :: rest) between
          done.length (writing done.length)
      have notTaken
          (ends : ∀ between,
            send (done ++ client :: rest) done.length packet
              (writing done.length) ≠ .returned between) :
          ¬(client.isOpen = true ∧ (writing done.length).ending = .taken) := by
        rintro ⟨isOpen, ending⟩
        exact ends _ (head.mpr ⟨client, found, isOpen, ending, rfl⟩)
      rw [List.length_cons, List.range'_succ, sendEach,
        sockets done.length (by rw [List.length_cons]; omega),
        forall_getElem?_cons, Nat.add_zero]
      dsimp only
      cases sent : send (done ++ client :: rest) done.length packet
          (writing done.length) with
      | returned between =>
          rcases head.mp sent with ⟨same, isFound, isOpen, ending, rfl⟩
          cases found.symm.trans isFound
          have later := inductionHypothesis
            (done ++ [client.written packet (writing done.length)])
            (fun n small => sockets n (by
              rw [List.length_append, List.length_singleton] at small
              rw [List.length_cons]
              omega))
          have shift (n : Nat) :
              done.length + 1 + n = done.length + (n + 1) := by
            omega
          rw [List.length_append, List.length_singleton] at later
          simp only [shift] at later
          dsimp only
          rw [moved, later, List.mapIdx_cons, List.append_assoc]
          exact and_congr_left fun _ => (and_iff_right ⟨isOpen, ending⟩).symm
      | thrown between =>
          have apart := notTaken (by simp [sent])
          exact iff_of_false (fun returned => by cases returned)
            fun taken => apart taken.1.1
      | stuck between =>
          have apart := notTaken (by simp [sent])
          exact iff_of_false (fun returned => by cases returned)
            fun taken => apart taken.1.1

end Calls

/-- What an open client has got is a batch of this size and no part of it. -/
theorem delivered_eq_written_iff {packet : Packet} {batch : List CompatEvent}
    {client : Client} {writing : Writing} (nonempty : packet.size ≠ 0)
    (sameSize : (Packet.events batch).size = packet.size)
    (isOpen : client.isOpen = true) :
    client.delivered batch = client.written packet writing ↔
      packet = .events batch ∧ ∀ bytes ∈ writing.refused, bytes = 0 := by
  have delivered : client.delivered batch =
      { client with
        received := client.received ++ [⟨.events batch, packet.size⟩] } := by
    rw [Client.delivered, if_pos isOpen, Client.receive, sameSize,
      if_neg nonempty]
  constructor
  · intro same
    have lists := congrArg Client.received same
    rw [delivered, received_written nonempty, List.append_assoc] at lists
    have rest :
        [] ++ [(⟨.events batch, packet.size⟩ : Piece)] =
          (writing.refused.filter (· ≠ 0)).map (fun bytes => ⟨packet, bytes⟩)
            ++ [⟨packet, packet.size⟩] :=
      List.append_cancel_left lists
    rcases List.append_inj' rest rfl with ⟨noPart, whole⟩
    cases whole
    refine ⟨rfl, ?_⟩
    have nothing := List.filter_eq_nil_iff.mp
      (List.map_eq_nil_iff.mp noPart.symm)
    intro bytes member
    simpa using nothing bytes member
  · rintro ⟨rfl, nothing⟩
    rw [delivered, Client.written, tried_of_nothing nothing, Client.receive,
      if_neg nonempty]

theorem compatEvents_event (spec : TimeSpec) (events : List Event) :
    (events.map (compatEvent spec)).map CompatEvent.event = events := by
  have same : CompatEvent.event ∘ compatEvent spec = id :=
    funext (event_compatEvent spec)
  rw [List.map_map, same, List.map_id]

/-- An empty batch leaves the clients as they are. -/
theorem delivered_nil (client : Client) : client.delivered [] = client := by
  rw [Client.delivered]
  split
  · exact if_pos rfl
  · rfl

theorem size_events_ne_zero {batch : List CompatEvent} {events : List Event}
    (same : batch.map CompatEvent.event = events) (nonempty : events ≠ []) :
    (Packet.events batch).size ≠ 0 := by
  intro empty
  have none := (Nat.mul_eq_zero.mp empty).resolve_right (by decide)
  rw [List.length_eq_zero_iff.mp none] at same
  exact nonempty same.symm

/--
A call delivers its events exactly if it has none, or nobody has gone and every
socket takes them as a whole.
-/
theorem delivers_iff {system : System} (numbered : Numbered system)
    (spec : TimeSpec) (events : List Event) (writings : List Writing) :
    Delivers system spec events writings ↔
      AllTake system events writings := by
  have positions : List.range system.connections.size =
      List.range' ([] : List Client).length system.clients.length := by
    rw [numbered.size, List.range_eq_range', List.length_nil]
  have sockets (n : Nat) (small : n < system.clients.length) :
      system.connections[n]? = some n :=
    (numbered.sockets n).trans (if_pos small)
  have sent := compatEvents_event spec events
  by_cases empty : events = []
  · subst empty
    refine iff_of_true ⟨[], rfl, ?_⟩ (Or.inl rfl)
    rw [System.sendEvents, sendEach_of_empty (Nat.zero_mul _),
      List.map_congr_left fun client _ => delivered_nil client, List.map_id']
    intro n member
    rw [List.mem_range, numbered.size] at member
    exact sockets n member
  · have nonempty := size_events_ne_zero sent empty
    have loop {next : List Client} :=
      @sendEach_eq_returned_iff system.connections _ (writingTo writings)
        nonempty [] system.clients
        (fun n small => sockets n (by
          rwa [List.length_nil, Nat.zero_add] at small)) next
    simp only [List.length_nil, Nat.zero_add, List.nil_append] at loop
    rw [AllTake, or_iff_right empty]
    constructor
    · rintro ⟨batch, same, returned⟩ n client found
      rw [System.sendEvents, positions] at returned
      rcases loop.mp returned with ⟨reached, left⟩
      rcases reached n client found with ⟨isOpen, ending⟩
      have atClient := congrArg (fun clients => clients[n]?) left
      simp only [List.getElem?_mapIdx, List.getElem?_map, found,
        Option.map_some, Option.some.injEq] at atClient
      have sameSize : (Packet.events batch).size =
          (Packet.events (events.map (compatEvent spec))).size := by
        have counts := congrArg List.length (same.trans sent.symm)
        rw [List.length_map, List.length_map] at counts
        rw [Packet.size, Packet.size, counts]
      exact ⟨isOpen, ending,
        ((delivered_eq_written_iff nonempty sameSize isOpen).mp
          atClient.symm).2⟩
    · intro take
      refine ⟨_, sent, ?_⟩
      rw [System.sendEvents, positions]
      refine loop.mpr ⟨fun n client found =>
        ⟨(take n client found).1, (take n client found).2.1⟩, ?_⟩
      apply List.ext_getElem?
      intro n
      rw [List.getElem?_mapIdx, List.getElem?_map]
      cases found : system.clients[n]? with
      | none => rfl
      | some client =>
          rcases take n client found with ⟨isOpen, -, nothing⟩
          rw [Option.map_some, Option.map_some,
            (delivered_eq_written_iff nonempty rfl isOpen).mpr
              ⟨rfl, nothing⟩]

/-! ## Every run -/

theorem numbered_initial (info : List UInt8) :
    Numbered (System.initial info) where
  next := rfl
  size := TreeMap.size_emptyc
  sockets := fun _ => TreeMap.getElem?_emptyc

/-- Nothing but their number matters about the clients. -/
theorem Numbered.clients {system : System} (numbered : Numbered system)
    {clients : List Client}
    (same : clients.length = system.clients.length) :
    Numbered { system with clients := clients } where
  next := numbered.next.trans same.symm
  size := numbered.size.trans same.symm
  sockets := fun n => same ▸ numbered.sockets n

theorem Numbered.newClient {system : System} (numbered : Numbered system)
    (present : Bool) (writing : Writing) :
    Numbered (system.newClient present writing) := by
  have one : (system.newClient present writing).clients.length =
      system.clients.length + 1 := by
    rw [System.newClient, length_send, List.length_append,
      List.length_singleton]
  have fresh : system.nextConnectionId ∉ system.connections := by
    simp [TreeMap.mem_iff_isSome_getElem?, numbered.next, numbered.sockets]
  constructor
  case next =>
    rw [one, ← numbered.next]
    rfl
  case size =>
    rw [one, ← numbered.size]
    exact TreeMap.size_insertIfNew.trans (if_neg fresh)
  case sockets =>
    intro n
    rw [one]
    refine (getElem?_insertIfNew_of_fresh fresh _ n).trans ?_
    rw [numbered.next, numbered.sockets]
    grind

theorem Numbered.step {system : System} (numbered : Numbered system)
    (label : Label) : Numbered (step system label) := by
  cases label with
  | connect present writing => exact numbered.newClient present writing
  | disconnect client => exact numbered.clients (List.length_modify ..)
  | sendEvents spec events writings =>
      exact numbered.clients (length_sendEach _ _)

theorem numbered_after (info : List UInt8) (labels : List Label) :
    Numbered (after info labels) :=
  run_invariant (fun _ label numbered => numbered.step label)
    (numbered_initial info) labels

/--
All calls of `send_events` in a run deliver their events exactly if at each of
them that has events nobody who has connected has gone, and every socket takes
the batch as a whole.
-/
theorem delivers_always_iff (info : List UInt8) (labels : List Label) :
    (∀ earlier spec events writings,
        earlier ++ [.sendEvents spec events writings] <+: labels →
          Delivers (after info earlier) spec events writings) ↔
      ∀ earlier spec events writings,
        earlier ++ [.sendEvents spec events writings] <+: labels →
          AllTake (after info earlier) events writings :=
  forall₄_congr fun earlier spec events writings =>
    imp_congr_right fun _ =>
      delivers_iff (numbered_after info earlier) spec events writings

/-- The first of two clients goes before a key is pressed. -/
def firstGone : List Label :=
  [.connect true .atOnce, .connect true .atOnce, .disconnect 0]

/-- The first of two clients does not read what it gets. -/
def firstBusy : List Label :=
  [.connect true .atOnce, .connect true .atOnce]

/--
The second client is there and gets nothing, whether the first has gone or does
not read.
-/
theorem second_client_gets_nothing :
    (¬ Delivers (after [1] firstGone) ⟨1, 0⟩ [⟨1, 30, 1⟩] [] ∧
      (after [1] firstGone).sendEvents ⟨1, 0⟩ [⟨1, 30, 1⟩] [] =
        .thrown
          [⟨false, [⟨.info [1], 1⟩]⟩, ⟨true, [⟨.info [1], 1⟩]⟩]) ∧
      (after [1] firstBusy).sendEvents ⟨1, 0⟩ [⟨1, 30, 1⟩] [⟨[0], .never⟩] =
        .stuck
          [⟨true, [⟨.info [1], 1⟩]⟩, ⟨true, [⟨.info [1], 1⟩]⟩] := by
  refine ⟨⟨?_, by decide⟩, by decide⟩
  rw [delivers_iff (numbered_after [1] firstGone)]
  rintro (empty | take)
  · cases empty
  · exact absurd (take 0 ⟨false, [⟨.info [1], 1⟩]⟩ (by decide)).1 (by decide)

end Anbox.Input.Device
