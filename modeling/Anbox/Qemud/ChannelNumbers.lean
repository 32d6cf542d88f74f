import Mathlib.Data.List.Pairwise
import Anbox.Qemud.Multiplexing

/-!
# The numbers of the channels

Data that comes from the emulator is handed to the first client in the list
that has the number of the channel.  No two clients ever share a number, so
there is no other.

The numbers are taken from a counter with its lowest byte, from 1 up.  Nothing
leaves out the number 0 of the control channel when the counter wraps.
-/

namespace Anbox.Qemud.ChannelNumbers

open Anbox.Qemud.OutgoingPackets
open Anbox.Qemud.SerialPort
open Anbox.Qemud.Multiplexing

/-! ## The search for a number -/

theorem nextChannelFuel_spec {clients : List Client} {fuel start last : Nat}
    {channel : Int}
    (found : nextChannelFuel clients fuel start = some (last, channel)) :
    start < last ∧ last ≤ start + fuel ∧ channel = (last : Int) % 256 ∧
      ∀ client ∈ clients, client.channel ≠ channel := by
  induction fuel generalizing start with
  | zero => cases found
  | succ fuel inductionHypothesis =>
      simp only [nextChannelFuel] at found
      split at found
      · have later := inductionHypothesis found
        exact ⟨by omega, by omega, later.2.2⟩
      · next free =>
        cases found
        refine ⟨Nat.lt_succ_self start, by omega, by push_cast; rfl, ?_⟩
        intro client member same
        apply free
        rw [List.any_eq_true]
        exact ⟨client, member, by simp [same]⟩

/-- A number that is free is taken at once. -/
theorem nextChannel_of_free {clients : List Client} {start : Nat}
    (free :
      ∀ client ∈ clients, client.channel ≠ ((start : Int) + 1) % 256) :
    nextChannel clients start =
      some (start + 1, ((start : Int) + 1) % 256) := by
  have none :
      ¬(clients.any fun client =>
        client.channel = ((start : Int) + 1) % 256) = true := by
    rw [List.any_eq_true]
    rintro ⟨client, member, same⟩
    exact free client member (by simpa using same)
  rw [nextChannel, nextChannelFuel]
  exact if_neg none

/-! ## The table of clients -/

/-- Two clients differ, and share no number of a channel. -/
def Apart (first second : Client) : Prop :=
  first.id ≠ second.id ∧
    (first.channel = second.channel → first.channel = -1)

/--
What holds of the clients at all times.  As long as the counter has not
wrapped, the numbers in use are the ones it has gone through.
-/
structure Seated (multiplexer : Multiplexer) : Prop where
  apart : multiplexer.clients.Pairwise Apart
  below : ∀ client ∈ multiplexer.clients, client.id < multiplexer.connected
  range :
    ∀ client ∈ multiplexer.clients,
      -1 ≤ client.channel ∧ client.channel < 256
  counted :
    multiplexer.lastChannel ≤ 255 → ∀ client ∈ multiplexer.clients,
      client.channel ≠ 0 ∧ client.channel ≤ multiplexer.lastChannel

theorem seated_initial : Seated Multiplexer.initial where
  apart := List.Pairwise.nil
  below := nofun
  range := nofun
  counted := fun _ => nofun

variable {multiplexer : Multiplexer}

instance : Std.Symm Apart where
  symm := by
    rintro first second ⟨differ, different⟩
    exact ⟨differ.symm, fun same => same ▸ different same.symm⟩

theorem Seated.apart_of_ne (seated : Seated multiplexer)
    {first second : Client} (firstIn : first ∈ multiplexer.clients)
    (secondIn : second ∈ multiplexer.clients) (differ : first.id ≠ second.id)
    (same : first.channel = second.channel) : first.channel = -1 := by
  have different : first ≠ second := fun equal =>
    differ (congrArg Client.id equal)
  exact (seated.apart.forall firstIn secondIn different).2 same

/-- Only the clients and the two counters matter. -/
theorem Seated.congr (seated : Seated multiplexer) {other : Multiplexer}
    (clients : other.clients = multiplexer.clients)
    (connected : other.connected = multiplexer.connected)
    (lastChannel : other.lastChannel = multiplexer.lastChannel) :
    Seated other := by
  constructor
  · rw [clients]
    exact seated.apart
  · rw [clients, connected]
    exact seated.below
  · rw [clients]
    exact seated.range
  · rw [clients, lastChannel]
    exact seated.counted

theorem Seated.sendPacket (seated : Seated multiplexer) (packet : Packet) :
    Seated (sendPacket multiplexer packet) :=
  seated.congr rfl rfl rfl

/-- A client may get a number that nobody else has. -/
theorem Seated.modify (seated : Seated multiplexer) (id : Nat)
    {change : Client → Client}
    (sameId : ∀ client, (change client).id = client.id)
    (range :
      ∀ client ∈ multiplexer.clients, -1 ≤ (change client).channel ∧
        (change client).channel < 256)
    (counted :
      multiplexer.lastChannel ≤ 255 → ∀ client ∈ multiplexer.clients,
        (change client).channel ≠ 0 ∧
          (change client).channel ≤ multiplexer.lastChannel)
    (alone :
      ∀ client ∈ multiplexer.clients, ∀ other ∈ multiplexer.clients,
        client.id ≠ other.id →
          (change client).channel = other.channel → other.channel = -1) :
    Seated (multiplexer.modifyClient id change) := by
  have member : ∀ client' ∈ (multiplexer.modifyClient id change).clients,
      ∃ client ∈ multiplexer.clients,
        client' = client ∨ client' = change client := by
    intro client' member
    rcases List.mem_map.mp member with ⟨client, inside, rfl⟩
    refine ⟨client, inside, ?_⟩
    split
    · exact Or.inr rfl
    · exact Or.inl rfl
  constructor
  case apart =>
    rw [Multiplexer.modifyClient, List.pairwise_map]
    refine seated.apart.imp_of_mem ?_
    rintro first second firstIn secondIn ⟨differ, different⟩
    by_cases isFirst : first.id = id
    · have notSecond : second.id ≠ id := fun same =>
        differ (isFirst.trans same.symm)
      rw [if_pos isFirst, if_neg notSecond]
      refine ⟨by rwa [sameId], fun same => ?_⟩
      rw [same]
      exact alone first firstIn second secondIn differ same
    · rw [if_neg isFirst]
      by_cases isSecond : second.id = id
      · rw [if_pos isSecond]
        refine ⟨by rwa [sameId], fun same => ?_⟩
        exact alone second secondIn first firstIn (Ne.symm differ) same.symm
      · rw [if_neg isSecond]
        exact ⟨differ, different⟩
  case below =>
    intro client' inside
    rcases member client' inside with ⟨client, known, rfl | rfl⟩
    · exact seated.below client' known
    · rw [sameId]
      exact seated.below client known
  case range =>
    intro client' inside
    rcases member client' inside with ⟨client, known, rfl | rfl⟩
    · exact seated.range client' known
    · exact range client known
  case counted =>
    intro low client' inside
    rcases member client' inside with ⟨client, known, rfl | rfl⟩
    · exact seated.counted low client' known
    · exact counted low client known

/-- A client may lose its number. -/
theorem Seated.modify_channel (seated : Seated multiplexer) (id : Nat)
    {change : Client → Client}
    (sameId : ∀ client, (change client).id = client.id)
    (channel :
      ∀ client, (change client).channel = client.channel ∨
        (change client).channel = -1) :
    Seated (multiplexer.modifyClient id change) := by
  apply seated.modify id sameId
  · intro client member
    have range := seated.range client member
    rcases channel client with same | none <;> omega
  · intro low client member
    have counted := seated.counted low client member
    rcases channel client with same | none <;> omega
  · intro client inside other otherInside differ same
    rcases channel client with kept | none
    · rw [kept] at same
      exact same ▸ seated.apart_of_ne inside otherInside differ same
    · omega

/-- A client may get a number that was free. -/
theorem Seated.assign (seated : Seated multiplexer) {last : Nat}
    {channel : Int}
    (found :
      nextChannel multiplexer.clients multiplexer.lastChannel =
        some (last, channel)) :
    Seated { multiplexer with lastChannel := last } ∧
      ∀ id,
        Seated
          (({ multiplexer with lastChannel := last } :
              Multiplexer).modifyClient id fun client =>
            { client with channel := channel }) := by
  rcases nextChannelFuel_spec found with ⟨later, -, low, free⟩
  have counted : Seated { multiplexer with lastChannel := last } := by
    refine ⟨seated.apart, seated.below, seated.range, ?_⟩
    intro small client member
    dsimp only at small ⊢
    have before := seated.counted (by omega) client member
    omega
  refine ⟨counted, fun id => counted.modify id (fun _ => rfl) ?_ ?_ ?_⟩
  · intro client _
    dsimp only
    omega
  · intro small client _
    dsimp only at small ⊢
    omega
  · intro client _ other otherIn _ same
    exact absurd same.symm (free other otherIn)

theorem Seated.remove (seated : Seated multiplexer) (id : Nat) :
    Seated (multiplexer.removeClient id) := by
  have inside : ∀ client ∈ (multiplexer.removeClient id).clients,
      client ∈ multiplexer.clients := fun client member =>
    List.mem_of_mem_filter member
  constructor
  · exact seated.apart.filter _
  · exact fun client member => seated.below client (inside client member)
  · exact fun client member => seated.range client (inside client member)
  · exact fun low client member =>
      seated.counted low client (inside client member)

theorem Seated.accept (seated : Seated multiplexer) :
    Seated (multiplexerControlAccept multiplexer) := by
  constructor
  · refine List.Pairwise.cons ?_ seated.apart
    intro client member
    refine ⟨(seated.below client member).ne', fun _ => rfl⟩
  · intro client member
    rcases List.mem_cons.mp member with rfl | old
    · exact Nat.lt_succ_self _
    · exact Nat.lt_succ_of_lt (seated.below client old)
  · intro client member
    rcases List.mem_cons.mp member with rfl | old
    · show -1 ≤ (-1 : Int) ∧ (-1 : Int) < 256
      decide
    · exact seated.range client old
  · intro low client member
    rcases List.mem_cons.mp member with rfl | old
    · show (-1 : Int) ≠ 0 ∧ (-1 : Int) ≤ _
      omega
    · exact seated.counted low client old

/-! ## Every function of the daemon keeps the table -/

theorem Seated.free (seated : Seated multiplexer) (client : Client) :
    Seated (clientFree multiplexer client) := by
  rw [clientFree]
  split
  · exact (seated.remove client.id).congr rfl rfl rfl
  · exact seated.remove client.id

theorem Seated.receive (seated : Seated multiplexer) {client : Client}
    {data : List UInt8} {next : Multiplexer}
    (received : clientFdReceive multiplexer client data = some next) :
    Seated next := by
  rw [clientFdReceive] at received
  split at received
  · cases received
    exact seated.sendPacket _
  · split at received
    · cases received
      exact seated.free client
    · rcases Option.bind_eq_some_iff.mp received with
        ⟨⟨opened, channel⟩, asked, rest⟩
      rcases Option.bind_eq_some_iff.mp asked with
        ⟨⟨last, number⟩, found, sent⟩
      rcases seated.assign found with ⟨counted, assigned⟩
      dsimp only at sent rest
      split at sent
      · cases sent
        cases rest
        exact counted.free client
      · cases sent
        split at rest
        · cases rest
          exact (counted.sendPacket _).free client
        · cases rest
          exact (assigned client.id).congr rfl rfl rfl

theorem Seated.close (seated : Seated multiplexer) (client : Client) :
    Seated (clientFdClose multiplexer client) := by
  rw [clientFdClose]
  split
  · exact (seated.sendPacket _).remove client.id
  · exact seated.remove client.id

theorem Seated.registration (seated : Seated multiplexer) (client : Client)
    (registered : Bool) :
    Seated (clientRegistration multiplexer client registered) := by
  rw [clientRegistration]
  refine seated.modify_channel client.id (fun _ => rfl) ?_
  intro client
  cases registered with
  | false => exact Or.inr rfl
  | true => exact Or.inl rfl

theorem Seated.handleControl (seated : Seated multiplexer)
    (data : List UInt8) :
    Seated (multiplexerHandleControl multiplexer data) := by
  rw [multiplexerHandleControl]
  split
  · split
    · exact seated.registration _ true
    · exact seated
  · split
    · exact seated.registration _ false
    · exact seated
  · split
    · exact seated.free _
    · exact seated
  · exact seated

theorem Seated.serialReceive (seated : Seated multiplexer)
    (packet : Packet) :
    Seated (multiplexerSerialReceive multiplexer packet) := by
  rw [multiplexerSerialReceive]
  split
  · exact seated.handleControl packet.data
  · split
    · exact seated.modify_channel _ (fun _ => rfl) fun _ => Or.inl rfl
    · exact seated

theorem Seated.serialReceiveAll (seated : Seated multiplexer)
    (packets : List Packet) :
    Seated (packets.foldl multiplexerSerialReceive multiplexer) := by
  induction packets generalizing multiplexer with
  | nil => exact seated
  | cons packet packets inductionHypothesis =>
      exact inductionHypothesis (seated.serialReceive packet)

theorem Seated.input (seated : Seated multiplexer) {id : Nat}
    {data : List UInt8} {next : Multiplexer}
    (received : socketInput multiplexer id data = some next) :
    Seated next := by
  rw [socketInput] at received
  split at received
  · cases received
    exact seated
  · split at received
    · exact seated.receive received
    · split at received
      · cases received
      · cases received
        exact seated

theorem Seated.rest (seated : Seated multiplexer) {id : Nat} {hangUp : Bool}
    {output : Option (Option Nat)} {next : Multiplexer}
    (ended : socketRest multiplexer id hangUp output = some next) :
    Seated next := by
  unfold socketRest at ended
  split at ended
  · split at ended
    · cases ended
      exact seated.close _
    · split at ended
      · cases ended
        exact seated
      · cases ended
        exact seated.modify_channel id (fun _ => rfl) fun _ => Or.inl rfl
  · split at ended
    · split at ended
      · cases ended
        exact seated.congr rfl rfl rfl
      · split at ended
        · cases ended
          exact seated
        · cases ended
          exact seated.congr rfl rfl rfl
    · split at ended
      · cases ended
      · cases ended
        exact seated

theorem Seated.step (seated : Seated multiplexer) {event : Event}
    {next : Multiplexer} (stepped : step multiplexer event = some next) :
    Seated next := by
  cases event with
  | accepted =>
      cases stepped
      exact seated.accept
  | socket id input hangUp output =>
      rw [Multiplexing.step, socketEvent] at stepped
      split at stepped
      · cases stepped
      · rcases Option.bind_eq_some_iff.mp stepped with ⟨read, first, second⟩
        exact (seated.input first).rest second
  | port input output =>
      rcases Option.bind_eq_some_iff.mp stepped with
        ⟨⟨serial, packets⟩, received, written⟩
      have handled : Seated
          (packets.foldl multiplexerSerialReceive
            { multiplexer with serial := serial }) :=
        @Seated.serialReceiveAll { multiplexer with serial := serial }
          (seated.congr rfl rfl rfl) packets
      dsimp only at written
      split at written
      · cases written
        exact handled
      · cases written
        exact handled.congr rfl rfl rfl

theorem seated_of_run {events : List Event}
    (reached : run events = some multiplexer) : Seated multiplexer :=
  run_keeps seated_initial (fun _ _ _ seated => seated.step) reached

/-! ## Runs -/

/-- At no time do two clients have the number of one channel. -/
theorem client_of_channel_unique {events : List Event}
    (reached : run events = some multiplexer) {first second : Client}
    (firstIn : first ∈ multiplexer.clients)
    (secondIn : second ∈ multiplexer.clients)
    (same : first.channel = second.channel) (assigned : 0 ≤ first.channel) :
    first = second := by
  have seated := seated_of_run reached
  by_contra different
  have none := (seated.apart.forall firstIn secondIn different).2 same
  omega

/-- Two clients connect and ask for a service each. -/
def twoRequests : List Event :=
  [.accepted, .accepted,
    .socket 0 (some ⟨[0x61], by decide⟩) false none,
    .socket 1 (some ⟨[0x62], by decide⟩) false none]

/-- One of two clients that have asked has channel 1. -/
theorem client_of_channel_unique_two :
    ∃ multiplexer, run twoRequests = some multiplexer ∧
      multiplexer.clients.length = 2 ∧
      ∀ first ∈ multiplexer.clients, ∀ second ∈ multiplexer.clients,
        first.channel = 1 → second.channel = 1 → first = second := by
  have count :
      (run twoRequests).map (fun multiplexer => multiplexer.clients.length) =
        some 2 := by decide
  rcases Option.map_eq_some_iff.mp count with ⟨multiplexer, reached, two⟩
  refine ⟨multiplexer, reached, two, ?_⟩
  intro first firstIn second secondIn isFirst isSecond
  exact client_of_channel_unique reached firstIn secondIn
    (isFirst.trans isSecond.symm) (by omega)

/--
Until the counter has reached 255, requests get the numbers from 1 up and no
client has the control channel.  The request after that gets it.
-/
theorem nextChannel_of_run {events : List Event}
    (reached : run events = some multiplexer)
    (low : multiplexer.lastChannel ≤ 255) :
    (∀ client ∈ multiplexer.clients, client.channel ≠ channelControl) ∧
      nextChannel multiplexer.clients multiplexer.lastChannel =
        some (multiplexer.lastChannel + 1,
          if multiplexer.lastChannel = 255 then channelControl
          else multiplexer.lastChannel + 1) := by
  have counted := (seated_of_run reached).counted low
  refine ⟨fun client member => (counted client member).1, ?_⟩
  rw [nextChannel_of_free]
  · congr 2
    split
    · next wraps =>
      rw [wraps]
      rfl
    · omega
  · intro client member
    have before := counted client member
    omega

/-- After two requests the third one gets channel 3. -/
theorem nextChannel_of_run_two :
    ∃ multiplexer, run twoRequests = some multiplexer ∧
      nextChannel multiplexer.clients 2 = some (3, 3) := by
  have counter :
      (run twoRequests).map Multiplexer.lastChannel = some 2 := by decide
  rcases Option.map_eq_some_iff.mp counter with ⟨multiplexer, reached, two⟩
  have next := (nextChannel_of_run reached (by omega)).2
  rw [two] at next
  exact ⟨multiplexer, reached, next⟩

end Anbox.Qemud.ChannelNumbers
