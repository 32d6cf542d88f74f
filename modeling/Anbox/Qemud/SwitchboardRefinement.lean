import Anbox.Qemud.ChannelNumbers
import Anbox.Qemud.SerialReception
import Anbox.Qemud.Switchboard

/-!
# The daemon is a switchboard

`Shows` relates the daemon with its queues and frames to the board of a
switchboard.  Every event of the daemon is some moves of the switchboard, as
long as the counter has not wrapped and the emulator writes its channels with
digits.
-/

namespace Anbox.Qemud.SwitchboardRefinement

open Anbox.Foundation.Framing
open Anbox.Foundation.Runs
open Anbox.Qemud.ChannelNumbers
open Anbox.Qemud.Multiplexing
open Anbox.Qemud.OutgoingPackets
open Anbox.Qemud.SerialPort
open Anbox.Qemud.SerialReception
open Anbox.Qemud.Switchboard

/-! ## The relation -/

/-- The line of a client. -/
def lineOf (client : Client) : Line :=
  if client.registered then .connected client.channel
  else if 0 < client.channel then .waiting client.channel
  else .fresh

/-- Exactly these bytes were queued at a handler. -/
def Carries (handler : FdHandler) (bytes : List UInt8) : Prop :=
  Coherent handler ∧ handler.queued = bytes

/-- The bytes of packets on the serial port. -/
def portBytes (packets : List Packet) : List UInt8 :=
  packets.flatMap fun packet => (serialSend packet).flatten

/-- The board says what the daemon has done. -/
structure Shows (multiplexer : Multiplexer) (board : Board) : Prop where
  lines :
    ∀ client ∈ multiplexer.clients, board.lines client.id = lineOf client
  absent :
    ∀ id, (∀ client ∈ multiplexer.clients, client.id ≠ id) →
      board.lines id = .absent
  clients :
    ∀ client ∈ multiplexer.clients,
      Carries client.handler (board.heard client.id)
  draining :
    ∀ draining ∈ multiplexer.draining,
      Carries draining.handler (board.heard draining.id)
  silent : ∀ id, multiplexer.connected ≤ id → board.heard id = []
  gone :
    ∀ draining ∈ multiplexer.draining,
      draining.id < multiplexer.connected ∧
        ∀ client ∈ multiplexer.clients, client.id ≠ draining.id
  port : Carries multiplexer.port (portBytes board.told)
  sendable :
    ∀ packet ∈ board.told,
      Sendable packet ∧ 0 ≤ packet.channel ∧ packet.channel < 256
  registered :
    ∀ client ∈ multiplexer.clients,
      client.registered = true → 0 < client.channel

theorem shows_initial : Shows Multiplexer.initial Board.initial where
  lines := nofun
  absent := fun _ _ => rfl
  clients := nofun
  draining := nofun
  silent := fun _ _ => rfl
  gone := nofun
  port := ⟨coherent_new, rfl⟩
  sendable := nofun
  registered := nofun

theorem Carries.enqueue {handler : FdHandler} {bytes : List UInt8}
    (carries : Carries handler bytes) (data : List UInt8) :
    Carries (fdhandlerEnqueue handler data) (bytes ++ data) := by
  refine ⟨carries.1.enqueue data, ?_⟩
  rw [carries.1.queued_enqueue, carries.2]

theorem Carries.write {handler : FdHandler} {bytes : List UInt8}
    (carries : Carries handler bytes) (returned : Option Nat) :
    Carries (fdhandlerWrite handler returned) bytes := by
  refine ⟨carries.1.write returned, ?_⟩
  rw [carries.1.queued_write, carries.2]

variable {multiplexer : Multiplexer} {board : Board}

/-! ## Changes of one part -/

/-- Clients with the same number are the same. -/
theorem eq_of_id (seated : Seated multiplexer) {first second : Client}
    (firstIn : first ∈ multiplexer.clients)
    (secondIn : second ∈ multiplexer.clients)
    (same : first.id = second.id) : first = second := by
  by_contra different
  exact (seated.apart.forall firstIn secondIn different).1 same

/-- A client and what is queued for it change. -/
theorem Shows.modify (shown : Shows multiplexer board)
    (seated : Seated multiplexer) {client : Client}
    (member : client ∈ multiplexer.clients) {change : Client → Client}
    (sameId : ∀ client, (change client).id = client.id)
    {bytes : List UInt8} (carries : Carries (change client).handler bytes)
    (registered :
      (change client).registered = true → 0 < (change client).channel) :
    Shows (multiplexer.modifyClient client.id change)
      { board with
        lines :=
          Function.update board.lines client.id (lineOf (change client))
        heard := Function.update board.heard client.id bytes } := by
  have known :
      ∀ client' ∈ (multiplexer.modifyClient client.id change).clients,
        client' = change client ∨
          client' ∈ multiplexer.clients ∧ client'.id ≠ client.id := by
    intro client' inside
    rcases List.mem_map.mp inside with ⟨old, oldIn, rfl⟩
    split
    · next same => exact Or.inl (by rw [eq_of_id seated oldIn member same])
    · next differ => exact Or.inr ⟨oldIn, differ⟩
  have ids : ∀ id,
      (∀ client' ∈ (multiplexer.modifyClient client.id change).clients,
        client'.id ≠ id) →
        ∀ client' ∈ multiplexer.clients, client'.id ≠ id := by
    intro id none old oldIn
    have image := none _ (List.mem_map_of_mem oldIn)
    split at image
    · rwa [sameId] at image
    · exact image
  constructor
  case lines =>
    intro client' inside
    dsimp only
    rcases known client' inside with rfl | ⟨old, differ⟩
    · rw [sameId, Function.update_self]
    · rw [Function.update_of_ne differ]
      exact shown.lines client' old
  case absent =>
    intro id none
    dsimp only
    have others := ids id none
    rw [Function.update_of_ne (others client member).symm]
    exact shown.absent id others
  case clients =>
    intro client' inside
    dsimp only
    rcases known client' inside with rfl | ⟨old, differ⟩
    · rwa [sameId, Function.update_self]
    · rw [Function.update_of_ne differ]
      exact shown.clients client' old
  case draining =>
    intro draining inside
    dsimp only
    have differ := (shown.gone draining inside).2 client member
    rw [Function.update_of_ne differ.symm]
    exact shown.draining draining inside
  case silent =>
    intro id new
    dsimp only
    have below := seated.below client member
    have differ : id ≠ client.id := by
      have unchanged : multiplexer.connected ≤ id := new
      omega
    rw [Function.update_of_ne differ]
    exact shown.silent id new
  case gone =>
    intro draining inside
    have gone := shown.gone draining inside
    refine ⟨gone.1, ?_⟩
    intro client' inside'
    rcases known client' inside' with rfl | ⟨old, -⟩
    · rw [sameId]
      exact gone.2 client member
    · exact gone.2 client' old
  case port => exact shown.port
  case sendable => exact shown.sendable
  case registered =>
    intro client' inside
    rcases known client' inside with rfl | ⟨old, -⟩
    · exact registered
    · exact shown.registered client' old

/-- Only the queue of a client changes. -/
theorem Shows.modify_handler (shown : Shows multiplexer board)
    (seated : Seated multiplexer) {client : Client}
    (member : client ∈ multiplexer.clients)
    (change : FdHandler → FdHandler) {bytes : List UInt8}
    (carries : Carries (change client.handler) bytes) :
    Shows
      (multiplexer.modifyClient client.id fun client =>
        { client with handler := change client.handler })
      { board with heard := Function.update board.heard client.id bytes } := by
  have changed := @Shows.modify _ _ shown seated client member
    (fun client => { client with handler := change client.handler })
    (fun _ => rfl) bytes carries (shown.registered client member)
  have line : lineOf { client with handler := change client.handler } =
      board.lines client.id := by
    rw [shown.lines client member]
    rfl
  rwa [line, Function.update_eq_self] at changed

/-- A client leaves the list. -/
theorem Shows.remove (shown : Shows multiplexer board) (id : Nat) :
    Shows (multiplexer.removeClient id) (board.setLine id .absent) := by
  have known : ∀ client ∈ (multiplexer.removeClient id).clients,
      client ∈ multiplexer.clients ∧ client.id ≠ id := by
    intro client inside
    rcases List.mem_filter.mp inside with ⟨old, differ⟩
    exact ⟨old, by simpa using differ⟩
  constructor
  case lines =>
    intro client inside
    rcases known client inside with ⟨old, differ⟩
    simp only [Board.setLine]
    rw [Function.update_of_ne differ]
    exact shown.lines client old
  case absent =>
    intro other none
    simp only [Board.setLine]
    by_cases same : other = id
    · rw [same, Function.update_self]
    · rw [Function.update_of_ne same]
      apply shown.absent
      intro client old isOther
      refine none client (List.mem_filter.mpr ⟨old, ?_⟩) isOther
      rw [isOther]
      exact decide_eq_true same
  case clients =>
    exact fun client inside =>
      shown.clients client (known client inside).1
  case draining => exact shown.draining
  case silent => exact shown.silent
  case gone =>
    intro draining inside
    have gone := shown.gone draining inside
    exact ⟨gone.1, fun client member =>
      gone.2 client (known client member).1⟩
  case port => exact shown.port
  case sendable => exact shown.sendable
  case registered =>
    exact fun client inside =>
      shown.registered client (known client inside).1

/-- The emulator is told something. -/
theorem Shows.send (shown : Shows multiplexer board) {packet : Packet}
    (sendable : Sendable packet) (low : 0 ≤ packet.channel)
    (high : packet.channel < 256) :
    Shows (sendPacket multiplexer packet) (board.tell packet) where
  lines := shown.lines
  absent := shown.absent
  clients := shown.clients
  draining := shown.draining
  silent := shown.silent
  gone := shown.gone
  port := by
    have both := (shown.port.enqueue
      (int2hex packet.channel channelSize ++
        int2hex packet.data.length lengthSize)).enqueue packet.data
    rw [List.append_assoc] at both
    have bytes : portBytes (board.tell packet).told =
        portBytes board.told ++
          (int2hex packet.channel channelSize ++
              int2hex packet.data.length lengthSize ++ packet.data) := by
      simp [Board.tell, portBytes, serialSend]
    rw [bytes]
    exact both
  sendable := by
    intro sent member
    rcases List.mem_append.mp member with old | new
    · exact shown.sendable sent old
    · rw [List.mem_singleton.mp new]
      exact ⟨sendable, low, high⟩
  registered := shown.registered

theorem Shows.setLast (shown : Shows multiplexer board) (last : Nat) :
    Shows { multiplexer with lastChannel := last } board :=
  ⟨shown.lines, shown.absent, shown.clients, shown.draining,
    shown.silent, shown.gone, shown.port, shown.sendable,
    shown.registered⟩

theorem Shows.setSerial (shown : Shows multiplexer board)
    (serial : Serial) :
    Shows { multiplexer with serial := serial } board :=
  ⟨shown.lines, shown.absent, shown.clients, shown.draining,
    shown.silent, shown.gone, shown.port, shown.sendable,
    shown.registered⟩

/-- A client is freed, and its handler may have to write on. -/
theorem Shows.free (shown : Shows multiplexer board)
    (seated : Seated multiplexer) {client : Client}
    (member : client ∈ multiplexer.clients) :
    Shows (clientFree multiplexer client)
      (board.setLine client.id .absent) := by
  have removed := shown.remove client.id
  have carries := shown.clients client member
  rw [clientFree]
  split
  · refine ⟨removed.lines, removed.absent, removed.clients, ?_,
      removed.silent, ?_, removed.port, removed.sendable,
      removed.registered⟩
    · intro draining inside
      rcases List.mem_cons.mp inside with rfl | old
      · exact ⟨⟨carries.1.position, carries.1.idle, carries.1.watched⟩,
          carries.2⟩
      · exact removed.draining draining old
    · intro draining inside
      rcases List.mem_cons.mp inside with rfl | old
      · refine ⟨seated.below client member, ?_⟩
        intro other otherIn
        simpa using (List.mem_filter.mp otherIn).2
      · exact removed.gone draining old
  · exact removed

/-! ## Lines and channels -/

theorem Shows.channel?_eq (shown : Shows multiplexer board)
    {client : Client} (member : client ∈ multiplexer.clients) :
    (board.lines client.id).channel? =
      if 0 < client.channel then some client.channel else none := by
  have registered := shown.registered client member
  rw [shown.lines client member, lineOf]
  split
  · next isRegistered => rw [if_pos (registered isRegistered), Line.channel?]
  · split <;> rfl

/-- A number that no client has is free on the board. -/
theorem Shows.free_of_forall (shown : Shows multiplexer board)
    {channel : Int}
    (none :
      ∀ client ∈ multiplexer.clients, 0 < channel →
        client.channel ≠ channel) :
    board.Free channel := by
  intro id same
  by_cases present : ∃ client ∈ multiplexer.clients, client.id = id
  · rcases present with ⟨client, member, rfl⟩
    rw [shown.channel?_eq member] at same
    split at same
    · next positive =>
      cases same
      exact none client member positive rfl
    · cases same
  · rw [shown.absent id fun client member same =>
      present ⟨client, member, same⟩] at same
    cases same

theorem Shows.free_of_find_none (shown : Shows multiplexer board)
    {channel : Int}
    (none : multiplexerFindClient multiplexer channel = none) :
    board.Free channel := by
  apply shown.free_of_forall
  intro client member _ same
  have differs := List.find?_eq_none.mp none client member
  simp [same] at differs

/-- The client that is found has the line of the channel. -/
theorem Shows.channel?_of_find (shown : Shows multiplexer board)
    (seated : Seated multiplexer) (low : multiplexer.lastChannel ≤ 255)
    {channel : Int} (digits : 0 ≤ channel) {client : Client}
    (found : multiplexerFindClient multiplexer channel = some client) :
    client ∈ multiplexer.clients ∧ client.channel = channel ∧
      0 < channel ∧ (board.lines client.id).channel? = some channel := by
  have member := List.mem_of_find?_eq_some found
  have same : client.channel = channel := by
    simpa using List.find?_some found
  have counted := seated.counted low client member
  have positive : 0 < channel := by omega
  refine ⟨member, same, positive, ?_⟩
  rw [shown.channel?_eq member, same, if_pos positive]

/-! ## Moves of the clients -/

theorem connectMessage_ne_nil (service : List UInt8) (channel : Int) :
    connectMessage service channel ≠ [] := by
  simp [connectMessage, ascii]

theorem sendable_disconnectMessage (channel : Int) :
    Sendable ⟨channelControl, disconnectMessage channel⟩ := by
  constructor
  · simp [disconnectMessage, ascii]
  · simp [disconnectMessage, ascii, maxPayload]

/-- What a client writes is a move of the switchboard. -/
theorem exists_move_speaks (shown : Shows multiplexer board)
    (seated : Seated multiplexer) {client : Client}
    (member : client ∈ multiplexer.clients) {data : List UInt8}
    (something : data ≠ []) (fits : data.length ≤ maxPayload)
    {next : Multiplexer}
    (received : clientFdReceive multiplexer client data = some next)
    (low : next.lastChannel ≤ 255) :
    ∃ board', Move board (.speaks client.id data) board' ∧
      Shows next board' := by
  have line := shown.lines client member
  have range := seated.range client member
  rw [lineOf] at line
  rw [clientFdReceive] at received
  split at received
  · next registered =>
    cases received
    rw [if_pos registered] at line
    have positive := shown.registered client member registered
    exact ⟨_, Move.passes line,
      shown.send ⟨something, fits⟩ positive.le range.2⟩
  · next unregistered =>
    rw [if_neg unregistered] at line
    split at received
    · next positive =>
      cases received
      rw [if_pos positive] at line
      exact ⟨_, Move.impatient line, shown.free seated member⟩
    · next unassigned =>
      rw [if_neg unassigned] at line
      rcases Option.bind_eq_some_iff.mp received with
        ⟨⟨opened, channel⟩, asked, rest⟩
      rcases Option.bind_eq_some_iff.mp asked with
        ⟨⟨last, number⟩, found, sent⟩
      have counted := (seated.assign found).1
      have spec := nextChannelFuel_spec found
      dsimp only at sent rest
      split at sent
      · next long =>
        cases sent
        cases rest
        exact ⟨_, Move.tooLong line long,
          (shown.setLast last).free counted member⟩
      · next short =>
        cases sent
        split at rest
        · next negative =>
          have positive := Int.emod_nonneg (last : Int)
            (show (256 : Int) ≠ 0 by decide)
          omega
        · cases rest
          have small : last ≤ 255 := low
          have positive : 0 < channel := by omega
          have room : (connectMessage data channel).length ≤ maxPayload := by
            omega
          have told := @Shows.send _ _ (shown.setLast last)
            ⟨channelControl, connectMessage data channel⟩
            ⟨connectMessage_ne_nil data channel, room⟩
            (Int.le_refl 0) (show (0 : Int) < 256 by decide)
          have free : board.Free channel :=
            shown.free_of_forall fun other otherIn _ =>
              spec.2.2.2 other otherIn
          have assigned := @Shows.modify _ _ told (counted.sendPacket _)
            client member (fun client => { client with channel := channel })
            (fun _ => rfl) _ (told.clients client member)
            (fun registered => absurd registered unregistered)
          have waiting : lineOf { client with channel := channel } =
              .waiting channel := by
            rw [lineOf, if_neg unregistered, if_pos positive]
          rw [waiting, Function.update_eq_self] at assigned
          exact ⟨_, Move.asks line free positive (by omega), assigned⟩

/-- A client that hangs up leaves the switchboard. -/
theorem exists_move_leaves (shown : Shows multiplexer board)
    {client : Client} (member : client ∈ multiplexer.clients) :
    ∃ board', Move board (.leaves client.id) board' ∧
      Shows (clientFdClose multiplexer client) board' := by
  have channel := shown.channel?_eq member
  rw [clientFdClose]
  split
  · next positive =>
    rw [if_pos positive] at channel
    have told := @Shows.send _ _ shown
      ⟨channelControl, disconnectMessage client.channel⟩
      (sendable_disconnectMessage client.channel)
      (Int.le_refl 0) (show (0 : Int) < 256 by decide)
    exact ⟨_, Move.leaves channel, told.remove client.id⟩
  · next none =>
    rw [if_neg none] at channel
    exact ⟨_, Move.leavesEarly channel, shown.remove client.id⟩

/-! ## Moves of the emulator -/

/-- The channel in a control message is written with digits. -/
def Readable (packet : Packet) : Prop :=
  packet.channel = channelControl →
    ∀ channel, (controlMessage packet.data).channel? = some channel →
      0 ≤ channel

/-- An answer of the emulator changes a line and is passed on. -/
theorem shows_registration (shown : Shows multiplexer board)
    (seated : Seated multiplexer) {client : Client}
    (member : client ∈ multiplexer.clients) (positive : 0 < client.channel)
    (registered : Bool) :
    Shows (clientRegistration multiplexer client registered)
      ((board.setLine client.id
          (if registered then .connected client.channel else .fresh)).say
        client.id (ascii (if registered then "OK" else "KO"))) := by
  have carries :=
    (shown.clients client member).enqueue
      (ascii (if registered then "OK" else "KO"))
  have changed := @Shows.modify _ _ shown seated client member
    (fun client =>
      { client with
        handler :=
          fdhandlerEnqueue client.handler
            (ascii (if registered then "OK" else "KO"))
        registered := registered
        channel := if registered then client.channel else -1 })
    (fun _ => rfl) _ carries
    (fun isRegistered => by
      dsimp only at isRegistered ⊢
      rwa [if_pos isRegistered])
  cases registered with
  | true => exact changed
  | false => exact changed

/-- What the emulator sends is a move of the switchboard. -/
theorem exists_move_announces (shown : Shows multiplexer board)
    (seated : Seated multiplexer) (low : multiplexer.lastChannel ≤ 255)
    {packet : Packet} (nonneg : 0 ≤ packet.channel)
    (readable : Readable packet) :
    ∃ board', Move board (.announces packet) board' ∧
      Shows (multiplexerSerialReceive multiplexer packet) board' := by
  rcases packet with ⟨number, data⟩
  rw [multiplexerSerialReceive]
  split
  · next control =>
    obtain rfl : number = channelControl := control
    have digits := readable rfl
    dsimp only at digits ⊢
    have nobody : ∀ channel,
        (controlMessage data).channel? = some channel →
          multiplexerFindClient multiplexer channel = none →
            Move board (.announces ⟨channelControl, data⟩) board := by
      intro channel about none
      refine Move.nobody fun other same => ?_
      rw [about] at same
      cases same
      exact shown.free_of_find_none none
    rw [multiplexerHandleControl]
    cases message : controlMessage data with
    | unknown =>
        refine ⟨board, Move.nobody fun channel about => ?_, shown⟩
        rw [message] at about
        cases about
    | connected channel =>
        have about : (controlMessage data).channel? = some channel := by
          rw [message]
          rfl
        dsimp only
        cases found : multiplexerFindClient multiplexer channel with
        | none => exact ⟨board, nobody channel about found, shown⟩
        | some client =>
            rcases shown.channel?_of_find seated low (digits channel about)
              found with ⟨member, rfl, positive, line⟩
            exact ⟨_, Move.connects message line,
              shows_registration shown seated member positive true⟩
    | refused channel =>
        have about : (controlMessage data).channel? = some channel := by
          rw [message]
          rfl
        dsimp only
        cases found : multiplexerFindClient multiplexer channel with
        | none => exact ⟨board, nobody channel about found, shown⟩
        | some client =>
            rcases shown.channel?_of_find seated low (digits channel about)
              found with ⟨member, rfl, positive, line⟩
            exact ⟨_, Move.refuses message line,
              shows_registration shown seated member positive false⟩
    | disconnected channel =>
        have about : (controlMessage data).channel? = some channel := by
          rw [message]
          rfl
        dsimp only
        cases found : multiplexerFindClient multiplexer channel with
        | none => exact ⟨board, nobody channel about found, shown⟩
        | some client =>
            rcases shown.channel?_of_find seated low (digits channel about)
              found with ⟨member, rfl, positive, line⟩
            exact ⟨_, Move.disconnects message line,
              shown.free seated member⟩
  · next notControl =>
    cases found : multiplexerFindClient multiplexer number with
    | none =>
        exact ⟨board,
          Move.drops notControl (shown.free_of_find_none found), shown⟩
    | some client =>
        rcases shown.channel?_of_find seated low nonneg found with
          ⟨member, -, -, line⟩
        have carries := (shown.clients client member).enqueue data
        exact ⟨_, Move.delivers notControl line,
          shown.modify_handler seated member
            (fun handler => fdhandlerEnqueue handler data) carries⟩

/-! ## Every packet has a channel -/

theorem nonneg_of_mem_posted {serial : Serial} {bytes : List UInt8}
    {turn : Turn} (taken : receiveTurn serial bytes = some turn) :
    ∀ packet ∈ turn.posted, 0 ≤ packet.channel := by
  rw [receiveTurn] at taken
  split at taken
  · simp only [receivePayload] at taken
    split at taken
    · cases taken
    · split at taken
      · cases taken
        exact List.forall_mem_nil _
      · cases taken
        dsimp only
        split
        · exact List.forall_mem_nil _
        · next nonneg =>
          intro packet member
          rw [List.mem_singleton.mp member]
          exact Int.not_lt.mp nonneg
  · cases taken
    simp only [receiveHeader]
    split <;> exact List.forall_mem_nil _

theorem nonneg_of_mem_received {fuel : Nat} {serial final : Serial}
    {bytes : List UInt8} {packets : List Packet}
    (received :
      serialFdReceiveFuel fuel serial bytes = some (final, packets)) :
    ∀ packet ∈ packets, 0 ≤ packet.channel := by
  induction fuel generalizing serial bytes packets with
  | zero =>
      cases received
      exact List.forall_mem_nil _
  | succ fuel inductionHypothesis =>
      cases bytes with
      | nil =>
          cases received
          exact List.forall_mem_nil _
      | cons byte bytes =>
          rcases Option.bind_eq_some_iff.mp received with
            ⟨turn, taken, rest⟩
          rcases Option.bind_eq_some_iff.mp rest with
            ⟨⟨serial', later⟩, receivedLater, ended⟩
          cases ended
          intro packet member
          rcases List.mem_append.mp member with first | second
          · exact nonneg_of_mem_posted taken packet first
          · exact inductionHypothesis receivedLater packet second

/-! ## One event -/

/-- What an event of the daemon is at the switchboard. -/
def occurrences (multiplexer : Multiplexer) : Event → List Occurrence
  | .accepted => [.arrives multiplexer.connected]
  | .socket id input hangUp _ =>
      let data := (input.map Chunk.bytes).getD []
      (if data = [] then [] else [.speaks id data]) ++
        (if hangUp then [.leaves id] else [])
  | .port input _ =>
      match serialFdReceive multiplexer.serial
          ((input.map Chunk.bytes).getD []) with
      | some (_, packets) => packets.map .announces
      | none => []

theorem shows_accept (shown : Shows multiplexer board)
    (seated : Seated multiplexer) :
    Shows (multiplexerControlAccept multiplexer)
      (board.setLine multiplexer.connected .fresh) := by
  have old : ∀ client ∈ multiplexer.clients,
      client.id ≠ multiplexer.connected := fun client member =>
    (seated.below client member).ne
  constructor
  case lines =>
    intro client member
    simp only [Board.setLine]
    rcases List.mem_cons.mp member with rfl | before
    · rw [Client.new, Function.update_self]
      rfl
    · rw [Function.update_of_ne (old client before)]
      exact shown.lines client before
  case absent =>
    intro id none
    simp only [Board.setLine]
    rcases List.forall_mem_cons.mp none with ⟨new, others⟩
    have differ : id ≠ multiplexer.connected := fun same => new same.symm
    rw [Function.update_of_ne differ]
    exact shown.absent id others
  case clients =>
    intro client member
    rcases List.mem_cons.mp member with rfl | before
    · refine ⟨coherent_new, ?_⟩
      exact (shown.silent multiplexer.connected (Nat.le_refl _)).symm
    · exact shown.clients client before
  case draining => exact shown.draining
  case silent => exact fun id new => shown.silent id (Nat.le_of_succ_le new)
  case gone =>
    intro draining inside
    have gone := shown.gone draining inside
    refine ⟨Nat.lt_succ_of_lt gone.1, ?_⟩
    intro client member
    rcases List.mem_cons.mp member with rfl | before
    · exact gone.1.ne'
    · exact gone.2 client before
  case port => exact shown.port
  case sendable => exact shown.sendable
  case registered =>
    intro client member registered
    rcases List.mem_cons.mp member with rfl | before
    · cases registered
    · exact shown.registered client before registered

theorem lastChannel_serialReceive (multiplexer : Multiplexer)
    (packet : Packet) :
    (multiplexerSerialReceive multiplexer packet).lastChannel =
      multiplexer.lastChannel := by
  have free : ∀ client,
      (clientFree multiplexer client).lastChannel =
        multiplexer.lastChannel := by
    intro client
    rw [clientFree]
    split <;> rfl
  rw [multiplexerSerialReceive]
  split
  · rw [multiplexerHandleControl]
    split
    · split <;> rfl
    · split <;> rfl
    · split
      · exact free _
      · rfl
    · rfl
  · split <;> rfl

/-- The packets of one read are moves one after another. -/
theorem exists_moves_announces (shown : Shows multiplexer board)
    (seated : Seated multiplexer) (low : multiplexer.lastChannel ≤ 255)
    {packets : List Packet} (nonneg : ∀ packet ∈ packets, 0 ≤ packet.channel)
    (readable : ∀ packet ∈ packets, Readable packet) :
    ∃ board', Moves board (packets.map .announces) board' ∧
      Shows (packets.foldl multiplexerSerialReceive multiplexer) board' := by
  induction packets generalizing multiplexer board with
  | nil => exact ⟨board, Moves.nil, shown⟩
  | cons packet packets inductionHypothesis =>
      rcases List.forall_mem_cons.mp nonneg with ⟨first, others⟩
      rcases List.forall_mem_cons.mp readable with
        ⟨firstReadable, othersReadable⟩
      rcases exists_move_announces shown seated low first firstReadable with
        ⟨middle, move, shownNext⟩
      have same := lastChannel_serialReceive multiplexer packet
      rcases inductionHypothesis shownNext (seated.serialReceive packet)
        (by omega) others othersReadable with ⟨final, moves, shownLast⟩
      exact ⟨final, Moves.cons move moves, shownLast⟩


/-- The rest of an event of a socket: it may hang up, or take some bytes. -/
theorem exists_moves_rest (shown : Shows multiplexer board)
    (seated : Seated multiplexer) {id : Nat} {hangUp : Bool}
    {output : Option (Option Nat)} {next : Multiplexer}
    (ended : socketRest multiplexer id hangUp output = some next) :
    ∃ board',
      Moves board (if hangUp then [.leaves id] else []) board' ∧
        Shows next board' := by
  unfold socketRest at ended
  split at ended
  · next client found =>
    have member := List.mem_of_find?_eq_some found
    obtain rfl : client.id = id := by simpa using List.find?_some found
    split at ended
    · next isHangUp =>
      cases ended
      rw [if_pos isHangUp]
      rcases exists_move_leaves shown member with ⟨final, move, shownNext⟩
      exact ⟨final, Moves.single move, shownNext⟩
    · next stays =>
      rw [if_neg stays]
      refine ⟨board, Moves.nil, ?_⟩
      split at ended
      · cases ended
        exact shown
      · next returned =>
        cases ended
        have written := shown.modify_handler seated member
          (fun handler => fdhandlerWrite handler returned)
          ((shown.clients client member).write returned)
        rwa [Function.update_eq_self] at written
  · next none =>
    have absent : board.lines id = .absent := by
      apply shown.absent
      intro client member same
      have differs := List.find?_eq_none.mp none client member
      simp [same] at differs
    split at ended
    · next draining found =>
      split at ended
      · next isHangUp =>
        cases ended
        rw [if_pos isHangUp]
        have early : (board.lines id).channel? = Option.none := by
          rw [absent]
          rfl
        refine ⟨_, Moves.single (Move.leavesEarly early), ?_⟩
        rw [Board.setLine, ← absent, Function.update_eq_self]
        have inside : ∀ other ∈ (multiplexer.removeDraining id).draining,
            other ∈ multiplexer.draining := fun other member =>
          List.mem_of_mem_filter member
        exact ⟨shown.lines, shown.absent, shown.clients,
          fun other member => shown.draining other (inside other member),
          shown.silent,
          fun other member => shown.gone other (inside other member),
          shown.port, shown.sendable, shown.registered⟩
      · next stays =>
        rw [if_neg stays]
        refine ⟨board, Moves.nil, ?_⟩
        split at ended
        · cases ended
          exact shown
        · next returned =>
          cases ended
          have inside : ∀ other ∈
              (multiplexer.writeDraining id returned).draining,
              ∃ before ∈ multiplexer.draining, other.id = before.id ∧
                Carries other.handler (board.heard before.id) := by
            intro other member
            rcases List.mem_map.mp member with ⟨before, beforeIn, rfl⟩
            have carries := shown.draining before beforeIn
            refine ⟨before, beforeIn, ?_⟩
            split
            · exact ⟨rfl, carries.write returned⟩
            · exact ⟨rfl, carries⟩
          refine ⟨shown.lines, shown.absent, shown.clients, ?_, shown.silent,
            ?_, shown.port, shown.sendable, shown.registered⟩
          · intro other member
            rcases inside other member with ⟨before, -, same, carries⟩
            rwa [same]
          · intro other member
            rcases inside other member with ⟨before, beforeIn, same, -⟩
            rw [same]
            exact shown.gone before beforeIn
    · split at ended
      · cases ended
      · next quiet =>
        cases ended
        have stays : ¬hangUp = true := by
          intro isHangUp
          simp [isHangUp] at quiet
        rw [if_neg stays]
        exact ⟨board, Moves.nil, shown⟩

theorem lastChannel_socketRest {id : Nat} {hangUp : Bool}
    {output : Option (Option Nat)} {next : Multiplexer}
    (ended : socketRest multiplexer id hangUp output = some next) :
    next.lastChannel = multiplexer.lastChannel := by
  unfold socketRest at ended
  split at ended
  · split at ended
    · cases ended
      rw [clientFdClose]
      split <;> rfl
    · split at ended <;> cases ended <;> rfl
  · split at ended
    · split at ended
      · cases ended
        rfl
      · split at ended <;> cases ended <;> rfl
    · split at ended <;> cases ended
      rfl

theorem lastChannel_serialReceiveAll (multiplexer : Multiplexer)
    (packets : List Packet) :
    (packets.foldl multiplexerSerialReceive multiplexer).lastChannel =
      multiplexer.lastChannel := by
  induction packets generalizing multiplexer with
  | nil => rfl
  | cons packet packets inductionHypothesis =>
      rw [List.foldl_cons, inductionHypothesis, lastChannel_serialReceive]

theorem exists_moves_input (shown : Shows multiplexer board)
    (seated : Seated multiplexer) {id : Nat} {data : List UInt8}
    (fits : data.length ≤ maxPayload)
    (present :
      ¬((multiplexer.findId id).isNone ∧ (multiplexer.findDraining id).isNone))
    {next : Multiplexer}
    (received : socketInput multiplexer id data = some next)
    (low : next.lastChannel ≤ 255) :
    ∃ board',
      Moves board (if data = [] then [] else [.speaks id data]) board' ∧
        Shows next board' := by
  rw [socketInput] at received
  split at received
  · next nothing =>
    cases received
    rw [if_pos nothing]
    exact ⟨board, Moves.nil, shown⟩
  · next something =>
    rw [if_neg something]
    split at received
    · next client found =>
      have member := List.mem_of_find?_eq_some found
      obtain rfl : client.id = id := by simpa using List.find?_some found
      rcases exists_move_speaks shown seated member something fits received
        low with ⟨final, move, shownNext⟩
      exact ⟨final, Moves.single move, shownNext⟩
    · next none =>
      split at received
      · cases received
      · next noDraining =>
        rw [none, noDraining] at present
        exact absurd ⟨rfl, rfl⟩ present

/-- Every event is some moves of the switchboard. -/
theorem exists_moves_step (shown : Shows multiplexer board)
    (seated : Seated multiplexer) {event : Event} {next : Multiplexer}
    (stepped : step multiplexer event = some next)
    (low : next.lastChannel ≤ 255)
    (readable :
      ∀ packet, .announces packet ∈ occurrences multiplexer event →
        Readable packet) :
    ∃ board', Moves board (occurrences multiplexer event) board' ∧
      Shows next board' := by
  cases event with
  | accepted =>
      cases stepped
      have none : board.lines multiplexer.connected = .absent :=
        shown.absent _ fun client member => (seated.below client member).ne
      exact ⟨_, Moves.single
        (Move.arrives none (shown.silent _ (Nat.le_refl _))),
        shows_accept shown seated⟩
  | socket id input hangUp output =>
      rw [step, socketEvent] at stepped
      split at stepped
      · cases stepped
      · next present =>
        rcases Option.bind_eq_some_iff.mp stepped with ⟨read, first, second⟩
        have fits :
            ((input.map Chunk.bytes).getD []).length ≤ maxPayload := by
          cases input with
          | none => exact Nat.zero_le _
          | some chunk => exact chunk.fits
        have same := lastChannel_socketRest second
        rcases exists_moves_input shown seated fits present first (by omega)
          with ⟨middle, moves, shownRead⟩
        rcases exists_moves_rest shownRead (seated.input first) second with
          ⟨final, movesRest, shownNext⟩
        exact ⟨final, moves.append movesRest, shownNext⟩
  | port input output =>
      rcases Option.bind_eq_some_iff.mp stepped with
        ⟨⟨serial, packets⟩, received, written⟩
      have happened : occurrences multiplexer (.port input output) =
          packets.map .announces := by
        rw [occurrences, received]
      rw [happened] at readable ⊢
      have receivedSeated : Seated { multiplexer with serial := serial } :=
        seated.congr rfl rfl rfl
      have same := lastChannel_serialReceiveAll
        { multiplexer with serial := serial } packets
      have before : multiplexer.lastChannel = next.lastChannel := by
        dsimp only at written same
        split at written <;> cases written <;> exact same.symm
      have lowBefore : multiplexer.lastChannel ≤ 255 := by omega
      rcases exists_moves_announces (shown.setSerial serial) receivedSeated
        lowBefore (nonneg_of_mem_received received)
        (fun packet member =>
          readable packet (List.mem_map_of_mem member))
        with ⟨final, moves, shownNext⟩
      refine ⟨final, moves, ?_⟩
      dsimp only at written
      split at written
      · cases written
        exact shownNext
      · next returned =>
        cases written
        exact ⟨shownNext.lines, shownNext.absent, shownNext.clients,
          shownNext.draining, shownNext.silent, shownNext.gone,
          shownNext.port.write returned, shownNext.sendable,
          shownNext.registered⟩

/-! ## Runs -/

theorem lastChannel_le_of_receive {client : Client} {data : List UInt8}
    {next : Multiplexer}
    (received : clientFdReceive multiplexer client data = some next) :
    multiplexer.lastChannel ≤ next.lastChannel := by
  have free : ∀ (other : Multiplexer) client,
      (clientFree other client).lastChannel = other.lastChannel := by
    intro other client
    rw [clientFree]
    split <;> rfl
  rw [clientFdReceive] at received
  split at received
  · cases received
    exact Nat.le_refl _
  · split at received
    · cases received
      rw [free]
    · rcases Option.bind_eq_some_iff.mp received with
        ⟨⟨opened, channel⟩, asked, rest⟩
      rcases Option.bind_eq_some_iff.mp asked with
        ⟨⟨last, number⟩, found, sent⟩
      have later := (nextChannelFuel_spec found).1.le
      dsimp only at sent rest
      split at sent
      · cases sent
        cases rest
        rw [free]
        exact later
      · cases sent
        split at rest
        · cases rest
          rw [free]
          exact later
        · cases rest
          exact later

/-- The counter never goes back. -/
theorem lastChannel_le_of_step {event : Event} {next : Multiplexer}
    (stepped : step multiplexer event = some next) :
    multiplexer.lastChannel ≤ next.lastChannel := by
  cases event with
  | accepted =>
      cases stepped
      exact Nat.le_refl _
  | socket id input hangUp output =>
      rw [step, socketEvent] at stepped
      split at stepped
      · cases stepped
      · rcases Option.bind_eq_some_iff.mp stepped with ⟨read, first, second⟩
        rw [lastChannel_socketRest second]
        rw [socketInput] at first
        split at first
        · cases first
          exact Nat.le_refl _
        · split at first
          · exact lastChannel_le_of_receive first
          · split at first <;> cases first
            exact Nat.le_refl _
  | port input output =>
      rcases Option.bind_eq_some_iff.mp stepped with
        ⟨⟨serial, packets⟩, -, written⟩
      have same := lastChannel_serialReceiveAll
        { multiplexer with serial := serial } packets
      dsimp only at written same
      split at written <;> cases written <;> exact same.ge

/-- What a run of the daemon is at the switchboard. -/
def occurrencesFrom : Multiplexer → List Event → List Occurrence
  | _, [] => []
  | multiplexer, event :: events =>
      occurrences multiplexer event ++
        match step multiplexer event with
        | some next => occurrencesFrom next events
        | none => []

theorem runFrom_none (events : List Event) :
    runFrom stepAfter none events = none := by
  induction events with
  | nil => rfl
  | cons event events inductionHypothesis => exact inductionHypothesis

/-- A run with a result has a first step with one. -/
theorem exists_step_of_runFrom {event : Event} {events : List Event}
    {final : Multiplexer}
    (reached :
      runFrom stepAfter (some multiplexer) (event :: events) =
        some final) :
    ∃ next, step multiplexer event = some next ∧
      runFrom stepAfter (some next) events = some final := by
  rw [runFrom_cons, stepAfter, Option.bind_some] at reached
  cases stepped : step multiplexer event with
  | none =>
      rw [stepped, runFrom_none] at reached
      cases reached
  | some next =>
      rw [stepped] at reached
      exact ⟨next, rfl, reached⟩

theorem lastChannel_le_of_runFrom {events : List Event}
    {final : Multiplexer}
    (reached : runFrom stepAfter (some multiplexer) events = some final) :
    multiplexer.lastChannel ≤ final.lastChannel := by
  induction events generalizing multiplexer with
  | nil =>
      cases reached
      exact Nat.le_refl _
  | cons event events inductionHypothesis =>
      rcases exists_step_of_runFrom reached with ⟨next, stepped, rest⟩
      exact (lastChannel_le_of_step stepped).trans (inductionHypothesis rest)

theorem exists_moves_runFrom (shown : Shows multiplexer board)
    (seated : Seated multiplexer) {events : List Event} {final : Multiplexer}
    (reached : runFrom stepAfter (some multiplexer) events = some final)
    (low : final.lastChannel ≤ 255)
    (readable :
      ∀ packet, .announces packet ∈ occurrencesFrom multiplexer events →
        Readable packet) :
    ∃ board', Moves board (occurrencesFrom multiplexer events) board' ∧
      Shows final board' := by
  induction events generalizing multiplexer board with
  | nil =>
      cases reached
      exact ⟨board, Moves.nil, shown⟩
  | cons event events inductionHypothesis =>
      rcases exists_step_of_runFrom reached with ⟨next, stepped, rest⟩
      have happened : occurrencesFrom multiplexer (event :: events) =
          occurrences multiplexer event ++ occurrencesFrom next events := by
        rw [occurrencesFrom, stepped]
      rw [happened] at readable ⊢
      have lowNext : next.lastChannel ≤ 255 :=
        (lastChannel_le_of_runFrom rest).trans low
      rcases exists_moves_step shown seated stepped lowNext
        (fun packet member =>
          readable packet (List.mem_append_left _ member))
        with ⟨middle, moves, shownNext⟩
      rcases inductionHypothesis shownNext (seated.step stepped) rest
        (fun packet member =>
          readable packet (List.mem_append_right _ member))
        with ⟨final', movesRest, shownFinal⟩
      exact ⟨final', moves.append movesRest, shownFinal⟩

/-! ## What can be read outside -/

/-- A part of the bytes of some packets is read as the first of them. -/
theorem outcome_decode_prefix {packets : List Packet}
    (sendable :
      ∀ packet ∈ packets,
        Sendable packet ∧ 0 ≤ packet.channel ∧ packet.channel < 256)
    {part : List UInt8} (isPrefix : part <+: portBytes packets) :
    ∃ count, outcome (recogniser.decode part).1 = some (packets.take count) ∧
      (part = portBytes packets → count = packets.length) := by
  induction packets generalizing part with
  | nil =>
      obtain rfl : part = [] := List.prefix_nil.mp isPrefix
      exact ⟨0, rfl, fun _ => rfl⟩
  | cons packet packets inductionHypothesis =>
      rcases List.forall_mem_cons.mp sendable with ⟨first, others⟩
      have bytes : portBytes (packet :: packets) =
          (sentFrame packet first.1).bytes ++ portBytes packets := by
        rw [sentFrame_bytes, portBytes, List.flatMap_cons]
        rfl
      rw [bytes] at isPrefix ⊢
      by_cases whole : (sentFrame packet first.1).bytes <+: part
      · rcases whole with ⟨rest, rfl⟩
        rcases inductionHypothesis others
          ((List.prefix_append_right_inj _).mp isPrefix)
          with ⟨count, reads, all⟩
        have same : onWire packet = packet := by
          rw [onWire, channelSize]
          have reduced : packet.channel % 16 ^ 2 = packet.channel :=
            Int.emod_eq_of_lt first.2.1 first.2.2
          rw [reduced]
        refine ⟨count + 1, ?_, ?_⟩
        · rw [@outcome_decode_cons (sentFrame packet first.1) first.1.2,
            reads, sentFrame_packets, same]
          rfl
        · intro complete
          rw [all (List.append_cancel_left complete), List.length_cons]
      · have inside : part <+: (sentFrame packet first.1).bytes := by
          rcases List.prefix_or_prefix_of_prefix isPrefix
            (List.prefix_append _ _) with inside | before
          · exact inside
          · exact absurd before whole
        have proper : part ≠ (sentFrame packet first.1).bytes := fun same =>
          whole (same ▸ List.prefix_rfl)
        have none : nextFrame part = none :=
          @nextFrame_part (sentFrame packet first.1) first.1.2 part inside
            proper
        have decoded : recogniser.decode part = ([], part) :=
          Recogniser.decode_of_none none
        refine ⟨0, ?_, fun complete => ?_⟩
        · rw [decoded]
          rfl
        · exact absurd (complete ▸ List.prefix_append _ _) whole

/--
The daemon is a switchboard: what clients read from their sockets and what an
emulator reads from the serial port, with whatever reads and writes, is what
the switchboard has said and told so far, and nothing is missing once the
queues are empty.
-/
theorem daemon_is_switchboard {events : List Event}
    {multiplexer : Multiplexer} (reached : run events = some multiplexer)
    (low : multiplexer.lastChannel ≤ 255)
    (readable :
      ∀ packet,
        .announces packet ∈ occurrencesFrom Multiplexer.initial events →
          Readable packet) :
    ∃ board,
      Moves Board.initial (occurrencesFrom Multiplexer.initial events)
          board ∧
        (∀ client ∈ multiplexer.clients,
          board.lines client.id = lineOf client ∧
            client.handler.taken ++ client.handler.pending =
              board.heard client.id) ∧
        (∀ draining ∈ multiplexer.draining,
          board.lines draining.id = .absent ∧
            draining.handler.taken ++ draining.handler.pending =
              board.heard draining.id) ∧
        ∀ chunks : List (List UInt8),
          chunks.flatten = multiplexer.port.taken →
            ∃ count,
              (receiveAll Serial.initial chunks).map Prod.snd =
                  some (board.told.take count) ∧
                (multiplexer.port.out = [] → count = board.told.length) := by
  rcases exists_moves_runFrom shows_initial seated_initial reached low
    readable with ⟨board, moves, shown⟩
  refine ⟨board, moves, ?_, ?_, ?_⟩
  · intro client member
    exact ⟨shown.lines client member, (shown.clients client member).2⟩
  · intro draining member
    refine ⟨?_, (shown.draining draining member).2⟩
    exact shown.absent _ (shown.gone draining member).2
  · intro chunks cut
    have queued : multiplexer.port.taken ++ multiplexer.port.pending =
        portBytes board.told := shown.port.2
    have isPrefix : chunks.flatten <+: portBytes board.told := by
      rw [cut, ← queued]
      exact List.prefix_append _ _
    rcases outcome_decode_prefix shown.sendable isPrefix with
      ⟨count, reads, all⟩
    refine ⟨count, ?_, ?_⟩
    · rw [receiveAll_outcome, reads]
    · intro empty
      apply all
      have nothing : multiplexer.port.pending = [] := by
        rw [FdHandler.pending, empty]
        exact List.drop_nil
      rw [cut, ← queued, nothing, List.append_nil]

theorem request_fits : (ascii "a").length ≤ maxPayload := by
  decide

theorem answer_fits : (ascii "00000dok:connect:01").length ≤ maxPayload := by
  decide

/--
A client asks for a service and the emulator reads the request; the emulator
agrees, and the client reads the answer.
-/
def agreement : List Event :=
  [.accepted, .socket 0 (some ⟨ascii "a", request_fits⟩) false none,
    .port none (some (some 6)), .port none (some (some 12)),
    .port (some ⟨ascii "00000dok:connect:01", answer_fits⟩) none,
    .socket 0 none false (some (some 2))]

/-- Both sides have agreed, and neither has anything left to read. -/
theorem daemon_is_switchboard_agreement :
    ∃ multiplexer, run agreement = some multiplexer ∧
      ∃ board : Board, board.lines 0 = .connected 1 ∧
        board.heard 0 = ascii "OK" ∧
        (receiveAll Serial.initial [multiplexer.port.taken]).map Prod.snd =
          some board.told := by
  have left :
      (run agreement).map (fun multiplexer =>
        (multiplexer.clients.map fun client =>
            (client.id, lineOf client,
              client.handler.taken ++ client.handler.pending),
          multiplexer.port.out, multiplexer.lastChannel)) =
        some ([(0, .connected 1, ascii "OK")], [], 1) := by decide
  rcases Option.map_eq_some_iff.mp left with ⟨multiplexer, reached, same⟩
  rcases Prod.mk.inj same with ⟨clientsAre, rest⟩
  rcases Prod.mk.inj rest with ⟨written, counter⟩
  have happened : occurrencesFrom Multiplexer.initial agreement =
      [.arrives 0, .speaks 0 [0x61],
        .announces ⟨0, ascii "ok:connect:01"⟩] := by decide
  have isReadable : Readable ⟨0, ascii "ok:connect:01"⟩ := by
    intro _ channel about
    have known : (controlMessage (ascii "ok:connect:01")).channel? =
        some 1 := by decide
    obtain rfl : 1 = channel := Option.some.inj (known.symm.trans about)
    decide
  rcases daemon_is_switchboard reached (by omega)
    (by
      intro packet member
      rw [happened] at member
      obtain rfl : packet = ⟨0, ascii "ok:connect:01"⟩ := by
        simpa using member
      exact isReadable)
    with ⟨board, -, clients, -, reads⟩
  rcases List.map_eq_singleton_iff.mp clientsAre with
    ⟨client, isOnly, line⟩
  rcases Prod.mk.inj line with ⟨idIs, line⟩
  rcases Prod.mk.inj line with ⟨lineIs, heardIs⟩
  have facts := clients client (by rw [isOnly]; exact List.mem_singleton_self _)
  rw [idIs, lineIs, heardIs] at facts
  rcases reads [multiplexer.port.taken] List.flatten_singleton with
    ⟨count, isRead, all⟩
  rw [all written, List.take_length] at isRead
  exact ⟨multiplexer, reached, board, facts.1, facts.2.symm, isRead⟩

end Anbox.Qemud.SwitchboardRefinement
