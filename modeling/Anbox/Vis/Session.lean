import Anbox.Foundation.Runs
import Anbox.Vis.VisClient

/-!
# A VIS client with its hub and its callers

One thread polls the hub, and the hub calls the event handlers from there.
Any number of threads make requests; a request looks at the connection state
before it waits for `mLock`, so the connection may be another one by the time
the request is sent.

The hub reports a connection attempt as established or failed, messages of a
connection as long as it exists, and the end of each connection once.
-/

namespace Anbox.Vis.Session

open Anbox.Foundation.Runs
open Anbox.Vis.Messages
open Anbox.Vis.VisClient
open Std (TreeMap)

/-- What happened in a run, with the connection on which it happened. -/
inductive Event where
  /-- A request sent on `ws` with number `id` returned `Status::OK`. -/
  | accepted (ticket : Ticket) (ws : WebSocket) (id : Int)
  /-- A response received on `ws` for number `id` completed the future. -/
  | completed (ticket : Ticket) (ws : WebSocket) (id : Int)
  /-- The promise of a request was destroyed without a value. -/
  | broken (ticket : Ticket)
  | subscribed (observer : Ticket)
  | unsubscribed (observer : Ticket)
  | unsubscribedAll
deriving DecidableEq, Repr

/-- Why the process has ended. -/
inductive Halt where
  /-- `handleConnection` has found a race and called `abort`. -/
  | recoveryRace
  | message (fault : Fault)
deriving DecidableEq, Repr

structure State where
  client : Client
  /-- Set once the process has ended. -/
  halted : Option Halt
  /-- Connection attempts of the hub that are under way. -/
  connecting : Nat
  /-- Connections that the hub has reported and whose end it has not. -/
  live : List WebSocket
  /-- The identity of the next connection. -/
  nextWs : WebSocket
  /-- Requests that have looked at the state and wait for `mLock`. -/
  entered : List (Ticket × Request)
  nextTicket : Ticket
  history : List Event

/-- `init` has asked the hub for a first connection. -/
def State.initial : State :=
  ⟨Client.initial, none, 1, [], 0, [], 0, []⟩

inductive Label where
  /-- A thread enters a request and looks at the connection state. -/
  | enter (request : Request)
  /-- A thread that has entered a request gets `mLock`. -/
  | request (ticket : Ticket)
  | poll
  | connection (mode : ConnectionMode)
  | error
  | disconnection (ws : WebSocket)
  | transfer (ws : WebSocket)
  | message (ws : WebSocket) (frame : Frame)

/-- The events of an effect; messages are received on `ws`. -/
def eventOf (ws : Option WebSocket) : Effect → Option Event
  | .accepted ticket sentOn id => some (.accepted ticket sentOn id)
  | .fulfilled (.request ticket) id _ =>
      ws.map fun receivedOn => .completed ticket receivedOn id
  | .broken (.request ticket) => some (.broken ticket)
  | .subscribed observer => some (.subscribed observer)
  | .unsubscribed observer => some (.unsubscribed observer)
  | .unsubscribedAll => some .unsubscribedAll
  | .sent .. | .fulfilled .recovery .. | .broken .recovery
  | .notified .. => none

/-- The request with this ticket, if it waits for `mLock`. -/
def State.waiting (state : State) (ticket : Ticket) : Option Request :=
  (state.entered.find? fun entry => entry.1 == ticket).map Prod.snd

/-- Take a step that the hub and the threads allow in this state. -/
def advance (state : State) : Label → State
  | .enter request =>
      if state.client.connectedState = .disconnected then state
      else
        { state with
          entered := state.entered ++ [(state.nextTicket, request)]
          nextTicket := state.nextTicket + 1 }
  | .request ticket =>
      match state.waiting ticket with
      | none => state
      | some request =>
          let result := perform state.client ticket request
          { state with
            client := result.1
            entered :=
              state.entered.filter fun entry => entry.1 != ticket
            history := state.history ++
              result.2.2.filterMap (eventOf none) }
  | .poll =>
      let result := poll state.client
      { state with
        client := result.1
        connecting := state.connecting + if result.2.2 then 1 else 0
        history := state.history ++
          result.2.1.filterMap (eventOf none) }
  | .connection mode =>
      if state.connecting = 0 then state
      else
        match handleConnection state.client state.nextWs mode with
        | none => { state with halted := some .recoveryRace }
        | some client =>
            { state with
              client := client
              connecting := state.connecting - 1
              live := state.live ++ [state.nextWs]
              nextWs := state.nextWs + 1 }
  | .error =>
      if state.connecting = 0 then state
      else
        { state with
          client := handleError state.client
          connecting := state.connecting - 1 }
  | .disconnection ws =>
      if ws ∈ state.live then
        { state with
          client := handleDisconnection state.client
          live := state.live.erase ws }
      else state
  | .transfer ws =>
      if ws ∈ state.live then
        { state with client := handleTransfer state.client }
      else state
  | .message ws frame =>
      if ws ∈ state.live then
        match handleMessage state.client frame with
        | .error fault => { state with halted := some (.message fault) }
        | .ok (client, effects) =>
            { state with
              client := client
              history := state.history ++
                effects.filterMap (eventOf (some ws)) }
      else state

/-- After the process has ended nothing changes any more. -/
def step (state : State) (label : Label) : State :=
  if state.halted.isSome then state else advance state label

def after (labels : List Label) : State :=
  runFrom step State.initial labels

/-! ## What a step does to the client -/

/--
The ways in which a step changes the client, with the events that it adds to
the history.
-/
inductive Changed (state : State) :
    Label → Client → List Event → Prop where
  | unchanged (label : Label) : Changed state label state.client []
  | requested {ticket : Ticket} {next : Client} {effects : List Effect}
      (requested : Requested state.client ticket next effects) :
      Changed state (.request ticket) next
        (effects.filterMap (eventOf none))
  | initialized (label : Label)
      (idle : state.client.connectedState = .disconnected) :
      Changed state label (doInit state.client) []
  | recovered (label : Label) :
      Changed state label
        (state.client.recoverObservers.toList.foldl recoverObserver
          (state.client, [])).1 []
  | connected {mode : ConnectionMode} {next : Client}
      (established :
        handleConnection state.client state.nextWs mode = some next) :
      Changed state (.connection mode) next []
  | dropped (label : Label) :
      Changed state label (handleServerDisconnect state.client) []
  | offline (label : Label) :
      Changed state label { state.client with ws := none } []
  | answered {ws : WebSocket} {value : Json} {response : CommandResult}
      {next : Client} {effects : List Effect}
      (live : ws ∈ state.live)
      (parsed : parseJsonToStrings kAllTag ∅ value = .ok response)
      (answered : Answered state.client response next effects) :
      Changed state (.message ws (.text (some value))) next
        (effects.filterMap (eventOf (some ws)))

/-- Recovering observers is not visible to callers. -/
theorem recoverObserver_events (progress : Client × List Effect)
    (entry : Int × SubscriptionRequest) :
    (recoverObserver progress entry).2.filterMap (eventOf none) =
      progress.2.filterMap (eventOf none) := by
  unfold recoverObserver
  split
  · rfl
  · next sent ws id _ =>
    simp only [List.filterMap_append, List.filterMap_cons, eventOf]
    unfold emplacePromise
    split <;> simp [eventOf]

theorem foldl_recoverObserver_events (progress : Client × List Effect)
    (entries : List (Int × SubscriptionRequest)) :
    (entries.foldl recoverObserver progress).2.filterMap (eventOf none) =
      progress.2.filterMap (eventOf none) := by
  induction entries generalizing progress with
  | nil => rfl
  | cons entry entries inductionHypothesis =>
      rw [List.foldl_cons, inductionHypothesis, recoverObserver_events]

theorem advance_changed (state : State) (label : Label) :
    ∃ events,
      Changed state label (advance state label).client events ∧
        (advance state label).history = state.history ++ events := by
  have same : state.history = state.history ++ [] :=
    (List.append_nil _).symm
  cases label with
  | enter request =>
      simp only [advance]
      split
      · exact ⟨[], .unchanged _, same⟩
      · exact ⟨[], .unchanged _, same⟩
  | request ticket =>
      simp only [advance]
      split
      · exact ⟨[], .unchanged _, same⟩
      · exact ⟨_, .requested (perform_requested ..), rfl⟩
  | poll =>
      cases sameState : state.client.connectedState with
      | disconnected =>
          simp only [advance, VisClient.poll, sameState]
          exact ⟨[], .initialized _ sameState, rfl⟩
      | connecting =>
          simp only [advance, VisClient.poll, sameState]
          exact ⟨[], .unchanged _, rfl⟩
      | connected =>
          simp only [advance, VisClient.poll, sameState]
          refine ⟨[], .recovered _, ?_⟩
          rw [foldl_recoverObserver_events]
          rfl
  | connection mode =>
      simp only [advance]
      split
      · exact ⟨[], .unchanged _, same⟩
      · split
        · exact ⟨[], .unchanged _, same⟩
        · next client established => exact ⟨[], .connected established, same⟩
  | error =>
      simp only [advance]
      split
      · exact ⟨[], .unchanged _, same⟩
      · exact ⟨[], .dropped _, same⟩
  | disconnection ws =>
      simp only [advance]
      split
      · exact ⟨[], .dropped _, same⟩
      · exact ⟨[], .unchanged _, same⟩
  | transfer ws =>
      simp only [advance]
      split
      · exact ⟨[], .offline _, same⟩
      · exact ⟨[], .unchanged _, same⟩
  | message ws frame =>
      simp only [advance]
      split
      · next live =>
        split
        · exact ⟨[], .unchanged _, same⟩
        · next client effects handled =>
          match frame with
          | .other =>
              cases handled
              exact ⟨[], .offline _, rfl⟩
          | .text none =>
              cases handled
              exact ⟨[], .unchanged _, rfl⟩
          | .text (some value) =>
              rcases handleMessage_text_answered handled with
                ⟨response, parsed, answered⟩
              exact ⟨_, .answered live parsed answered, rfl⟩
      · exact ⟨[], .unchanged _, same⟩

theorem step_changed (state : State) (label : Label) :
    ∃ events,
      Changed state label (step state label).client events ∧
        (step state label).history = state.history ++ events := by
  unfold step
  split
  · exact ⟨[], .unchanged _, (List.append_nil _).symm⟩
  · exact advance_changed state label

/-- Only an established connection is new to the hub. -/
theorem step_live {state : State} {label : Label} {ws : WebSocket}
    (member : ws ∈ (step state label).live) :
    ws ∈ state.live ∨ ∃ mode, label = .connection mode := by
  unfold step at member
  split at member
  · exact Or.inl member
  · cases label with
    | connection mode => exact Or.inr ⟨mode, rfl⟩
    | disconnection other =>
        simp only [advance] at member
        split at member
        · exact Or.inl (List.mem_of_mem_erase member)
        · exact Or.inl member
    | poll => exact Or.inl member
    | enter request | request ticket | error | transfer other =>
        simp only [advance] at member
        split at member
        · exact Or.inl member
        · exact Or.inl member
    | message other frame =>
        simp only [advance] at member
        split at member
        · split at member
          · exact Or.inl member
          · exact Or.inl member
        · exact Or.inl member

/-! ## What all reachable states have in common -/

/-- A connection state and a web socket that fit the hub's connections. -/
structure WellConnected (state : State) : Prop where
  single : state.connecting + state.live.length ≤ 1
  idle :
    state.client.connectedState = .disconnected →
      state.connecting = 0 ∧ state.live = []
  socket : ∀ ws, state.client.ws = some ws → state.live = [ws]
  /-- The numbers of waiting observers are not given out again. -/
  numbered :
    state.client.ws ≠ none →
      ∀ id ∈ state.client.subscriptionObservers,
        id ≤ state.client.requestId

theorem wellConnected_initial : WellConnected State.initial := by
  constructor <;> simp [State.initial, Client.initial]

/-- A change of the client that leaves the connection alone. -/
structure SameConnection (client next : Client) : Prop where
  connectedState : next.connectedState = client.connectedState
  ws : next.ws = client.ws
  numbered :
    (∀ id ∈ client.subscriptionObservers, id ≤ client.requestId) →
      client.ws ≠ none →
        ∀ id ∈ next.subscriptionObservers, id ≤ next.requestId

/-- The next number is larger than those in use. -/
theorem numbered_insertIfNew {observers : TreeMap Int SubscriptionRequest}
    {last : Int} (numbered : ∀ id ∈ observers, id ≤ last)
    (request : SubscriptionRequest) :
    ∀ id ∈ observers.insertIfNew (last + 1) request, id ≤ last + 1 := by
  intro id member
  rcases TreeMap.mem_insertIfNew.mp member with same | before
  · have newest : last + 1 = id := Std.LawfulEqCmp.compare_eq_iff_eq.mp same
    omega
  · have earlier := numbered id before
    omega

theorem sameConnection_requested {client next : Client} {ticket : Ticket}
    {effects : List Effect}
    (requested : Requested client ticket next effects) :
    SameConnection client next := by
  cases requested with
  | refused counted unsent =>
      exact ⟨rfl, rfl, fun _ connected => absurd unsent connected⟩
  | sent request connected putDown =>
      refine ⟨rfl, rfl, fun numbered _ => ?_⟩
      rcases putDown with rfl | ⟨propertyName, rfl⟩
      · intro id member
        have earlier := numbered id member
        exact Int.le_add_one earlier
      · exact numbered_insertIfNew numbered _

theorem sameConnection_recoverObserver (progress : Client × List Effect)
    (entry : Int × SubscriptionRequest) :
    SameConnection progress.1 (recoverObserver progress entry).1 := by
  cases connected : progress.1.ws with
  | none =>
      rw [recoverObserver_of_none connected]
      exact ⟨rfl, rfl, fun numbered _ => numbered⟩
  | some ws =>
      rw [recoverObserver_of_ws connected entry]
      exact ⟨rfl, rfl, fun numbered _ => numbered_insertIfNew numbered _⟩

theorem sameConnection_recover (client : Client)
    (entries : List (Int × SubscriptionRequest)) (effects : List Effect) :
    SameConnection client
      (entries.foldl recoverObserver (client, effects)).1 := by
  refine @foldl_recoverObserver (SameConnection client) entries ?_
    (client, effects) ⟨rfl, rfl, fun numbered _ => numbered⟩
  intro progress entry _ before
  have round := sameConnection_recoverObserver progress entry
  refine ⟨round.connectedState.trans before.connectedState,
    round.ws.trans before.ws, fun numbered connected => ?_⟩
  exact round.numbered (before.numbered numbered connected)
    (before.ws ▸ connected)

theorem sameConnection_answered {client next : Client}
    {response : CommandResult} {effects : List Effect}
    (answered : Answered client response next effects) :
    SameConnection client next := by
  cases answered with
  | ignored | notified =>
      exact ⟨rfl, rfl, fun numbered _ => numbered⟩
  | settled result found =>
      exact ⟨rfl, rfl, fun numbered _ => numbered⟩
  | unsubscribedAll result found =>
      exact ⟨rfl, rfl, fun numbered _ => numbered⟩
  | subscribed result answer waiting found =>
      exact ⟨rfl, rfl, fun numbered _ id member =>
        numbered id (TreeMap.mem_of_mem_erase member)⟩
  | unsubscribed result answer found =>
      exact ⟨rfl, rfl, fun numbered _ id member =>
        numbered id (TreeMap.mem_of_mem_erase member)⟩

theorem WellConnected.sameConnection {state next : State}
    (connected : WellConnected state)
    (same : SameConnection state.client next.client)
    (connecting : next.connecting = state.connecting)
    (live : next.live = state.live) :
    WellConnected next where
  single := by
    rw [connecting, live]
    exact connected.single
  idle := by
    rw [same.connectedState, connecting, live]
    exact connected.idle
  socket := by
    rw [same.ws, live]
    exact connected.socket
  numbered := by
    rw [same.ws]
    intro online
    exact same.numbered (connected.numbered online) online

/-- Without a web socket only the hub's connections matter. -/
theorem WellConnected.offline {state next : State}
    (connected : WellConnected state)
    (missing : next.client.ws = none)
    (sameState :
      next.client.connectedState = state.client.connectedState)
    (connecting : next.connecting = state.connecting)
    (live : next.live = state.live) :
    WellConnected next where
  single := by
    rw [connecting, live]
    exact connected.single
  idle := by
    rw [sameState, connecting, live]
    exact connected.idle
  socket := by simp [missing]
  numbered := by simp [missing]

theorem WellConnected.ws_eq_none {state : State}
    (connected : WellConnected state)
    (idle : state.client.connectedState = .disconnected) :
    state.client.ws = none := by
  cases found : state.client.ws with
  | none => rfl
  | some ws =>
      have live := connected.socket ws found
      rw [(connected.idle idle).2] at live
      cases live

theorem WellConnected.poll {state : State} (connected : WellConnected state) :
    WellConnected (advance state .poll) := by
  cases sameState : state.client.connectedState with
  | disconnected =>
      rcases connected.idle sameState with ⟨noAttempt, noConnection⟩
      have missing := connected.ws_eq_none sameState
      simp only [advance, VisClient.poll, sameState]
      constructor
      · simp [noAttempt, noConnection]
      · simp [doInit]
      · simp [doInit, missing]
      · simp [doInit, missing]
  | connecting =>
      simp only [advance, VisClient.poll, sameState]
      exact connected.sameConnection ⟨rfl, rfl, fun numbered _ => numbered⟩
        rfl rfl
  | connected =>
      simp only [advance, VisClient.poll, sameState]
      exact connected.sameConnection (sameConnection_recover ..) rfl rfl

theorem WellConnected.connection {state : State}
    (connected : WellConnected state) (mode : ConnectionMode) :
    WellConnected (advance state (.connection mode)) := by
  simp only [advance]
  split
  · exact connected
  · next attempts =>
    have single := connected.single
    have noConnection : state.live = [] :=
      List.length_eq_zero_iff.mp (by omega)
    have one : state.connecting - 1 = 0 := by omega
    have busy : state.client.connectedState ≠ .disconnected :=
      fun idle => attempts (connected.idle idle).1
    cases mode with
    | ssl =>
        simp only [handleConnection]
        split
        · exact connected.sameConnection
            ⟨rfl, rfl, fun numbered _ => numbered⟩ rfl rfl
        · next client established =>
          split at established
          · cases established
          · cases established
            constructor
            · simp [one, noConnection]
            · simp
            · simp [noConnection]
            · simp
    | nonSsl | unexpected =>
        simp only [handleConnection]
        constructor
        · simp [one, noConnection]
        · exact fun idle => absurd idle busy
        · simp
        · simp

/-- A connection attempt that fails was the only one. -/
theorem WellConnected.error {state : State}
    (connected : WellConnected state) :
    WellConnected (advance state .error) := by
  simp only [advance]
  split
  · exact connected
  · next attempts =>
    have single := connected.single
    have noConnection : state.live = [] :=
      List.length_eq_zero_iff.mp (by omega)
    constructor
    · simp [noConnection]
      omega
    · simp [noConnection]
      omega
    · simp [handleError, handleServerDisconnect]
    · simp [handleError, handleServerDisconnect]

/-- A connection that ends was the only one. -/
theorem WellConnected.disconnection {state : State}
    (connected : WellConnected state) (ws : WebSocket) :
    WellConnected (advance state (.disconnection ws)) := by
  simp only [advance]
  split
  · next member =>
    have single := connected.single
    have positive := List.length_pos_of_mem member
    have ended : state.live.erase ws = [] := by
      apply List.length_eq_zero_iff.mp
      rw [List.length_erase_of_mem member]
      omega
    constructor
    · simp [ended]
      omega
    · simp [ended]
      omega
    · simp [handleDisconnection, handleServerDisconnect]
    · simp [handleDisconnection, handleServerDisconnect]
  · exact connected

/-- A frame other than a text takes the web socket away; a text keeps it. -/
theorem WellConnected.message {state : State}
    (connected : WellConnected state) (ws : WebSocket) (frame : Frame) :
    WellConnected (advance state (.message ws frame)) := by
  simp only [advance]
  split
  · split
    · exact connected.sameConnection
        ⟨rfl, rfl, fun numbered _ => numbered⟩ rfl rfl
    · next client effects handled =>
      match frame with
      | .other =>
          cases handled
          exact connected.offline rfl rfl rfl rfl
      | .text none =>
          cases handled
          exact connected.sameConnection
            ⟨rfl, rfl, fun numbered _ => numbered⟩ rfl rfl
      | .text (some value) =>
          rcases handleMessage_text_answered handled with
            ⟨response, -, answered⟩
          exact connected.sameConnection
            (sameConnection_answered answered) rfl rfl
  · exact connected

theorem WellConnected.step {state : State} (connected : WellConnected state)
    (label : Label) : WellConnected (step state label) := by
  unfold Session.step
  split
  · exact connected
  · cases label with
    | enter request =>
        simp only [advance]
        split
        · exact connected
        · exact connected.sameConnection
            ⟨rfl, rfl, fun numbered _ => numbered⟩ rfl rfl
    | request ticket =>
        simp only [advance]
        split
        · exact connected
        · exact connected.sameConnection
            (sameConnection_requested (perform_requested ..)) rfl rfl
    | poll => exact connected.poll
    | connection mode => exact connected.connection mode
    | error => exact connected.error
    | disconnection ws => exact connected.disconnection ws
    | transfer ws =>
        simp only [advance]
        split
        · exact connected.offline rfl rfl rfl rfl
        · exact connected
    | message ws frame => exact connected.message ws frame

end Anbox.Vis.Session
