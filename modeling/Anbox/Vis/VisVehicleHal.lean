import Anbox.Vis.Session

/-!
# The vehicle HAL on top of the VIS client

`VisVehicleHal` keeps the values of a VIS server in a property store.  While
`mValuesAreDirty` is set, a call that needs the values fetches all of them,
subscribes to all changes and then clears the flag.  `get` and `set` do this
under `mLock`; `subscribe` does it without.

The thread that polls the VIS client reports every connection and the end of
every connection to the HAL.  The handler waits for `mLock`, and until it has
returned that thread does nothing else.

Calls for properties that are not mapped to VIS are answered from the store
and are left out.
-/

namespace Anbox.Vis.VisVehicleHal

open Anbox.Foundation.Runs
open Anbox.Vis.Messages
open Anbox.Vis.VisClient

abbrev ThreadId := Nat

/-! ## Calls -/

inductive Caller where
  | get
  /-- The name of the property at the server and the value as text. -/
  | set (visName value : String)
  | subscribe
  | onCreate
deriving DecidableEq, Repr

/-- The caller has `mLock` until it returns. -/
def Caller.locks : Caller → Bool
  | .get => true
  | .set _ _ => true
  | .subscribe => false
  | .onCreate => false

/-- Where a call is; a ticket names the request that it waits for. -/
inductive Phase where
  /-- In `getPropertySync` for all properties. -/
  | fetching (ticket : Ticket)
  /-- In `subscribeToAll`. -/
  | subscribing (ticket : Ticket)
  /-- About to clear `mValuesAreDirty`. -/
  | clearing
  /-- In `setPropertySync`. -/
  | setting (ticket : Ticket)
deriving DecidableEq, Repr

def Phase.ticket : Phase → Option Ticket
  | .fetching ticket => some ticket
  | .subscribing ticket => some ticket
  | .clearing => none
  | .setting ticket => some ticket

structure Call where
  caller : Caller
  phase : Phase
  /--
  The number of disconnect notifications when the values that the call has
  fetched were sent by the server.
  -/
  fetchedIn : Option Nat
deriving DecidableEq, Repr

/-- A future that is ready. -/
structure Answer where
  ticket : Ticket
  status : Status
  /-- The number of disconnect notifications when the answer came. -/
  disconnects : Nat
deriving DecidableEq, Repr

structure State where
  /-- The VIS client and its hub. -/
  session : Session.State
  valuesAreDirty : Bool
  /-- The connection state that the polling thread is reporting. -/
  notifying : Option Bool
  calls : List (ThreadId × Call)
  answers : List Answer
  /-- The disconnect notifications that were handled. -/
  disconnects : Nat
  /-- All values were fetched since the last disconnect notification. -/
  fetched : Bool
  /-- A subscription was accepted by the server on this connection. -/
  accepted : Bool

def State.initial : State :=
  { session := Session.State.initial
    valuesAreDirty := true
    notifying := none
    calls := []
    answers := []
    disconnects := 0
    fetched := false
    accepted := false }

namespace State

def callOf (state : State) (thread : ThreadId) : Option Call :=
  (state.calls.find? fun entry => entry.1 == thread).map Prod.snd

/-- A thread has `mLock`. -/
def locked (state : State) : Bool :=
  state.calls.any fun entry => entry.2.caller.locks

/-- No call and no notification is in progress. -/
def Quiet (state : State) : Prop :=
  state.calls = [] ∧ state.notifying = none

def endCall (state : State) (thread : ThreadId) : State :=
  { state with
    calls := state.calls.filter fun entry => entry.1 != thread }

def setCall (state : State) (thread : ThreadId) (call : Call) : State :=
  { state with
    calls := (state.calls.filter fun entry => entry.1 != thread) ++
      [(thread, call)] }

/-- Make a request of the VIS client, if it has not lost its connection. -/
def enter (state : State) (thread : ThreadId) (call : Ticket → Call)
    (request : Request) (otherwise : State) : State :=
  if state.session.client.connectedState = .disconnected then otherwise
  else
    setCall { state with
        session := Session.step state.session (.enter request) }
      thread (call state.session.nextTicket)

/-- What follows `fetchAllAndSubscribe` in a caller that needs the values. -/
def proceed (state : State) (thread : ThreadId) (caller : Caller) : State :=
  match caller with
  | .set visName value =>
      state.enter thread (fun ticket => ⟨caller, .setting ticket, none⟩)
        (.set visName value) (state.endCall thread)
  | _ => state.endCall thread

/-- The beginning of `fetchAllAndSubscribe`. -/
def fetchAll (state : State) (thread : ThreadId) (caller : Caller) :
    State :=
  if state.session.client.connectedState = .connected then
    state.enter thread (fun ticket => ⟨caller, .fetching ticket, none⟩)
      (.get kAllTag) state
  else state

def call (state : State) (thread : ThreadId) (caller : Caller) : State :=
  if (state.callOf thread).isSome || (caller.locks && state.locked) then
    state
  else
    match caller with
    | .onCreate =>
        state.enter thread (fun ticket => ⟨caller, .subscribing ticket, none⟩)
          (.subscribe kAllTag) state
    | _ =>
        if state.valuesAreDirty then state.fetchAll thread caller
        else state.proceed thread caller

/-- `subscribeToAll` has returned, whatever its outcome was. -/
def leaveSubscribeToAll (state : State) (thread : ThreadId) (call : Call) :
    State :=
  if call.caller = .onCreate then state.endCall thread
  else state.setCall thread { call with phase := .clearing }

/-- The request of the call has failed or timed out. -/
def giveUp (state : State) (thread : ThreadId) (call : Call) : State :=
  match call.phase with
  | .fetching _ => state.endCall thread
  | .subscribing _ => state.leaveSubscribeToAll thread call
  | .clearing => state
  | .setting _ => state.endCall thread

/-- The request that a thread sends when it gets the lock of the client. -/
def sends (state : State) (thread : ThreadId) : Option (Ticket × Request) :=
  match (state.callOf thread).bind fun call => call.phase.ticket with
  | none => none
  | some ticket => (state.session.waiting ticket).map (ticket, ·)

/-- The locked part of a request. -/
def send (state : State) (thread : ThreadId) : State :=
  match state.callOf thread, state.sends thread with
  | some call, some (ticket, request) =>
      let (_, status, effects) :=
        perform state.session.client ticket request
      let next :=
        { state with
          session := Session.step state.session (.request ticket) }
      if status ≠ .ok then next.giveUp thread call
      -- The exception of a broken promise leaves the call.
      else if effects.any (fun effect =>
          match effect with | .broken _ => true | _ => false) then
        next.endCall thread
      else next
  | _, _ => state

/-- The future that a call waits for, if it is ready. -/
def answerOf (state : State) (call : Call) : Option Answer :=
  call.phase.ticket.bind fun ticket =>
    state.answers.find? fun answer => answer.ticket == ticket

/-- The call finds its future ready. -/
def answer (state : State) (thread : ThreadId) : State :=
  match state.callOf thread with
  | none => state
  | some call =>
      match state.answerOf call with
      | none => state
      | some answer =>
          match call.phase, answer.status with
          | .fetching _, .ok =>
              let stored :=
                { state with
                  fetched := state.fetched ||
                    answer.disconnects == state.disconnects }
              let fetchedIn := some answer.disconnects
              stored.enter thread
                (fun ticket => ⟨call.caller, .subscribing ticket, fetchedIn⟩)
                (.subscribe kAllTag)
                (stored.setCall thread ⟨call.caller, .clearing, fetchedIn⟩)
          | _, _ => state.giveUp thread call

/-- The call has waited for its future in vain. -/
def timeout (state : State) (thread : ThreadId) : State :=
  match state.callOf thread, state.sends thread with
  | some call, none =>
      if (state.answerOf call).isNone then state.giveUp thread call
      else state
  | _, _ => state

/-- The end of `fetchAllAndSubscribe`. -/
def clear (state : State) (thread : ThreadId) : State :=
  match state.callOf thread with
  | none => state
  | some call =>
      if call.phase = .clearing then
        proceed { state with valuesAreDirty := false } thread call.caller
      else state

end State

/-! ## The polling thread -/

/-- The handlers and `poll` run in the polling thread, requests do not. -/
def ofHub : Session.Label → Bool
  | .enter _ => false
  | .request _ => false
  | _ => true

/-- What a response makes the callers and observers see. -/
def effectsOf (session : Session.State) : Session.Label → List Effect
  | .message ws frame =>
      if ws ∈ session.live then
        match handleMessage session.client frame with
        | .error _ => []
        | .ok (_, effects) => effects
      else []
  | _ => []

/-- The notification that follows an event of the hub. -/
def notificationOf (session : Session.State) :
    Session.Label → Option Bool
  | .connection .ssl =>
      if session.connecting ≠ 0 ∧
          (handleConnection session.client session.nextWs .ssl).isSome then
        some true
      else none
  | .disconnection ws => if ws ∈ session.live then some false else none
  | _ => none

def answersOf (effects : List Effect) (disconnects : Nat) : List Answer :=
  effects.filterMap fun effect =>
    match effect with
    | .fulfilled (.request ticket) _ result =>
        some ⟨ticket, result.status, disconnects⟩
    | _ => none

/-- The effect reports that a subscription was accepted. -/
def isSubscribed : Effect → Bool
  | .subscribed _ => true
  | _ => false

def State.hub (state : State) (label : Session.Label) : State :=
  if state.notifying.isSome || !ofHub label then state
  else
    let effects := effectsOf state.session label
    let notification := notificationOf state.session label
    { state with
      session := Session.step state.session label
      notifying := notification
      answers := state.answers ++ answersOf effects state.disconnects
      accepted :=
        (state.accepted || effects.any isSubscribed) &&
          notification != some false }

/-- `onVisConnectionStatusUpdate`. -/
def State.notify (state : State) : State :=
  match state.notifying with
  | none => state
  | some connected =>
      if state.locked then state
      else if connected then { state with notifying := none }
      else
        { state with
          notifying := none
          valuesAreDirty := true
          disconnects := state.disconnects + 1
          fetched := false }

inductive Label where
  | hub (label : Session.Label)
  | notify
  | call (thread : ThreadId) (caller : Caller)
  | send (thread : ThreadId)
  | answer (thread : ThreadId)
  | timeout (thread : ThreadId)
  | clear (thread : ThreadId)

/-- After the process has ended nothing changes any more. -/
def step (state : State) (label : Label) : State :=
  if state.session.halted.isSome then state
  else
    match label with
    | .hub label => state.hub label
    | .notify => state.notify
    | .call thread caller => state.call thread caller
    | .send thread => state.send thread
    | .answer thread => state.answer thread
    | .timeout thread => state.timeout thread
    | .clear thread => state.clear thread

def after (labels : List Label) : State :=
  runFrom step State.initial labels

/-! ## A call that fetches the values -/

/-- The answer of a server to a request for all values. -/
def getResponse (requestId : String) : Frame :=
  .text (some (.object
    [("action", .string "get"), ("requestId", .string requestId),
      ("value", .string "1"), ("timestamp", .string "1")]))

/-- A call of `get` that gets an answer to both of its requests. -/
def fetchingCall (ws : WebSocket) (getId : String) (response : Frame) :
    List Label :=
  [.call 0 .get, .send 0, .hub (.message ws (getResponse getId)), .answer 0,
    .send 0, .hub (.message ws response), .answer 0, .clear 0]

/-! ## What a step does to the client -/

/-- A request that the HAL makes. -/
def ofHal : Request → Bool
  | .get _ => true
  | .set _ _ => true
  | .subscribe path => path = kAllTag
  | .unsubscribe _ => false
  | .unsubscribeAll => false

/-- A call leaves the client alone or makes a request. -/
inductive Entered (session : Session.State) : Session.State → Prop where
  | unchanged : Entered session session
  | entered {request : Request} (ours : ofHal request = true) :
      Entered session (Session.step session (.enter request))

section

variable {state : State} {thread : ThreadId}

theorem giveUp_session (call : Call) :
    (state.giveUp thread call).session = state.session := by
  unfold State.giveUp
  split
  · rfl
  · unfold State.leaveSubscribeToAll
    split <;> rfl
  · rfl
  · rfl

theorem enter_entered {session : Session.State} {call : Ticket → Call}
    {request : Request} {otherwise : State} (ours : ofHal request = true)
    (here : state.session = session)
    (otherwiseHere : otherwise.session = session) :
    Entered session (state.enter thread call request otherwise).session := by
  subst here
  unfold State.enter
  split
  · rw [otherwiseHere]
    exact .unchanged
  · exact .entered ours

theorem proceed_entered {session : Session.State}
    (here : state.session = session) (caller : Caller) :
    Entered session (state.proceed thread caller).session := by
  subst here
  unfold State.proceed
  split
  · exact enter_entered rfl rfl rfl
  · exact .unchanged

theorem call_entered (caller : Caller) :
    Entered state.session (state.call thread caller).session := by
  unfold State.call
  split
  · exact .unchanged
  · split
    · exact enter_entered rfl rfl rfl
    · split
      · unfold State.fetchAll
        split
        · exact enter_entered rfl rfl rfl
        · exact .unchanged
      · exact proceed_entered rfl _

theorem answer_entered :
    Entered state.session (state.answer thread).session := by
  unfold State.answer
  split
  · exact .unchanged
  · split
    · exact .unchanged
    · split
      · have ours : ofHal (.subscribe kAllTag) = true := rfl
        exact enter_entered ours rfl rfl
      · rw [giveUp_session]
        exact .unchanged

theorem timeout_session :
    (state.timeout thread).session = state.session := by
  unfold State.timeout
  split
  · split
    · rw [giveUp_session]
    · rfl
  · rfl

theorem clear_entered :
    Entered state.session (state.clear thread).session := by
  unfold State.clear
  split
  · exact .unchanged
  · split
    · apply proceed_entered
      rfl
    · exact .unchanged

theorem notify_session : state.notify.session = state.session := by
  unfold State.notify
  split
  · rfl
  · split
    · rfl
    · split <;> rfl

/-- A send is a request of the session, if there is something to send. -/
theorem send_session :
    (state.send thread).session =
      match state.sends thread with
      | none => state.session
      | some (ticket, _) =>
          Session.step state.session (.request ticket) := by
  unfold State.send
  cases sends : state.sends thread with
  | none => cases state.callOf thread <;> rfl
  | some sent =>
      rcases sent with ⟨ticket, request⟩
      cases found : state.callOf thread with
      | none => simp [State.sends, found] at sends
      | some call =>
          dsimp only
          split
          · rw [giveUp_session]
          · split <;> rfl

theorem sends_waiting {ticket : Ticket} {request : Request}
    (sends : state.sends thread = some (ticket, request)) :
    state.session.waiting ticket = some request := by
  unfold State.sends at sends
  split at sends
  · cases sends
  · rcases Option.map_eq_some_iff.mp sends with ⟨waiting, found, same⟩
    cases same
    exact found

/-- The ways in which a step of the HAL moves the session. -/
inductive Moved (session : Session.State) : Session.State → Prop where
  | entered {next : Session.State} (entered : Entered session next) :
      Moved session next
  | requested (ticket : Ticket) :
      Moved session (Session.step session (.request ticket))
  | polled {label : Session.Label} (polling : ofHub label = true) :
      Moved session (Session.step session label)

/-- The polling thread does nothing while it reports a connection state. -/
theorem hub_cases (state : State) (label : Session.Label) :
    state.hub label = state ∨
      state.notifying = none ∧ ofHub label = true ∧
        state.hub label =
          { state with
            session := Session.step state.session label
            notifying := notificationOf state.session label
            answers :=
              state.answers ++
                answersOf (effectsOf state.session label) state.disconnects
            accepted :=
              (state.accepted ||
                  (effectsOf state.session label).any isSubscribed) &&
                notificationOf state.session label != some false } := by
  unfold State.hub
  split
  · exact Or.inl rfl
  · next free =>
    simp only [Bool.or_eq_true, Bool.not_eq_true', not_or,
      Bool.not_eq_false, Bool.not_eq_true, Option.isSome_eq_false_iff,
      Option.isNone_iff_eq_none] at free
    exact Or.inr ⟨free.1, free.2, rfl⟩

theorem hub_moved (label : Session.Label) :
    Moved state.session (state.hub label).session := by
  rcases hub_cases state label with idle | ⟨-, polling, moves⟩
  · rw [idle]
    exact .entered .unchanged
  · rw [moves]
    exact .polled polling

theorem step_moved (state : State) (label : Label) :
    Moved state.session (step state label).session := by
  unfold step
  split
  · exact .entered .unchanged
  · cases label with
    | hub label => exact hub_moved label
    | notify =>
        rw [notify_session]
        exact .entered .unchanged
    | call thread caller => exact .entered (call_entered caller)
    | send thread =>
        rw [send_session]
        split
        · exact .entered .unchanged
        · exact .requested _
    | answer thread => exact .entered answer_entered
    | timeout thread =>
        rw [timeout_session]
        exact .entered .unchanged
    | clear thread => exact .entered clear_entered

end

end Anbox.Vis.VisVehicleHal
