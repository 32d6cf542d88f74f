import Anbox.Foundation.Fallible
import Anbox.Foundation.OrderedMap
import Anbox.Vis.Messages

/-!
# The VIS client

`VisClient` numbers its requests within a connection and keeps the promises of
unanswered requests by number.  An observer waits in `mSubscriptionObservers`
for the answer to its subscription, is notified while it is in `mObservers`
and waits in `mRecoverObservers` to be subscribed again after a reconnect.

Every request has a ticket of its own.  It names the promise of the request
and, for a subscription, the observer that was passed.
-/

namespace Anbox.Vis.VisClient

open Anbox.Foundation.Fallible
open Anbox.Foundation.OrderedMap
open Anbox.Vis.Messages
open Std (TreeMap)

abbrev Ticket := Nat

/-- Identity of a `uWS::WebSocket`. -/
abbrev WebSocket := Nat

inductive ConnState where
  | disconnected
  | connecting
  | connected
deriving DecidableEq, Repr

inductive Status where
  | ok
  | invalidState
  | unknownError
deriving DecidableEq, Repr

/-- The user data of a connection. -/
inductive ConnectionMode where
  | nonSsl
  | ssl
  /-- Any other value. -/
  | unexpected
deriving DecidableEq, Repr

structure WMessageResult where
  status : Status
  subscriptionId : UInt64
  commandResult : CommandResult

structure SubscriptionRequest where
  handler : Ticket
  propertyName : String
  requestId : Int
deriving DecidableEq, Repr

inductive Promise where
  /-- The caller of a request holds the future. -/
  | request (ticket : Ticket)
  /-- The promise of a subscription that `poll` recovers; it has no future. -/
  | recovery
deriving DecidableEq, Repr

/-- What a request asks the server for. -/
inductive Request where
  | get (path : String)
  | set (path value : String)
  | subscribe (path : String)
  | unsubscribe (subscriptionId : String)
  | unsubscribeAll
deriving DecidableEq, Repr

/-- What callers, observers and the server see of a step. -/
inductive Effect where
  | sent (ws : WebSocket) (request : Request) (id : Int)
  /-- A request that was sent with this number returned `Status::OK`. -/
  | accepted (ticket : Ticket) (ws : WebSocket) (id : Int)
  /-- The answer to this number set the value of a promise. -/
  | fulfilled (promise : Promise) (id : Int) (result : WMessageResult)
  /-- A promise was destroyed without a value. -/
  | broken (promise : Promise)
  /-- The subscription of an observer was answered with success. -/
  | subscribed (observer : Ticket)
  | unsubscribed (observer : Ticket)
  | unsubscribedAll
  | notified (observer : Ticket) (result : CommandResult)

structure Client where
  requestId : Int
  connectedState : ConnState
  ws : Option WebSocket
  subscriptionObservers : TreeMap Int SubscriptionRequest
  observers : TreeMap Int SubscriptionRequest
  promised : TreeMap Int Promise
  recoverObservers : TreeMap Int SubscriptionRequest

/-- The client after `init`, which ends in `doInit`. -/
def Client.initial : Client := ⟨0, .connecting, none, ∅, ∅, ∅, ∅⟩

/-! ## Requests

These are the parts of the requests under `mLock`.  Before it takes the lock,
each request returns `INVALID_STATE` if the client is disconnected.
-/

/-- Send a numbered request; `none` if there is no web socket. -/
def sendWSMessage (client : Client) :
    Option (Client × WebSocket × Int) :=
  match client.ws with
  | none => none
  | some ws =>
      some ({ client with requestId := client.requestId + 1 }, ws,
        client.requestId + 1)

/-- `mPromised.emplace` keeps an entry and then destroys the new promise. -/
def emplacePromise (client : Client) (id : Int) (promise : Promise) :
    Client × List Effect :=
  ({ client with promised := client.promised.insertIfNew id promise },
    if client.promised.contains id then [.broken promise] else [])

/-- `mSubscriptionObservers.insert` keeps an entry that is there already. -/
def insertObserver (client : Client) (id : Int)
    (request : SubscriptionRequest) : Client :=
  { client with
    subscriptionObservers :=
      client.subscriptionObservers.insertIfNew id request }

/-- Hand out the promise of a request that was sent. -/
def awaitAnswer (client : Client) (ticket : Ticket) (request : Request)
    (ws : WebSocket) (id : Int) : Client × Status × List Effect :=
  let (next, effects) := emplacePromise client id (.request ticket)
  (next, .ok, .sent ws request id :: effects ++ [.accepted ticket ws id])

/-- Send a request whose answer is only waited for. -/
def sendRequest (client : Client) (ticket : Ticket) (request : Request) :
    Client × Status × List Effect :=
  match sendWSMessage client with
  | none => (client, .unknownError, [])
  | some (next, ws, id) => awaitAnswer next ticket request ws id

/-- Send a request that comes with an observer. -/
def sendObserverRequest (client : Client) (ticket : Ticket)
    (request : Request) (propertyName : String) :
    Client × Status × List Effect :=
  match sendWSMessage client with
  | none => (client, .unknownError, [])
  | some (next, ws, id) =>
      awaitAnswer (insertObserver next id ⟨ticket, propertyName, id⟩) ticket
        request ws id

def getProperty (client : Client) (ticket : Ticket)
    (propertyPath : String) : Client × Status × List Effect :=
  sendRequest client ticket (.get propertyPath)

/-- Unlike its siblings this counts the request before it looks for `mWs`. -/
def setProperty (client : Client) (ticket : Ticket)
    (propertyPath propertyValue : String) : Client × Status × List Effect :=
  let counted := { client with requestId := client.requestId + 1 }
  match counted.ws with
  | none => (counted, .unknownError, [])
  | some ws =>
      awaitAnswer counted ticket (.set propertyPath propertyValue) ws
        counted.requestId

def subscribeProperty (client : Client) (ticket : Ticket)
    (propertyName : String) : Client × Status × List Effect :=
  sendObserverRequest client ticket (.subscribe propertyName) propertyName

def unsubscribe (client : Client) (ticket : Ticket)
    (subscriptionId : String) : Client × Status × List Effect :=
  sendObserverRequest client ticket (.unsubscribe subscriptionId)
    subscriptionId

def unsubscribeAll (client : Client) (ticket : Ticket) :
    Client × Status × List Effect :=
  sendRequest client ticket .unsubscribeAll

def perform (client : Client) (ticket : Ticket) :
    Request → Client × Status × List Effect
  | .get path => getProperty client ticket path
  | .set path value => setProperty client ticket path value
  | .subscribe path => subscribeProperty client ticket path
  | .unsubscribe subscriptionId => unsubscribe client ticket subscriptionId
  | .unsubscribeAll => unsubscribeAll client ticket

/-- The ways in which the locked part of a request changes the client. -/
inductive Requested (client : Client) (ticket : Ticket) :
    Client → List Effect → Prop where
  /-- There is no web socket; `setProperty` has counted the request. -/
  | refused (counted : Int) (unsent : client.ws = none) :
      Requested client ticket { client with requestId := counted } []
  /-- The request was sent; an observer may have been put down. -/
  | sent {ws : WebSocket} {observers : TreeMap Int SubscriptionRequest}
      (request : Request) (connected : client.ws = some ws)
      (putDown :
        observers = client.subscriptionObservers ∨
          ∃ propertyName,
            observers =
              client.subscriptionObservers.insertIfNew
                (client.requestId + 1)
                ⟨ticket, propertyName, client.requestId + 1⟩) :
      Requested client ticket
        { client with
          requestId := client.requestId + 1
          subscriptionObservers := observers
          promised :=
            client.promised.insertIfNew (client.requestId + 1)
              (.request ticket) }
        (.sent ws request (client.requestId + 1) ::
          (if client.promised.contains (client.requestId + 1) then
            [.broken (.request ticket)] else []) ++
          [.accepted ticket ws (client.requestId + 1)])

theorem sendWSMessage_of_ws {client : Client} {ws : WebSocket}
    (connected : client.ws = some ws) :
    sendWSMessage client =
      some ({ client with requestId := client.requestId + 1 }, ws,
        client.requestId + 1) := by
  unfold sendWSMessage
  split
  · next missing =>
    rw [missing] at connected
    cases connected
  · next other found =>
    rw [connected] at found
    cases found
    rfl

theorem sendWSMessage_of_none {client : Client}
    (missing : client.ws = none) :
    sendWSMessage client = none := by
  simp only [sendWSMessage, missing]

theorem sendRequest_requested (client : Client) (ticket : Ticket)
    (request : Request) :
    Requested client ticket (sendRequest client ticket request).1
      (sendRequest client ticket request).2.2 := by
  cases connected : client.ws with
  | none =>
      simp only [sendRequest, sendWSMessage_of_none connected]
      exact .refused client.requestId connected
  | some ws =>
      simp only [sendRequest, sendWSMessage_of_ws connected]
      exact .sent request connected (Or.inl rfl)

theorem sendObserverRequest_requested (client : Client) (ticket : Ticket)
    (request : Request) (propertyName : String) :
    Requested client ticket
      (sendObserverRequest client ticket request propertyName).1
      (sendObserverRequest client ticket request propertyName).2.2 := by
  cases connected : client.ws with
  | none =>
      simp only [sendObserverRequest, sendWSMessage_of_none connected]
      exact .refused client.requestId connected
  | some ws =>
      simp only [sendObserverRequest, sendWSMessage_of_ws connected]
      exact .sent request connected (Or.inr ⟨propertyName, rfl⟩)

theorem perform_requested (client : Client) (ticket : Ticket)
    (request : Request) :
    Requested client ticket (perform client ticket request).1
      (perform client ticket request).2.2 := by
  cases request with
  | get path => exact sendRequest_requested client ticket (.get path)
  | set path value =>
      simp only [perform, setProperty]
      split
      · next missing => exact .refused (client.requestId + 1) missing
      · next connected => exact .sent (.set path value) connected (Or.inl rfl)
  | subscribe path =>
      exact sendObserverRequest_requested client ticket (.subscribe path) path
  | unsubscribe subscriptionId =>
      exact sendObserverRequest_requested client ticket
        (.unsubscribe subscriptionId) subscriptionId
  | unsubscribeAll => exact sendRequest_requested client ticket .unsubscribeAll

/-! ## Polling -/

def doInit (client : Client) : Client :=
  { client with requestId := 0, connectedState := .connecting }

/-- One round of the recovery loop of `poll`. -/
def recoverObserver (progress : Client × List Effect)
    (entry : Int × SubscriptionRequest) : Client × List Effect :=
  match sendWSMessage progress.1 with
  | none => progress
  | some (sent, ws, id) =>
      let inserted := insertObserver sent id { entry.2 with requestId := id }
      let (next, effects) := emplacePromise inserted id .recovery
      ({ next with
        recoverObservers := next.recoverObservers.erase entry.1 },
        progress.2 ++
          .sent ws (.subscribe entry.2.propertyName) id :: effects)

/-- What a round of the recovery loop moves. -/
theorem recoverObserver_of_ws {progress : Client × List Effect}
    {ws : WebSocket} (connected : progress.1.ws = some ws)
    (entry : Int × SubscriptionRequest) :
    (recoverObserver progress entry).1 =
      { progress.1 with
        requestId := progress.1.requestId + 1
        subscriptionObservers :=
          progress.1.subscriptionObservers.insertIfNew
            (progress.1.requestId + 1)
            { entry.2 with requestId := progress.1.requestId + 1 }
        promised :=
          progress.1.promised.insertIfNew (progress.1.requestId + 1)
            .recovery
        recoverObservers := progress.1.recoverObservers.erase entry.1 } := by
  simp only [recoverObserver, sendWSMessage_of_ws connected]
  rfl

theorem recoverObserver_of_none {progress : Client × List Effect}
    (missing : progress.1.ws = none) (entry : Int × SubscriptionRequest) :
    recoverObserver progress entry = progress := by
  simp only [recoverObserver, sendWSMessage_of_none missing]

/-- What every round keeps holds after the recovery loop. -/
theorem foldl_recoverObserver {Invariant : Client → Prop}
    {entries : List (Int × SubscriptionRequest)}
    (preserved :
      ∀ progress, ∀ entry ∈ entries, Invariant progress.1 →
        Invariant (recoverObserver progress entry).1)
    {progress : Client × List Effect} (initial : Invariant progress.1) :
    Invariant (entries.foldl recoverObserver progress).1 := by
  induction entries generalizing progress with
  | nil => exact initial
  | cons entry entries inductionHypothesis =>
      apply inductionHypothesis
      · intro later other member
        exact preserved later other (List.mem_cons_of_mem entry member)
      · exact preserved progress entry List.mem_cons_self initial

/--
The part of `poll` before `mHub.poll`.  The flag says whether the hub was asked
to connect.
-/
def poll (client : Client) : Client × List Effect × Bool :=
  match client.connectedState with
  | .disconnected => (doInit client, [], true)
  | .connected =>
      let (next, effects) :=
        client.recoverObservers.toList.foldl recoverObserver (client, [])
      (next, effects, false)
  | .connecting => (client, [], false)

/-! ## Events of the hub -/

def handleServerDisconnect (client : Client) : Client :=
  { client with connectedState := .disconnected, ws := none }

def handleError (client : Client) : Client :=
  handleServerDisconnect client

def handleDisconnection (client : Client) : Client :=
  handleServerDisconnect client

def handleTransfer (client : Client) : Client :=
  { client with ws := none }

/-- `mRecoverObservers.emplace` of every entry of `mObservers`. -/
def moveObservers (client : Client) : TreeMap Int SubscriptionRequest :=
  insertAllIfNew client.recoverObservers client.observers.toList

/-- `none` is the `abort` after "Race between recovery and connect". -/
def handleConnection (client : Client) (ws : WebSocket) :
    ConnectionMode → Option Client
  | .ssl =>
      if 0 < client.recoverObservers.size ∧ 0 < client.observers.size then
        none
      else
        some { client with
          connectedState := .connected
          ws := some ws
          recoverObservers := moveObservers client
          observers := ∅
          subscriptionObservers := ∅ }
  | .nonSsl | .unexpected => some { client with ws := none }

theorem handleConnection_promised {client next : Client} {ws : WebSocket}
    {mode : ConnectionMode}
    (established : handleConnection client ws mode = some next) :
    next.promised = client.promised := by
  cases mode with
  | ssl =>
      simp only [handleConnection] at established
      split at established
      · cases established
      · cases established
        rfl
  | nonSsl | unexpected =>
      cases established
      rfl

/-! ## Responses -/

/-- Set the value of the promise with this number, if there is one. -/
def setValue (client : Client) (requestId : Int) (result : WMessageResult) :
    Client × List Effect :=
  match client.promised[requestId]? with
  | none => (client, [])
  | some promise =>
      ({ client with promised := client.promised.erase requestId },
        [.fulfilled promise requestId result])

/-- The answer carries an error. -/
def setError (client : Client) (requestId : Int) : Client × List Effect :=
  setValue client requestId
    ⟨.unknownError, UInt64.ofInt requestId, ∅⟩

def handleVisResponceGet (client : Client) (result : CommandResult) :
    Except Fault (Client × List Effect) := do
  match ← findId result kRequestIdTag with
  | none => return (client, [])
  | some requestId =>
      if result.contains kErrorTag then
        return setError client requestId
      else if !result.contains kValueTag then
        return (client, [])
      else if !result.contains kTimestampTag then
        return (client, [])
      else
        return setValue client requestId
          ⟨.ok, UInt64.ofInt requestId, result⟩

def handleVisResponceSet (client : Client) (result : CommandResult) :
    Except Fault (Client × List Effect) := do
  match ← findId result kRequestIdTag with
  | none => return (client, [])
  | some requestId =>
      if result.contains kErrorTag then
        return setError client requestId
      else if !result.contains kTimestampTag then
        return (client, [])
      else
        return setValue client requestId ⟨.ok, UInt64.ofInt requestId, ∅⟩

/-- An error leaves the observer in `mSubscriptionObservers`. -/
def handleVisResponceSubscribe (client : Client) (result : CommandResult) :
    Except Fault (Client × List Effect) := do
  match ← findId result kRequestIdTag with
  | none => return (client, [])
  | some requestId =>
      if result.contains kErrorTag then
        return setError client requestId
      else
        match ← findId result kSubscriptionIdTag with
        | none => return (client, [])
        | some subscriptionId =>
            if !result.contains kTimestampTag then
              return (client, [])
            else
              match client.subscriptionObservers[requestId]? with
              | none =>
                  return setValue client requestId
                    ⟨.unknownError, UInt64.ofInt subscriptionId, ∅⟩
              | some request =>
                  match client.promised[requestId]? with
                  | none => return (client, [])
                  | some promise =>
                      return ({ client with
                        observers :=
                          client.observers.insertIfNew subscriptionId request
                        subscriptionObservers :=
                          client.subscriptionObservers.erase requestId
                        promised := client.promised.erase requestId },
                        [.subscribed request.handler,
                          .fulfilled promise requestId
                            ⟨.ok, UInt64.ofInt subscriptionId, ∅⟩])

def handleVisResponceUnsubscribe (client : Client)
    (result : CommandResult) : Except Fault (Client × List Effect) := do
  match ← findId result kRequestIdTag with
  | none => return (client, [])
  | some requestId =>
      match ← findId result kSubscriptionIdTag with
      | none => return (client, [])
      | some subscriptionId =>
          if !result.contains kTimestampTag then
            return (client, [])
          else if result.contains kErrorTag then
            return setError client requestId
          else
            match client.promised[requestId]? with
            | none => return (client, [])
            | some promise =>
                return ({ client with
                  subscriptionObservers :=
                    client.subscriptionObservers.erase requestId
                  observers := client.observers.erase subscriptionId
                  promised := client.promised.erase requestId },
                  (client.observers[subscriptionId]?.map fun request =>
                      Effect.unsubscribed request.handler).toList ++
                    [.fulfilled promise requestId
                      ⟨.ok, UInt64.ofInt subscriptionId, ∅⟩])

def handleVisResponceUnsubscribeAll (client : Client)
    (result : CommandResult) : Except Fault (Client × List Effect) := do
  match ← findId result kRequestIdTag with
  | none => return (client, [])
  | some requestId =>
      if !result.contains kTimestampTag then
        return (client, [])
      else if result.contains kErrorTag then
        return setError client requestId
      else
        match client.promised[requestId]? with
        | none => return (client, [])
        | some promise =>
            return ({ client with
              observers := ∅
              promised := client.promised.erase requestId },
              [.unsubscribedAll, .fulfilled promise requestId ⟨.ok, 0, ∅⟩])

def handleVisResponceSubscription (client : Client)
    (result : CommandResult) : Except Fault (Client × List Effect) := do
  match ← findId result kSubscriptionIdTag with
  | none => return (client, [])
  | some subscriptionId =>
      if !result.contains kValueTag then
        return (client, [])
      else if !result.contains kTimestampTag then
        return (client, [])
      else
        match client.observers[subscriptionId]? with
        | none => return (client, [])
        | some request => return (client, [.notified request.handler result])

def handleVisResponce (client : Client) (result : CommandResult) :
    Except Fault (Client × List Effect) := do
  match result[kActionTag]? with
  -- `at` throws `std::out_of_range`
  | none => .error .exception
  | some value => do
      let action := cString (← asString value)
      if action = kActionGetTag.toList then
        handleVisResponceGet client result
      else if action = kActionSubscribeTag.toList then
        handleVisResponceSubscribe client result
      else if action = kActionSubscriptionTag.toList then
        handleVisResponceSubscription client result
      else if action = kActionUnsubscribeTag.toList then
        handleVisResponceUnsubscribe client result
      else if action = kActionUnsubscribeAllTag.toList then
        handleVisResponceUnsubscribeAll client result
      else if action = kActionSetTag.toList then
        handleVisResponceSet client result
      else
        return (client, [])

/-! ## What a response can do -/

/-- The action of a response. -/
def HasAction (result : CommandResult) (action : String) : Prop :=
  ∃ value text,
    result[kActionTag]? = some value ∧ asString value = .ok text ∧
      cString text = action.toList

/-- A response that reports the success of a subscribe request. -/
structure SubscribeAnswer (result : CommandResult)
    (requestId subscriptionId : Int) : Prop where
  action : HasAction result kActionSubscribeTag
  request : findId result kRequestIdTag = .ok (some requestId)
  noError : result.contains kErrorTag = false
  subscription : findId result kSubscriptionIdTag = .ok (some subscriptionId)
  timestamp : result.contains kTimestampTag = true

/-- A response that reports the success of an unsubscribe request. -/
structure UnsubscribeAnswer (result : CommandResult)
    (requestId subscriptionId : Int) : Prop where
  action : HasAction result kActionUnsubscribeTag
  request : findId result kRequestIdTag = .ok (some requestId)
  subscription : findId result kSubscriptionIdTag = .ok (some subscriptionId)
  timestamp : result.contains kTimestampTag = true
  noError : result.contains kErrorTag = false

/-- The ways in which a response changes the client. -/
inductive Answered (client : Client) (response : CommandResult) :
    Client → List Effect → Prop where
  | ignored : Answered client response client []
  | notified (observer : Ticket) :
      Answered client response client [.notified observer response]
  /-- A promise gets its value and no observer is concerned. -/
  | settled {id : Int} {promise : Promise} (result : WMessageResult)
      (found : client.promised[id]? = some promise) :
      Answered client response
        { client with promised := client.promised.erase id }
        [.fulfilled promise id result]
  | subscribed {id subscriptionId : Int} {promise : Promise}
      {request : SubscriptionRequest} (result : WMessageResult)
      (answer : SubscribeAnswer response id subscriptionId)
      (waiting : client.subscriptionObservers[id]? = some request)
      (found : client.promised[id]? = some promise) :
      Answered client response
        { client with
          observers := client.observers.insertIfNew subscriptionId request
          subscriptionObservers := client.subscriptionObservers.erase id
          promised := client.promised.erase id }
        [.subscribed request.handler, .fulfilled promise id result]
  | unsubscribed {id subscriptionId : Int} {promise : Promise}
      (result : WMessageResult)
      (answer : UnsubscribeAnswer response id subscriptionId)
      (found : client.promised[id]? = some promise) :
      Answered client response
        { client with
          subscriptionObservers := client.subscriptionObservers.erase id
          observers := client.observers.erase subscriptionId
          promised := client.promised.erase id }
        ((client.observers[subscriptionId]?.map fun request =>
            Effect.unsubscribed request.handler).toList ++
          [.fulfilled promise id result])
  | unsubscribedAll {id : Int} {promise : Promise} (result : WMessageResult)
      (found : client.promised[id]? = some promise) :
      Answered client response
        { client with
          observers := ∅
          promised := client.promised.erase id }
        [.unsubscribedAll, .fulfilled promise id result]

theorem setValue_answered (client : Client) (response : CommandResult)
    (requestId : Int) (result : WMessageResult) :
    Answered client response (setValue client requestId result).1
      (setValue client requestId result).2 := by
  unfold setValue
  split
  · exact .ignored
  · next found => exact .settled result found

section

variable {client next : Client} {response : CommandResult}
  {effects : List Effect}

theorem Answered.of_return {answer : Client × List Effect}
    (answered : Answered client response answer.1 answer.2)
    (returned : (pure answer : Except Fault _) = .ok (next, effects)) :
    Answered client response next effects := by
  cases returned
  exact answered

theorem handleVisResponceGet_answered
    (returned : handleVisResponceGet client response = .ok (next, effects)) :
    Answered client response next effects := by
  rcases ok_of_bind returned with ⟨found, -, continued⟩
  split at continued
  · exact .of_return .ignored continued
  · split at continued
    · exact .of_return (setValue_answered ..) continued
    · split at continued
      · exact .of_return .ignored continued
      · split at continued
        · exact .of_return .ignored continued
        · exact .of_return (setValue_answered ..) continued

theorem handleVisResponceSet_answered
    (returned : handleVisResponceSet client response = .ok (next, effects)) :
    Answered client response next effects := by
  rcases ok_of_bind returned with ⟨found, -, continued⟩
  split at continued
  · exact .of_return .ignored continued
  · split at continued
    · exact .of_return (setValue_answered ..) continued
    · split at continued
      · exact .of_return .ignored continued
      · exact .of_return (setValue_answered ..) continued

theorem handleVisResponceSubscribe_answered
    (action : HasAction response kActionSubscribeTag)
    (returned :
      handleVisResponceSubscribe client response = .ok (next, effects)) :
    Answered client response next effects := by
  rcases ok_of_bind returned with ⟨found, request, continued⟩
  split at continued
  · exact .of_return .ignored continued
  · split at continued
    · exact .of_return (setValue_answered ..) continued
    · next noError =>
      rcases ok_of_bind continued with ⟨found, subscription, continued⟩
      split at continued
      · exact .of_return .ignored continued
      · split at continued
        · exact .of_return .ignored continued
        · next timestamp =>
          split at continued
          · exact .of_return (setValue_answered ..) continued
          · next waiting =>
            split at continued
            · exact .of_return .ignored continued
            · next found =>
              have answer : SubscribeAnswer response _ _ :=
                ⟨action, request, Bool.eq_false_iff.mpr noError, subscription,
                  by simpa using timestamp⟩
              exact .of_return (.subscribed _ answer waiting found) continued

theorem handleVisResponceUnsubscribe_answered
    (action : HasAction response kActionUnsubscribeTag)
    (returned :
      handleVisResponceUnsubscribe client response = .ok (next, effects)) :
    Answered client response next effects := by
  rcases ok_of_bind returned with ⟨found, request, continued⟩
  split at continued
  · exact .of_return .ignored continued
  · rcases ok_of_bind continued with ⟨found, subscription, continued⟩
    split at continued
    · exact .of_return .ignored continued
    · split at continued
      · exact .of_return .ignored continued
      · next timestamp =>
        split at continued
        · exact .of_return (setValue_answered ..) continued
        · next noError =>
          split at continued
          · exact .of_return .ignored continued
          · next found =>
            have answer : UnsubscribeAnswer response _ _ :=
              ⟨action, request, subscription, by simpa using timestamp,
                Bool.eq_false_iff.mpr noError⟩
            exact .of_return (.unsubscribed _ answer found) continued

theorem handleVisResponceUnsubscribeAll_answered
    (returned :
      handleVisResponceUnsubscribeAll client response =
        .ok (next, effects)) :
    Answered client response next effects := by
  rcases ok_of_bind returned with ⟨found, -, continued⟩
  split at continued
  · exact .of_return .ignored continued
  · split at continued
    · exact .of_return .ignored continued
    · split at continued
      · exact .of_return (setValue_answered ..) continued
      · split at continued
        · exact .of_return .ignored continued
        · next found =>
          exact .of_return (.unsubscribedAll _ found) continued

theorem handleVisResponceSubscription_answered
    (returned :
      handleVisResponceSubscription client response = .ok (next, effects)) :
    Answered client response next effects := by
  rcases ok_of_bind returned with ⟨found, -, continued⟩
  split at continued
  · exact .of_return .ignored continued
  · split at continued
    · exact .of_return .ignored continued
    · split at continued
      · exact .of_return .ignored continued
      · split at continued
        · exact .of_return .ignored continued
        · exact .of_return (.notified _) continued

/-- Whatever the server sends, a response does one of these things. -/
theorem handleVisResponce_answered
    (returned : handleVisResponce client response = .ok (next, effects)) :
    Answered client response next effects := by
  unfold handleVisResponce at returned
  split at returned
  · cases returned
  · next value named =>
    rcases ok_of_bind returned with ⟨text, read, continued⟩
    simp only at continued
    split at continued
    · exact handleVisResponceGet_answered continued
    · split at continued
      · next subscribe =>
        exact handleVisResponceSubscribe_answered
          ⟨value, text, named, read, subscribe⟩ continued
      · split at continued
        · exact handleVisResponceSubscription_answered continued
        · split at continued
          · next unsubscribe =>
            exact handleVisResponceUnsubscribe_answered
              ⟨value, text, named, read, unsubscribe⟩ continued
          · split at continued
            · exact handleVisResponceUnsubscribeAll_answered continued
            · split at continued
              · exact handleVisResponceSet_answered continued
              · exact .of_return .ignored continued

end

/-- A web socket frame; a text frame comes with what the reader parsed. -/
inductive Frame where
  | text (parsed : Option Json)
  | other

def handleMessage (client : Client) :
    Frame → Except Fault (Client × List Effect)
  | .text none => .ok (client, [])
  | .text (some value) => do
      let result ← parseJsonToStrings kAllTag ∅ value
      handleVisResponce client result
  | .other => .ok ({ client with ws := none }, [])

theorem handleMessage_text_answered {client next : Client} {value : Json}
    {effects : List Effect}
    (returned :
      handleMessage client (.text (some value)) = .ok (next, effects)) :
    ∃ response,
      parseJsonToStrings kAllTag ∅ value = .ok response ∧
        Answered client response next effects := by
  rcases ok_of_bind returned with ⟨response, parsed, continued⟩
  exact ⟨response, parsed, handleVisResponce_answered continued⟩

end Anbox.Vis.VisClient
