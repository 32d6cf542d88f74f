import Anbox.Vis.Completion
import Anbox.Vis.RequestMatching

/-!
# The tables of observers after an answer

The observer of a subscription waits under its request number and moves to the
table of notified observers when the subscription is accepted.  This module
determines the answers after which both tables are as the answered request
demands.

Beside the session it keeps a record of what the promise under each number was
made for, because a number is given out again after a reconnect.
-/

namespace Anbox.Vis.Bookkeeping

open Anbox.Foundation.Fallible
open Anbox.Foundation.OrderedMap
open Anbox.Foundation.Runs
open Anbox.Vis.Completion
open Anbox.Vis.FrameSurvival
open Anbox.Vis.Messages
open Anbox.Vis.Session (Label WellConnected)
open Anbox.Vis.VisClient
open Std (TreeMap)

/-! ## What promises were made for -/

/-- The request of a promise, with the observer that was passed. -/
structure Asked where
  request : Request
  observer : Ticket
deriving DecidableEq, Repr

abbrev Record := TreeMap Int Asked

structure State where
  session : Session.State
  asked : Record

def State.initial : State := ⟨Session.State.initial, ∅⟩

/-- Record a subscription that `poll` recovers. -/
def recordRecovery (progress : Int × Record)
    (entry : Int × SubscriptionRequest) : Int × Record :=
  (progress.1 + 1,
    progress.2.insertIfNew (progress.1 + 1)
      ⟨.subscribe entry.2.propertyName, entry.2.handler⟩)

/-- Record the requests that a step sends; a kept promise stays recorded. -/
def recordRequests (state : State) : Label → Record
  | .request ticket =>
      match state.session.waiting ticket, state.session.client.ws with
      | some request, some _ =>
          state.asked.insertIfNew (state.session.client.requestId + 1)
            ⟨request, ticket⟩
      | _, _ => state.asked
  | .poll =>
      match state.session.client.connectedState,
        state.session.client.ws with
      | .connected, some _ =>
          (state.session.client.recoverObservers.toList.foldl recordRecovery
            (state.session.client.requestId, state.asked)).2
      | _, _ => state.asked
  | _ => state.asked

/-- The session takes a step, and what is recorded of lost promises goes. -/
def step (state : State) (label : Label) : State :=
  if state.session.halted.isSome then state
  else
    let next := Session.advance state.session label
    ⟨next,
      (recordRequests state label).filter fun id _ =>
        next.client.promised.contains id⟩

def after (labels : List Label) : State :=
  runFrom step State.initial labels

/-- What a request with this promise asks for. -/
def Asked.MadeBy (asked : Asked) : Promise → Prop
  | .request ticket => asked.observer = ticket
  | .recovery => ∃ path, asked.request = .subscribe path

/-- Exactly the kept promises are recorded. -/
structure Recorded (promised : TreeMap Int Promise) (asked : Record) :
    Prop where
  known :
    ∀ (id : Int) promise, promised[id]? = some promise →
      ∃ request, asked[id]? = some request ∧ request.MadeBy promise
  kept : ∀ id ∈ asked, id ∈ promised

section

variable {promised kept : TreeMap Int Promise} {asked : Record}

/-- What is recorded of promises that are gone is forgotten. -/
theorem Recorded.forget (recorded : Recorded promised asked)
    (inside :
      ∀ (id : Int) promise, kept[id]? = some promise →
        promised[id]? = some promise) :
    Recorded kept (asked.filter fun id _ => kept.contains id) where
  known := by
    intro id promise found
    rcases recorded.known id promise (inside id promise found) with
      ⟨request, known, made⟩
    refine ⟨request, ?_, made⟩
    rw [TreeMap.getElem?_filter', known]
    simp [TreeMap.contains_eq_isSome_getElem?, found]
  kept := by
    intro id member
    rw [TreeMap.mem_iff_isSome_getElem?, TreeMap.getElem?_filter'] at member
    cases found : asked[id]? with
    | none => simp [found] at member
    | some request =>
        by_cases present : kept.contains id = true
        · exact TreeMap.contains_iff_mem.mp present
        · simp [found, present] at member

/-- A promise and its record are put down together. -/
theorem Recorded.insertIfNew (recorded : Recorded promised asked)
    {request : Asked} {promise : Promise} (made : request.MadeBy promise)
    (id : Int) :
    Recorded (promised.insertIfNew id promise)
      (asked.insertIfNew id request) where
  known := by
    intro other value found
    rcases getElem?_insertIfNew_eq_some found with old | ⟨rfl, rfl⟩
    · rcases recorded.known other value old with ⟨before, known, madeBefore⟩
      exact ⟨before, getElem?_insertIfNew_of_some known id request,
        madeBefore⟩
    · by_cases present : other ∈ promised
      · rcases Option.isSome_iff_exists.mp
            (TreeMap.mem_iff_isSome_getElem?.mp present) with ⟨old, held⟩
        rw [getElem?_insertIfNew_of_some held, Option.some.injEq] at found
        rcases recorded.known other old held with
          ⟨before, known, madeBefore⟩
        exact ⟨before, getElem?_insertIfNew_of_some known other request,
          found ▸ madeBefore⟩
      · have absent : other ∉ asked :=
          fun member => present (recorded.kept other member)
        refine ⟨request, ?_, made⟩
        rw [getElem?_insertIfNew_of_fresh absent, if_pos rfl]
  kept := by
    intro other member
    rcases TreeMap.mem_insertIfNew.mp member with same | old
    · exact TreeMap.mem_insertIfNew.mpr (Or.inl same)
    · exact TreeMap.mem_insertIfNew.mpr (Or.inr (recorded.kept other old))

end

/-- The rounds of the recovery loop and their records go together. -/
theorem recorded_recover {ws : WebSocket}
    (entries : List (Int × SubscriptionRequest)) (effects : List Effect)
    {client : Client} {asked : Record} (connected : client.ws = some ws)
    (recorded : Recorded client.promised asked) :
    Recorded (entries.foldl recoverObserver (client, effects)).1.promised
      (entries.foldl recordRecovery (client.requestId, asked)).2 := by
  induction entries generalizing client effects asked with
  | nil => exact recorded
  | cons entry entries inductionHypothesis =>
      have round := @recoverObserver_of_ws (client, effects) ws connected entry
      have online : (recoverObserver (client, effects) entry).1.ws = some ws := by
        rw [round]
        exact connected
      have counted :
          (recoverObserver (client, effects) entry).1.requestId =
            client.requestId + 1 := by
        rw [round]
      have put :
          Recorded (recoverObserver (client, effects) entry).1.promised
            (recordRecovery (client.requestId, asked) entry).2 := by
        have made :
            Asked.MadeBy ⟨.subscribe entry.2.propertyName, entry.2.handler⟩
              .recovery :=
          ⟨_, rfl⟩
        rw [round]
        exact recorded.insertIfNew made _
      have rest := inductionHypothesis
        (recoverObserver (client, effects) entry).2 online put
      rw [counted] at rest
      exact rest

theorem step_session (state : State) (label : Label) :
    (step state label).session = Session.step state.session label := by
  unfold step Session.step
  split
  · rfl
  · rfl

/-- A state in which exactly the kept promises are recorded. -/
def Faithful (state : State) : Prop :=
  Recorded state.session.client.promised state.asked

/-- A step that puts down no promise keeps the record. -/
theorem Faithful.kept {state : State} {next : Session.State}
    (faithful : Faithful state)
    (inside :
      ∀ (id : Int) promise, next.client.promised[id]? = some promise →
        state.session.client.promised[id]? = some promise) :
    Faithful
      ⟨next, state.asked.filter fun id _ => next.client.promised.contains id⟩ :=
  Recorded.forget faithful inside

/-- A request that is sent puts its promise down. -/
theorem perform_promised (client : Client) (ticket : Ticket)
    (request : Request) :
    (perform client ticket request).1.promised =
      if client.ws.isSome then
        client.promised.insertIfNew (client.requestId + 1) (.request ticket)
      else client.promised := by
  have requested := perform_requested client ticket request
  generalize perform client ticket request = result at requested ⊢
  rcases result with ⟨next, status, effects⟩
  cases requested with
  | refused counted unsent => simp [unsent]
  | sent sentRequest connected putDown => simp [connected]

theorem Faithful.request {state : State} (faithful : Faithful state)
    (ticket : Ticket) :
    Faithful
      ⟨Session.advance state.session (.request ticket),
        (recordRequests state (.request ticket)).filter fun id _ =>
          (Session.advance state.session
            (.request ticket)).client.promised.contains id⟩ := by
  simp only [Session.advance, recordRequests]
  cases waiting : state.session.waiting ticket with
  | none => exact faithful.kept fun _ _ found => found
  | some request =>
      have promised := perform_promised state.session.client ticket request
      cases connected : state.session.client.ws with
      | none =>
          simp only [Faithful, promised, connected]
          exact Recorded.forget faithful fun _ _ found => found
      | some ws =>
          have made : Asked.MadeBy ⟨request, ticket⟩ (.request ticket) := rfl
          simp only [Faithful, promised, connected]
          exact Recorded.forget (Recorded.insertIfNew faithful made _)
            fun _ _ found => found

/-- Without a web socket the recovery loop does nothing. -/
theorem foldl_recoverObserver_of_none
    (entries : List (Int × SubscriptionRequest)) {client : Client}
    (missing : client.ws = none) :
    entries.foldl recoverObserver (client, []) = (client, []) := by
  induction entries with
  | nil => rfl
  | cons entry entries inductionHypothesis =>
      rw [List.foldl_cons, @recoverObserver_of_none (client, []) missing]
      exact inductionHypothesis

theorem Faithful.poll {state : State} (faithful : Faithful state) :
    Faithful
      ⟨Session.advance state.session .poll,
        (recordRequests state .poll).filter fun id _ =>
          (Session.advance state.session
            .poll).client.promised.contains id⟩ := by
  cases mode : state.session.client.connectedState with
  | disconnected | connecting =>
      simp only [Session.advance, VisClient.poll, recordRequests, mode]
      exact faithful.kept fun _ _ found => found
  | connected =>
      cases connected : state.session.client.ws with
      | none =>
          simp only [Session.advance, VisClient.poll, recordRequests, mode,
            connected, foldl_recoverObserver_of_none _ connected]
          exact faithful.kept fun _ _ found => found
      | some ws =>
          simp only [Session.advance, VisClient.poll, recordRequests, mode,
            connected]
          exact Recorded.forget (recorded_recover _ [] connected faithful)
            fun _ _ found => found

theorem Faithful.message {state : State} (faithful : Faithful state)
    (ws : WebSocket) (frame : Frame) :
    Faithful
      ⟨Session.advance state.session (.message ws frame),
        (recordRequests state (.message ws frame)).filter fun id _ =>
          (Session.advance state.session
            (.message ws frame)).client.promised.contains id⟩ := by
  refine faithful.kept ?_
  simp only [Session.advance]
  split
  · split
    · exact fun _ _ found => found
    · next client effects handled =>
      cases frame with
      | other =>
          cases handled
          exact fun _ _ found => found
      | text parsed =>
          cases parsed with
          | none =>
              cases handled
              exact fun _ _ found => found
          | some value =>
              rcases handleMessage_text_answered handled with
                ⟨response, -, answered⟩
              have own := RequestMatching.answersPromise_of_answered answered
              exact own.promised
  · exact fun _ _ found => found

theorem Faithful.step {state : State} (faithful : Faithful state)
    (label : Label) : Faithful (step state label) := by
  unfold Bookkeeping.step
  split
  · exact faithful
  · cases label with
    | request ticket => exact faithful.request ticket
    | poll => exact faithful.poll
    | message ws frame => exact faithful.message ws frame
    | connection mode =>
        refine faithful.kept ?_
        simp only [Session.advance]
        split
        · exact fun _ _ found => found
        · split
          · exact fun _ _ found => found
          · next client established =>
            intro id promise found
            rwa [handleConnection_promised established] at found
    | enter request | error | disconnection ws | transfer ws =>
        refine faithful.kept ?_
        simp only [Session.advance]
        split
        · exact fun _ _ found => found
        · exact fun _ _ found => found

theorem faithful_after (labels : List Label) : Faithful (after labels) := by
  refine run_invariant (fun _ label faithful => faithful.step label) ?_ labels
  constructor
  · simp [State.initial, Session.State.initial, Client.initial]
  · simp [State.initial]

/-! ## Answers and the tables they leave -/

/-- A request to begin or to end a subscription. -/
def Asked.ConcernsSubscription (asked : Asked) : Prop :=
  (∃ path, asked.request = .subscribe path) ∨
    ∃ subscriptionId, asked.request = .unsubscribe subscriptionId

/-- The answer reports the success of the request, with a subscription. -/
def Asked.Succeeded (asked : Asked) (response : CommandResult)
    (id subscriptionId : Int) : Prop :=
  (∃ path, asked.request = .subscribe path) ∧
      SubscribeAnswer response id subscriptionId ∨
    (∃ given, asked.request = .unsubscribe given) ∧
      UnsubscribeAnswer response id subscriptionId

/-- The tables of observers are as the answered request demands. -/
structure Settled (asked : Asked) (response : CommandResult) (id : Int)
    (client next : Client) : Prop where
  removed : next.subscriptionObservers[id]? = none
  subscribed :
    ∀ path, asked.request = .subscribe path →
      ∀ subscriptionId, asked.Succeeded response id subscriptionId →
        next.observers[subscriptionId]?.map SubscriptionRequest.handler =
          some asked.observer
  unsubscribed :
    ∀ given, asked.request = .unsubscribe given →
      ∀ subscriptionId, asked.Succeeded response id subscriptionId →
        next.observers[subscriptionId]? = none
  waiting :
    ∀ other : Int, other ≠ id →
      next.subscriptionObservers[other]? =
        client.subscriptionObservers[other]?
  others :
    ∀ other : Int, ¬ asked.Succeeded response id other →
      next.observers[other]? = client.observers[other]?

/-- The answer is not the success of a subscription or of its end. -/
def Unsuccessful (response : CommandResult) (id : Int) : Prop :=
  ∀ subscriptionId,
    ¬ SubscribeAnswer response id subscriptionId ∧
      ¬ UnsubscribeAnswer response id subscriptionId

/--
The answer fits the request and the tables it meets: only the success of a
subscription or of its end takes the waiting observer away, and both have an
effect on the notified observers, whatever the request was.
-/
structure Orderly (asked : Asked) (response : CommandResult) (id : Int)
    (client : Client) : Prop where
  removed :
    Unsuccessful response id → client.subscriptionObservers[id]? = none
  /-- An observer that is already notified under this subscription stays. -/
  subscribed :
    ∀ path, asked.request = .subscribe path →
      ∀ subscriptionId, SubscribeAnswer response id subscriptionId →
        (client.observers[subscriptionId]?.or
            client.subscriptionObservers[id]?).map
          SubscriptionRequest.handler = some asked.observer
  notSubscribed :
    ∀ given, asked.request = .unsubscribe given →
      ∀ subscriptionId, SubscribeAnswer response id subscriptionId →
        client.subscriptionObservers[id]? = none ∨
          client.observers[subscriptionId]? ≠ none
  notUnsubscribed :
    ∀ path, asked.request = .subscribe path →
      ∀ subscriptionId, UnsubscribeAnswer response id subscriptionId →
        client.observers[subscriptionId]? = none
  notAll :
    HasAction response kActionUnsubscribeAllTag →
      response.contains kErrorTag = false →
        ∀ other : Int, client.observers[other]? = none

section

variable {client : Client} {response : CommandResult}
  {id subscriptionId : Int} {asked : Asked}

theorem not_unsubscribeAnswer
    (answer : SubscribeAnswer response id subscriptionId) (other : Int) :
    ¬ UnsubscribeAnswer response id other := by
  intro also
  have same := (hasAction_iff answer.action _).mp also.action
  exact absurd same (by decide)

theorem subscription_unique {other : Int}
    (found : findId response kSubscriptionIdTag = .ok (some subscriptionId))
    (also : findId response kSubscriptionIdTag = .ok (some other)) :
    other = subscriptionId := by
  rw [found] at also
  cases also
  rfl

theorem not_succeeded_of_unsuccessful
    (unsuccessful : Unsuccessful response id) (other : Int) :
    ¬ asked.Succeeded response id other := by
  rintro (⟨-, answer⟩ | ⟨-, answer⟩)
  · exact (unsuccessful other).1 answer
  · exact (unsuccessful other).2 answer

theorem unsuccessful_of_error
    (error : response.contains kErrorTag = true) :
    Unsuccessful response id := by
  refine fun subscriptionId => ⟨fun answer => ?_, fun answer => ?_⟩
  · rw [answer.noError] at error
    cases error
  · rw [answer.noError] at error
    cases error

theorem unsuccessful_of_action {action : String}
    (named : HasAction response action)
    (other :
      action ∈
        [kActionGetTag, kActionSetTag, kActionUnsubscribeAllTag]) :
    Unsuccessful response id := by
  refine fun subscriptionId => ⟨fun answer => ?_, fun answer => ?_⟩
  · obtain rfl := (hasAction_iff named _).mp answer.action
    exact absurd other (by decide)
  · obtain rfl := (hasAction_iff named _).mp answer.action
    exact absurd other (by decide)

theorem settled_iff_of_unsuccessful {next : Client}
    (unsuccessful : Unsuccessful response id)
    (same : next.subscriptionObservers = client.subscriptionObservers) :
    Settled asked response id client next ↔
      client.subscriptionObservers[id]? = none ∧
        ∀ other : Int, next.observers[other]? = client.observers[other]? := by
  have failed := @not_succeeded_of_unsuccessful response id asked unsuccessful
  constructor
  · intro settled
    exact ⟨same ▸ settled.removed,
      fun other => settled.others other (failed other)⟩
  · rintro ⟨removed, others⟩
    refine ⟨same ▸ removed, ?_, ?_, fun other _ => same ▸ rfl,
      fun other _ => others other⟩
    · intro path _ subscriptionId succeeded
      exact absurd succeeded (failed subscriptionId)
    · intro given _ subscriptionId succeeded
      exact absurd succeeded (failed subscriptionId)

theorem orderly_iff_of_unsuccessful
    (unsuccessful : Unsuccessful response id) :
    Orderly asked response id client ↔
      client.subscriptionObservers[id]? = none ∧
        (HasAction response kActionUnsubscribeAllTag →
          response.contains kErrorTag = false →
            ∀ other : Int, client.observers[other]? = none) := by
  constructor
  · intro orderly
    exact ⟨orderly.removed unsuccessful, orderly.notAll⟩
  · rintro ⟨removed, notAll⟩
    refine ⟨fun _ => removed, ?_, ?_, ?_, notAll⟩
    · intro path _ subscriptionId answer
      exact absurd answer (unsuccessful subscriptionId).1
    · intro given _ subscriptionId answer
      exact absurd answer (unsuccessful subscriptionId).1
    · intro path _ subscriptionId answer
      exact absurd answer (unsuccessful subscriptionId).2

theorem orderly_iff_of_subscribeAnswer
    (answer : SubscribeAnswer response id subscriptionId) :
    Orderly asked response id client ↔
      (∀ path, asked.request = .subscribe path →
        (client.observers[subscriptionId]?.or
            client.subscriptionObservers[id]?).map
          SubscriptionRequest.handler = some asked.observer) ∧
      ∀ given, asked.request = .unsubscribe given →
        client.subscriptionObservers[id]? = none ∨
          client.observers[subscriptionId]? ≠ none := by
  have only {other : Int} (also : SubscribeAnswer response id other) :
      other = subscriptionId :=
    subscription_unique answer.subscription also.subscription
  constructor
  · intro orderly
    exact ⟨fun path subscribes =>
        orderly.subscribed path subscribes subscriptionId answer,
      fun given unsubscribes =>
        orderly.notSubscribed given unsubscribes subscriptionId answer⟩
  · rintro ⟨subscribed, notSubscribed⟩
    refine ⟨fun none => absurd answer (none subscriptionId).1, ?_, ?_, ?_, ?_⟩
    · intro path subscribes other also
      rw [only also]
      exact subscribed path subscribes
    · intro given unsubscribes other also
      rw [only also]
      exact notSubscribed given unsubscribes
    · intro path _ other also
      exact absurd also (not_unsubscribeAnswer answer other)
    · intro named
      have same := (hasAction_iff answer.action _).mp named
      exact absurd same (by decide)

theorem orderly_iff_of_unsubscribeAnswer
    (answer : UnsubscribeAnswer response id subscriptionId) :
    Orderly asked response id client ↔
      ∀ path, asked.request = .subscribe path →
        client.observers[subscriptionId]? = none := by
  constructor
  · intro orderly path subscribes
    exact orderly.notUnsubscribed path subscribes subscriptionId answer
  · intro notUnsubscribed
    refine ⟨fun none => absurd answer (none subscriptionId).2, ?_, ?_, ?_, ?_⟩
    · intro path _ other also
      exact absurd answer (not_unsubscribeAnswer also subscriptionId)
    · intro given _ other also
      exact absurd answer (not_unsubscribeAnswer also subscriptionId)
    · intro path subscribes other also
      rw [subscription_unique answer.subscription also.subscription]
      exact notUnsubscribed path subscribes
    · intro named
      have same := (hasAction_iff answer.action _).mp named
      exact absurd same (by decide)

/-- What success means for an answer to a subscription. -/
theorem succeeded_iff_of_subscribeAnswer
    (answer : SubscribeAnswer response id subscriptionId) (other : Int) :
    asked.Succeeded response id other ↔
      (∃ path, asked.request = .subscribe path) ∧ other = subscriptionId := by
  constructor
  · rintro (⟨subscribes, also⟩ | ⟨-, also⟩)
    · exact ⟨subscribes,
        subscription_unique answer.subscription also.subscription⟩
    · exact absurd also (not_unsubscribeAnswer answer other)
  · rintro ⟨subscribes, rfl⟩
    exact Or.inl ⟨subscribes, answer⟩

theorem succeeded_iff_of_unsubscribeAnswer
    (answer : UnsubscribeAnswer response id subscriptionId) (other : Int) :
    asked.Succeeded response id other ↔
      (∃ given, asked.request = .unsubscribe given) ∧
        other = subscriptionId := by
  constructor
  · rintro (⟨-, also⟩ | ⟨unsubscribes, also⟩)
    · exact absurd answer (not_unsubscribeAnswer also subscriptionId)
    · exact ⟨unsubscribes,
        subscription_unique answer.subscription also.subscription⟩
  · rintro ⟨unsubscribes, rfl⟩
    exact Or.inr ⟨unsubscribes, answer⟩

theorem settled_iff_of_subscribeAnswer {next : Client}
    (concerns : asked.ConcernsSubscription)
    (answer : SubscribeAnswer response id subscriptionId)
    (removed : next.subscriptionObservers[id]? = none)
    (waiting :
      ∀ other : Int, other ≠ id →
        next.subscriptionObservers[other]? =
          client.subscriptionObservers[other]?)
    (observers :
      ∀ other : Int, next.observers[other]? =
        if other = subscriptionId then
          client.observers[other]?.or client.subscriptionObservers[id]?
        else client.observers[other]?) :
    Settled asked response id client next ↔
      Orderly asked response id client := by
  rw [orderly_iff_of_subscribeAnswer answer]
  have own : next.observers[subscriptionId]? =
      client.observers[subscriptionId]?.or
        client.subscriptionObservers[id]? := by
    rw [observers, if_pos rfl]
  constructor
  · intro settled
    refine ⟨fun path subscribes => ?_, fun given unsubscribes => ?_⟩
    · rw [← own]
      exact settled.subscribed path subscribes subscriptionId
        (Or.inl ⟨⟨path, subscribes⟩, answer⟩)
    · have failed : ¬ asked.Succeeded response id subscriptionId := by
        rw [succeeded_iff_of_subscribeAnswer answer]
        rintro ⟨⟨path, subscribes⟩, -⟩
        rw [subscribes] at unsubscribes
        cases unsubscribes
      have same := settled.others subscriptionId failed
      rw [own] at same
      cases held : client.observers[subscriptionId]? with
      | none =>
          rw [held] at same
          exact Or.inl same
      | some request => exact Or.inr (by simp)
  · rintro ⟨subscribed, notSubscribed⟩
    refine ⟨removed, ?_, ?_, waiting, ?_⟩
    · intro path subscribes other succeeded
      have named := (succeeded_iff_of_subscribeAnswer answer other).mp
        succeeded
      rw [named.2, own]
      exact subscribed path subscribes
    · intro given unsubscribes other succeeded
      rcases (succeeded_iff_of_subscribeAnswer answer other).mp succeeded with
        ⟨⟨path, subscribes⟩, -⟩
      rw [subscribes] at unsubscribes
      cases unsubscribes
    · intro other failed
      rw [observers]
      split
      · next same =>
        rw [succeeded_iff_of_subscribeAnswer answer] at failed
        rcases concerns with subscribes | ⟨given, unsubscribes⟩
        · exact absurd ⟨subscribes, same⟩ failed
        · rw [same]
          rcases notSubscribed given unsubscribes with missing | held
          · rw [missing, Option.or_none]
          · exact Option.or_of_isSome (Option.isSome_iff_ne_none.mpr held)
      · rfl

theorem settled_iff_of_unsubscribeAnswer
    (concerns : asked.ConcernsSubscription)
    (answer : UnsubscribeAnswer response id subscriptionId) :
    Settled asked response id client
        { client with
          subscriptionObservers := client.subscriptionObservers.erase id
          observers := client.observers.erase subscriptionId
          promised := client.promised.erase id } ↔
      Orderly asked response id client := by
  rw [orderly_iff_of_unsubscribeAnswer answer]
  constructor
  · intro settled path subscribes
    have failed : ¬ asked.Succeeded response id subscriptionId := by
      rw [succeeded_iff_of_unsubscribeAnswer answer]
      rintro ⟨⟨given, unsubscribes⟩, -⟩
      rw [subscribes] at unsubscribes
      cases unsubscribes
    have same := settled.others subscriptionId failed
    rw [TreeMap.getElem?_erase_self] at same
    exact same.symm
  · intro notUnsubscribed
    refine ⟨TreeMap.getElem?_erase_self, ?_, ?_, ?_, ?_⟩
    · intro path subscribes other succeeded
      rcases (succeeded_iff_of_unsubscribeAnswer answer other).mp
          succeeded with ⟨⟨given, unsubscribes⟩, -⟩
      rw [subscribes] at unsubscribes
      cases unsubscribes
    · intro given _ other succeeded
      have named := (succeeded_iff_of_unsubscribeAnswer answer other).mp
        succeeded
      rw [named.2]
      exact TreeMap.getElem?_erase_self
    · intro other different
      exact getElem?_erase_of_ne different
    · intro other failed
      by_cases same : other = subscriptionId
      · rw [succeeded_iff_of_unsubscribeAnswer answer] at failed
        rcases concerns with ⟨path, subscribes⟩ | unsubscribes
        · rw [same, notUnsubscribed path subscribes]
          exact TreeMap.getElem?_erase_self
        · exact absurd ⟨unsubscribes, same⟩ failed
      · exact getElem?_erase_of_ne same

/-- An answer leaves the tables as demanded exactly if it is in order. -/
theorem settled_iff {next : Client}
    (concerns : asked.ConcernsSubscription)
    (completed : Completed client response id next) :
    Settled asked response id client next ↔
      Orderly asked response id client := by
  cases completed with
  | failed error =>
      have unsuccessful : Unsuccessful response id :=
        unsuccessful_of_error error
      rw [orderly_iff_of_unsuccessful unsuccessful]
      refine (settled_iff_of_unsuccessful unsuccessful ?_).trans ?_
      · rfl
      · simp [error]
  | @answered action plain named =>
      have unsuccessful : Unsuccessful response id :=
        unsuccessful_of_action named (by
          simp only [List.mem_cons, List.not_mem_nil, or_false] at plain ⊢
          rcases plain with get | set
          · exact Or.inl get
          · exact Or.inr (Or.inl set))
      have notAll : ¬ HasAction response kActionUnsubscribeAllTag := by
        intro all
        obtain rfl := (hasAction_iff named _).mp all
        exact absurd plain (by decide)
      rw [orderly_iff_of_unsuccessful unsuccessful]
      refine (settled_iff_of_unsuccessful unsuccessful ?_).trans ?_
      · rfl
      · simp [notAll]
  | unsubscribedAll named noError =>
      have unsuccessful : Unsuccessful response id :=
        unsuccessful_of_action named (by simp)
      rw [orderly_iff_of_unsuccessful unsuccessful]
      refine (settled_iff_of_unsuccessful unsuccessful ?_).trans ?_
      · rfl
      · simp [named, noError, eq_comm]
  | unsubscribed answer =>
      exact settled_iff_of_unsubscribeAnswer concerns answer
  | unclaimed answer missing =>
      refine settled_iff_of_subscribeAnswer concerns answer missing
        (fun _ _ => rfl) fun other => ?_
      rw [missing, Option.or_none, ite_self]
  | subscribed answer waiting =>
      refine settled_iff_of_subscribeAnswer concerns answer
        TreeMap.getElem?_erase_self
        (fun other different => getElem?_erase_of_ne different) fun other => ?_
      rw [waiting]
      exact getElem?_insertIfNew_or client.observers _ _ other

end

/-! ## Answers within a run -/

/-- The response that a step handles, with its effects. -/
def answerOf (session : Session.State) :
    Label → Option (CommandResult × List Effect)
  | .message ws (.text (some value)) =>
      if session.halted.isNone ∧ ws ∈ session.live then
        match parseJsonToStrings kAllTag ∅ value with
        | .error _ => none
        | .ok response =>
            match handleVisResponce session.client response with
            | .error _ => none
            | .ok (_, effects) => some (response, effects)
      else none
  | _ => none

theorem handled_of_answerOf {session : Session.State} {label : Label}
    {response : CommandResult} {effects : List Effect}
    (answered : answerOf session label = some (response, effects)) :
    handleVisResponce session.client response =
      .ok ((Session.step session label).client, effects) := by
  unfold answerOf at answered
  split at answered
  · split at answered
    · next ws value running =>
      split at answered
      · cases answered
      · next flattened parsed =>
        split at answered
        · cases answered
        · next client effects handled =>
          cases answered
          have message :
              handleMessage session.client (.text (some value)) =
                .ok (client, effects) := by
            simp only [handleMessage, parsed]
            exact handled
          have going : session.halted.isSome = false := by
            simpa using running.1
          simp only [Session.step, going, Session.advance, running.2,
            message]
          exact handled
    · cases answered
  · cases answered

/--
A response that completes the promise of a request to begin or end a
subscription leaves the tables of observers as this request demands.
-/
def KeepsTables (state : State) (label : Label) : Prop :=
  ∀ response effects promise id result,
    answerOf state.session label = some (response, effects) →
      .fulfilled promise id result ∈ effects →
        ∃ asked, state.asked[id]? = some asked ∧ asked.MadeBy promise ∧
          (asked.ConcernsSubscription →
            Settled asked response id state.session.client
              (step state label).session.client)

/-- A response that completes such a promise is in order. -/
def AnswersInOrder (state : State) (label : Label) : Prop :=
  ∀ response effects promise id result,
    answerOf state.session label = some (response, effects) →
      .fulfilled promise id result ∈ effects →
        ∀ asked, state.asked[id]? = some asked →
          asked.ConcernsSubscription →
            Orderly asked response id state.session.client

theorem keepsTables_iff {state : State} (faithful : Faithful state)
    (label : Label) :
    KeepsTables state label ↔ AnswersInOrder state label := by
  have completed {response effects promise} {id : Int} {result}
      (answered : answerOf state.session label = some (response, effects))
      (member : .fulfilled promise id result ∈ effects) :
      Completes state.session.client response promise id
        (step state label).session.client := by
    rw [step_session]
    exact handleVisResponce_completes (handled_of_answerOf answered) member
  constructor
  · intro keeps response effects promise id result answered member asked
      known concerns
    rcases keeps response effects promise id result answered member with
      ⟨recorded, same, -, settled⟩
    obtain rfl : recorded = asked := by simpa [known] using same.symm
    exact (settled_iff concerns (completed answered member).changed).mp
      (settled concerns)
  · intro inOrder response effects promise id result answered member
    have completes := completed answered member
    rcases faithful.known id promise completes.found with
      ⟨asked, known, made⟩
    refine ⟨asked, known, made, fun concerns => ?_⟩
    exact (settled_iff concerns completes.changed).mpr
      (inOrder response effects promise id result answered member asked known
        concerns)

/--
In exactly the runs in which every answer to such a request is in order, every
answer leaves the tables of observers as its request demands.
-/
theorem tables_kept_iff_in_order (labels : List Label) :
    (∀ earlier label, earlier ++ [label] <+: labels →
        KeepsTables (after earlier) label) ↔
      Admitted step AnswersInOrder State.initial labels := by
  rw [admitted_iff_forall_step]
  constructor
  · intro keeps earlier label inside
    exact (keepsTables_iff (faithful_after earlier) label).mp
      (keeps earlier label inside)
  · intro inOrder earlier label inside
    exact (keepsTables_iff (faithful_after earlier) label).mpr
      (inOrder earlier label inside)

/-- The server refuses a subscription. -/
def refusal : Frame :=
  .text (some (.object
    [("action", .string "subscribe"), ("error", .string "not found"),
      ("requestId", .string "1"), ("timestamp", .string "1")]))

def refusedSubscription : List Label :=
  [.connection .ssl, .enter (.subscribe "A"), .request 0]

/-- The numbers of the promises that effects complete. -/
def completedNumbers (effects : List Effect) : List Int :=
  effects.filterMap fun effect =>
    match effect with
    | .fulfilled _ id _ => some id
    | _ => none

/-- The observer of the refused subscription goes on waiting. -/
theorem refused_subscription_left_waiting :
    ¬ ∀ labels label, KeepsTables (after labels) label := by
  intro keeps
  have numbers :
      (answerOf (after refusedSubscription).session
          (.message 0 refusal)).map
        (fun answer => completedNumbers answer.2) = some [1] := by
    decide +kernel
  rcases Option.map_eq_some_iff.mp numbers with
    ⟨⟨response, effects⟩, answered, completed⟩
  have listed : (1 : Int) ∈ completedNumbers effects := by
    rw [completed]
    exact List.mem_cons_self
  rcases List.mem_filterMap.mp listed with ⟨effect, member, number⟩
  split at number
  · next promise id result =>
    cases number
    rcases keeps refusedSubscription (.message 0 refusal) response effects
        promise 1 result answered member with ⟨asked, known, -, settled⟩
    have recorded :
        (after refusedSubscription).asked[(1 : Int)]? =
          some ⟨.subscribe "A", 0⟩ := by
      decide +kernel
    obtain rfl : (⟨.subscribe "A", 0⟩ : Asked) = asked := by
      simpa [recorded] using known
    have removed := (settled (Or.inl ⟨"A", rfl⟩)).removed
    have waiting :
        (step (after refusedSubscription)
            (.message 0 refusal)).session.client.subscriptionObservers[
          (1 : Int)]?.isSome = true := by
      decide +kernel
    rw [removed] at waiting
    cases waiting
  · cases number

end Anbox.Vis.Bookkeeping
