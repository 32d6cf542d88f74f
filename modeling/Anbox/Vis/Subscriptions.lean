import Anbox.Foundation.OrderedMap
import Anbox.Vis.Session

/-!
# Observers of a VIS client across reconnects

After a reconnect the observers of the previous connection move to
`mRecoverObservers`, from where `poll` subscribes them again.  Until the answer
arrives they wait in `mSubscriptionObservers` like new observers.

Two things can go wrong.  A subscription that is answered before the recovery
has begun makes `mObservers` and `mRecoverObservers` non-empty at once, and the
next connection aborts.  A connection that ends before a recovered subscription
is answered forgets its observer.
-/

namespace Anbox.Vis.Subscriptions

open Anbox.Foundation.OrderedMap
open Anbox.Foundation.Runs
open Anbox.Vis.Messages
open Anbox.Vis.VisClient
open Anbox.Vis.Session
open Std (TreeMap)

/-- The response reports success of a subscription that is waited for. -/
structure Registers (client : Client) (value : Json)
    (requestId subscriptionId : Int) : Prop where
  answer :
    ∃ response,
      parseJsonToStrings kAllTag ∅ value = .ok response ∧
        SubscribeAnswer response requestId subscriptionId
  waiting : requestId ∈ client.subscriptionObservers
  promised : requestId ∈ client.promised

/-! ## Recovery and connect do not race -/

/-- Observers are only entered when there is nothing left to recover. -/
def RecoveredFirst (state : State) : Label → Prop
  | .message _ (.text (some value)) =>
      ∀ requestId subscriptionId,
        Registers state.client value requestId subscriptionId →
          state.client.recoverObservers.isEmpty = true
  | _ => True

/-- At most one of the two tables has entries. -/
def Apart (client : Client) : Prop :=
  client.recoverObservers.isEmpty = true ∨ client.observers.isEmpty = true

theorem apart_iff {client : Client} :
    Apart client ↔
      ¬(0 < client.recoverObservers.size ∧ 0 < client.observers.size) := by
  unfold Apart
  rw [TreeMap.isEmpty_eq_size_eq_zero, TreeMap.isEmpty_eq_size_eq_zero,
    beq_iff_eq, beq_iff_eq]
  omega

theorem apart_recover (client : Client)
    (entries : List (Int × SubscriptionRequest)) (effects : List Effect)
    (apart : Apart client) :
    Apart (entries.foldl recoverObserver (client, effects)).1 := by
  refine @foldl_recoverObserver Apart entries ?_ (client, effects) apart
  intro progress entry _ before
  cases connected : progress.1.ws with
  | none =>
      rw [recoverObserver_of_none connected]
      exact before
  | some ws =>
      rw [recoverObserver_of_ws connected]
      rcases before with nothingLeft | noObserver
      · left
        simp [TreeMap.isEmpty_erase, nothingLeft]
      · exact Or.inr noObserver

theorem apart_handleConnection {client next : Client} {ws : WebSocket}
    {mode : ConnectionMode} (apart : Apart client)
    (established : handleConnection client ws mode = some next) :
    Apart next := by
  cases mode with
  | ssl =>
      simp only [handleConnection] at established
      split at established
      · cases established
      · cases established
        exact Or.inr TreeMap.isEmpty_emptyc
  | nonSsl | unexpected =>
      cases established
      exact apart

theorem apart_answered {client next : Client} {response : CommandResult}
    {effects : List Effect} (apart : Apart client)
    (recoveredFirst :
      ∀ requestId subscriptionId,
        SubscribeAnswer response requestId subscriptionId →
          requestId ∈ client.subscriptionObservers →
            requestId ∈ client.promised →
              client.recoverObservers.isEmpty = true)
    (answered : Answered client response next effects) :
    Apart next := by
  cases answered with
  | ignored | notified => exact apart
  | settled result found => exact apart
  | subscribed result answer waiting found =>
      exact Or.inl (recoveredFirst _ _ answer
        (TreeMap.mem_iff_isSome_getElem?.mpr (by simp [waiting]))
        (TreeMap.mem_iff_isSome_getElem?.mpr (by simp [found])))
  | unsubscribed result answer found =>
      rcases apart with nothingLeft | noObserver
      · exact Or.inl nothingLeft
      · right
        simp [TreeMap.isEmpty_erase, noObserver]
  | unsubscribedAll result found => exact Or.inr TreeMap.isEmpty_emptyc

theorem apart_step {state : State} {label : Label}
    (apart : Apart state.client) (first : RecoveredFirst state label) :
    Apart (step state label).client := by
  rcases step_changed state label with ⟨events, changed, -⟩
  generalize (step state label).client = client at changed
  cases changed with
  | unchanged | initialized | dropped | offline => exact apart
  | requested requested =>
      cases requested with
      | refused => exact apart
      | sent => exact apart
  | recovered => exact apart_recover _ _ _ apart
  | connected established => exact apart_handleConnection apart established
  | answered live parsed answered =>
      refine apart_answered apart ?_ answered
      intro requestId subscriptionId answer waiting promised
      exact first requestId subscriptionId
        ⟨⟨_, parsed, answer⟩, waiting, promised⟩

/-- The check of `handleConnection` fails only if both tables have entries. -/
theorem handleConnection_isSome {client : Client} (apart : Apart client)
    (ws : WebSocket) (mode : ConnectionMode) :
    ∃ next, handleConnection client ws mode = some next := by
  cases mode with
  | ssl =>
      simp only [handleConnection]
      split
      · next race => exact absurd race (apart_iff.mp apart)
      · exact ⟨_, rfl⟩
  | nonSsl | unexpected => exact ⟨_, rfl⟩

theorem step_halted {state : State} (label : Label)
    (apart : Apart state.client)
    (running : state.halted ≠ some .recoveryRace) :
    (step state label).halted ≠ some .recoveryRace := by
  unfold step
  split
  · exact running
  · cases label with
    | connection mode =>
        simp only [advance]
        split
        · exact running
        · rcases handleConnection_isSome apart state.nextWs mode with
            ⟨next, established⟩
          rw [established]
          exact running
    | message ws frame =>
        simp only [advance]
        split
        · split
          · simp
          · exact running
        · exact running
    | poll => exact running
    | enter request | request ticket | error | disconnection ws
    | transfer ws =>
        simp only [advance]
        split
        · exact running
        · exact running

/--
In a run in which observers are only entered when there is nothing left to
recover, `mRecoverObservers` and `mObservers` are never both non-empty, and no
connection aborts.
-/
theorem recovery_never_races (labels : List Label)
    (first : Admitted step RecoveredFirst State.initial labels) :
    Apart (after labels).client ∧
      (after labels).halted ≠ some .recoveryRace := by
  refine @Admitted.invariant State Label step RecoveredFirst
    (fun state => Apart state.client ∧ state.halted ≠ some .recoveryRace)
    ?_ State.initial labels ⟨Or.inl rfl, by simp [State.initial]⟩ first
  rintro state label ⟨apart, running⟩ recoveredFirst
  exact ⟨apart_step apart recoveredFirst, step_halted label apart running⟩

/-- The answer of a server to a subscribe request. -/
def subscribeResponse (requestId subscriptionId : String) : Frame :=
  .text (some (.object
    [("action", .string "subscribe"), ("requestId", .string requestId),
      ("subscriptionId", .string subscriptionId),
      ("timestamp", .string "1")]))

/-- An observer is recovered after the connection was lost. -/
def recoveredObserver : List Label :=
  [.connection .ssl, .enter (.subscribe "A"), .request 0,
    .message 0 (subscribeResponse "1" "10"), .disconnection 0, .poll,
    .connection .ssl, .poll, .message 1 (subscribeResponse "1" "20")]

theorem recovery_never_races_recovered :
    Apart (after recoveredObserver).client ∧
      (after recoveredObserver).halted ≠ some .recoveryRace := by
  apply recovery_never_races
  refine ⟨trivial, trivial, trivial, ?_, trivial, trivial, trivial, trivial,
    ?_, trivial⟩
  · intro _ _ _
    rfl
  · intro _ _ _
    decide +kernel

/-- A subscription is answered between a reconnect and the next `poll`. -/
def answeredBeforePoll : List Label :=
  [.connection .ssl, .enter (.subscribe "A"), .request 0,
    .message 0 (subscribeResponse "1" "10"), .disconnection 0, .poll,
    .connection .ssl, .enter (.subscribe "B"), .request 1,
    .message 1 (subscribeResponse "1" "11"), .disconnection 1, .poll]

/-- The next connection finds both tables non-empty and aborts. -/
theorem connection_aborts_after_early_answer :
    0 < (after answeredBeforePoll).client.recoverObservers.size ∧
      0 < (after answeredBeforePoll).client.observers.size ∧
      (after answeredBeforePoll).halted = none ∧
      (after (answeredBeforePoll ++ [.connection .ssl])).halted =
        some .recoveryRace := by
  decide +kernel

/-! ## Observers that are kept -/

/-- The observers that are subscribed after an event. -/
def recordObserver (observers : List Ticket) : Event → List Ticket
  | .subscribed observer => observer :: observers
  | .unsubscribed observer =>
      observers.filter fun other => other != observer
  | .unsubscribedAll => []
  | .accepted .. | .completed .. | .broken .. => observers

/--
The observers whose subscription was answered with success and that have not
been unsubscribed since.
-/
def active (history : List Event) : List Ticket :=
  history.foldl recordObserver []

theorem active_append (history events : List Event) :
    active (history ++ events) =
      events.foldl recordObserver (active history) :=
  List.foldl_append

/-- An observer is in one of the tables. -/
def Waits (table : TreeMap Int SubscriptionRequest) (observer : Ticket) :
    Prop :=
  ∃ (id : Int) (request : SubscriptionRequest),
    table[id]? = some request ∧ request.handler = observer

/-- The client still notifies an observer or is going to subscribe it. -/
def Held (client : Client) (observer : Ticket) : Prop :=
  Waits client.observers observer ∨
    Waits client.subscriptionObservers observer ∨
      Waits client.recoverObservers observer

/--
No step forgets an observer: a connection is not established while a
subscription of an active observer waits for its answer, a new subscription
does not get the number of another one, and the answer to an unsubscribe
request does not carry the number of a subscribe request.
-/
def KeepsObservers (state : State) : Label → Prop
  | .connection .ssl =>
      ∀ observer ∈ active state.history,
        ¬Waits state.client.subscriptionObservers observer
  | .message _ (.text (some value)) =>
      (∀ requestId subscriptionId,
        Registers state.client value requestId subscriptionId →
          subscriptionId ∉ state.client.observers) ∧
        ∀ response requestId subscriptionId request,
          parseJsonToStrings kAllTag ∅ value = .ok response →
            UnsubscribeAnswer response requestId subscriptionId →
              requestId ∈ state.client.promised →
                state.client.subscriptionObservers[requestId]? =
                    some request →
                  request.handler ∉ active state.history
  | _ => True

theorem Waits.insertIfNew {table : TreeMap Int SubscriptionRequest}
    {observer : Ticket} (waits : Waits table observer) (id : Int)
    (request : SubscriptionRequest) :
    Waits (table.insertIfNew id request) observer := by
  rcases waits with ⟨other, entry, found, named⟩
  exact ⟨other, entry, getElem?_insertIfNew_of_some found id request, named⟩

theorem held_requested {client next : Client} {ticket observer : Ticket}
    {effects : List Effect}
    (requested : Requested client ticket next effects)
    (held : Held client observer) : Held next observer := by
  cases requested with
  | refused => exact held
  | sent request connected putDown =>
      rcases putDown with rfl | ⟨propertyName, rfl⟩
      · exact held
      · rcases held with notified | waiting | recovering
        · exact Or.inl notified
        · exact Or.inr (Or.inl (waiting.insertIfNew _ _))
        · exact Or.inr (Or.inr recovering)

theorem active_requested {client next : Client} {ticket : Ticket}
    {effects : List Effect} (history : List Event)
    (requested : Requested client ticket next effects) :
    active (history ++ effects.filterMap (eventOf none)) =
      active history := by
  cases requested with
  | refused => rw [List.filterMap_nil, List.append_nil]
  | sent request connected putDown =>
      rw [active_append]
      by_cases taken :
          client.promised.contains (client.requestId + 1) = true
      · simp only [taken]
        rfl
      · simp only [taken]
        rfl

/-- What the rounds of the recovery loop keep, seen from its beginning. -/
structure Recovering (client progress : Client) : Prop where
  numbered :
    progress.ws ≠ none →
      ∀ id ∈ progress.subscriptionObservers, id ≤ progress.requestId
  held : ∀ observer, Held client observer → Held progress observer
  shrinks :
    ∀ (id : Int) request, progress.recoverObservers[id]? = some request →
      client.recoverObservers[id]? = some request

/-- A round moves its observer from one table to another. -/
theorem Recovering.round {client : Client} {progress : Client × List Effect}
    {entry : Int × SubscriptionRequest}
    (recovering : Recovering client progress.1)
    (listed : client.recoverObservers[entry.1]? = some entry.2) :
    Recovering client (recoverObserver progress entry).1 := by
  cases connected : progress.1.ws with
  | none =>
      rw [recoverObserver_of_none connected]
      exact recovering
  | some ws =>
      have numbered := recovering.numbered (by simp [connected])
      have fresh :
          progress.1.requestId + 1 ∉ progress.1.subscriptionObservers := by
        intro member
        have earlier := numbered _ member
        omega
      rw [recoverObserver_of_ws connected]
      constructor
      · exact fun _ => numbered_insertIfNew numbered _
      · intro observer held
        rcases recovering.held observer held with
          notified | waiting | ⟨id, request, found, named⟩
        · exact Or.inl notified
        · exact Or.inr (Or.inl (waiting.insertIfNew _ _))
        · by_cases own : id = entry.1
          · subst own
            have same := recovering.shrinks entry.1 request found
            rw [listed] at same
            cases same
            right
            left
            refine ⟨progress.1.requestId + 1,
              { entry.2 with requestId := progress.1.requestId + 1 }, ?_,
              named⟩
            rw [getElem?_insertIfNew_of_fresh fresh, if_pos rfl]
          · right
            right
            exact ⟨id, request,
              getElem?_erase_eq_some_iff.mpr ⟨own, found⟩, named⟩
      · intro id request found
        exact recovering.shrinks id request
          (getElem?_erase_eq_some_iff.mp found).2

theorem held_recover {client : Client} {observer : Ticket}
    (numbered :
      client.ws ≠ none →
        ∀ id ∈ client.subscriptionObservers, id ≤ client.requestId)
    (held : Held client observer) :
    Held (client.recoverObservers.toList.foldl recoverObserver
      (client, [])).1 observer := by
  have recovering := @foldl_recoverObserver (Recovering client)
    client.recoverObservers.toList
    (fun progress entry member recovering =>
      recovering.round (TreeMap.mem_toList_iff_getElem?_eq_some.mp member))
    (client, []) ⟨numbered, fun _ held => held, fun _ _ found => found⟩
  exact recovering.held observer held

/-- The loop of `handleConnection` loses no observer. -/
theorem waits_moveObservers {client : Client} {observer : Ticket}
    (apart : Apart client)
    (waits :
      Waits client.observers observer ∨
        Waits client.recoverObservers observer) :
    Waits (moveObservers client) observer := by
  rcases waits with ⟨id, request, found, named⟩ | ⟨id, request, found, named⟩
  · refine ⟨id, request, ?_, named⟩
    have absent : id ∉ client.recoverObservers := by
      rcases apart with nothingLeft | noObserver
      · exact TreeMap.not_mem_of_isEmpty nothingLeft
      · rw [TreeMap.getElem?_of_isEmpty noObserver] at found
        cases found
    have distinct :
        client.observers.toList.Pairwise
          fun first second => first.1 ≠ second.1 :=
      TreeMap.distinct_keys_toList.imp fun different same =>
        different (Std.LawfulEqCmp.compare_eq_iff_eq.mpr same)
    exact getElem?_insertAllIfNew_of_mem distinct
      (TreeMap.mem_toList_iff_getElem?_eq_some.mpr found) absent
  · exact ⟨id, request, getElem?_insertAllIfNew_of_some found _, named⟩

theorem held_handleConnection {client next : Client} {ws : WebSocket}
    {mode : ConnectionMode} {observer : Ticket}
    (established : handleConnection client ws mode = some next)
    (answered :
      mode = .ssl → ¬Waits client.subscriptionObservers observer)
    (held : Held client observer) : Held next observer := by
  cases mode with
  | ssl =>
      simp only [handleConnection] at established
      split at established
      · cases established
      · next noRace =>
        cases established
        right
        right
        apply waits_moveObservers (apart_iff.mpr noRace)
        rcases held with notified | waiting | recovering
        · exact Or.inl notified
        · exact absurd waiting (answered rfl)
        · exact Or.inr recovering
  | nonSsl | unexpected =>
      cases established
      exact held

/-- The value of a promise changes nothing about the observers. -/
theorem active_append_fulfilled (history : List Event)
    (effects : List Effect) (received : WebSocket) (promise : Promise)
    (id : Int) (result : WMessageResult) :
    active (history ++
        (effects ++ [Effect.fulfilled promise id result]).filterMap
          (eventOf (some received))) =
      active (history ++ effects.filterMap (eventOf (some received))) := by
  rw [List.filterMap_append, ← List.append_assoc, active_append]
  cases promise with
  | request ticket => rfl
  | recovery => rfl

theorem Waits.erase {table : TreeMap Int SubscriptionRequest}
    {observer : Ticket} {id : Int} (waits : Waits table observer)
    (other :
      ∀ request, table[id]? = some request → request.handler ≠ observer) :
    Waits (table.erase id) observer := by
  rcases waits with ⟨key, request, found, named⟩
  refine ⟨key, request, getElem?_erase_eq_some_iff.mpr ⟨?_, found⟩, named⟩
  rintro rfl
  exact other request found named

/-- A subscription that got an answer moves its observer to `mObservers`. -/
theorem held_subscribed {client : Client} {id subscriptionId : Int}
    {request : SubscriptionRequest} {observer : Ticket}
    (waiting : client.subscriptionObservers[id]? = some request)
    (fresh : subscriptionId ∉ client.observers)
    (held : observer = request.handler ∨ Held client observer) :
    Held
      { client with
        observers := client.observers.insertIfNew subscriptionId request
        subscriptionObservers := client.subscriptionObservers.erase id
        promised := client.promised.erase id } observer := by
  by_cases same : request.handler = observer
  · refine Or.inl ⟨subscriptionId, request, ?_, same⟩
    rw [getElem?_insertIfNew_of_fresh fresh, if_pos rfl]
  · rcases held.resolve_left (Ne.symm same) with
      notified | waits | recovering
    · exact Or.inl (notified.insertIfNew _ _)
    · right
      left
      refine waits.erase fun other entry => ?_
      rw [waiting] at entry
      cases entry
      exact same
    · exact Or.inr (Or.inr recovering)

/-- An unsubscribe answer concerns the observers under its two numbers only. -/
theorem held_unsubscribed {client : Client} {id subscriptionId : Int}
    {observer : Ticket} (held : Held client observer)
    (notOwn :
      ∀ request, client.observers[subscriptionId]? = some request →
        request.handler ≠ observer)
    (notWaiting :
      ∀ request, client.subscriptionObservers[id]? = some request →
        request.handler ≠ observer) :
    Held
      { client with
        subscriptionObservers := client.subscriptionObservers.erase id
        observers := client.observers.erase subscriptionId
        promised := client.promised.erase id } observer := by
  rcases held with notified | waits | recovering
  · exact Or.inl (notified.erase notOwn)
  · exact Or.inr (Or.inl (waits.erase notWaiting))
  · exact Or.inr (Or.inr recovering)

/-- Who is active after an observer was unsubscribed, if there was one. -/
theorem mem_active_unsubscribed {history : List Event}
    {entry : Option SubscriptionRequest} {received : WebSocket}
    {observer : Ticket}
    (member :
      observer ∈ active (history ++
        (entry.map fun request =>
          Effect.unsubscribed request.handler).toList.filterMap
            (eventOf (some received)))) :
    observer ∈ active history ∧
      ∀ request, entry = some request → request.handler ≠ observer := by
  rw [active_append] at member
  cases entry with
  | none => exact ⟨member, by simp⟩
  | some request =>
      rcases List.mem_filter.mp member with ⟨listed, different⟩
      refine ⟨listed, ?_⟩
      rintro other same rfl
      cases same
      simp at different

/-- What a response does to the observers that are active afterwards. -/
theorem held_answered {client next : Client} {response : CommandResult}
    {effects : List Effect} {received : WebSocket} {history : List Event}
    (answered : Answered client response next effects)
    (held : ∀ observer ∈ active history, Held client observer)
    (unused :
      ∀ requestId subscriptionId,
        SubscribeAnswer response requestId subscriptionId →
          requestId ∈ client.subscriptionObservers →
            requestId ∈ client.promised →
              subscriptionId ∉ client.observers)
    (own :
      ∀ requestId subscriptionId request,
        UnsubscribeAnswer response requestId subscriptionId →
          requestId ∈ client.promised →
            client.subscriptionObservers[requestId]? = some request →
              request.handler ∉ active history) :
    ∀ observer ∈
      active (history ++ effects.filterMap (eventOf (some received))),
        Held next observer := by
  have present {id : Int} {promise : Promise}
      (found : client.promised[id]? = some promise) :
      id ∈ client.promised :=
    TreeMap.mem_iff_isSome_getElem?.mpr (by simp [found])
  intro observer member
  cases answered with
  | ignored | notified =>
      rw [active_append] at member
      exact held observer member
  | settled result found =>
      rw [← List.nil_append [_], active_append_fulfilled,
        active_append] at member
      exact held observer member
  | subscribed result answer waiting found =>
      have fresh := unused _ _ answer
        (TreeMap.mem_iff_isSome_getElem?.mpr (by simp [waiting]))
        (present found)
      rw [← List.singleton_append, active_append_fulfilled,
        active_append] at member
      apply held_subscribed waiting fresh
      rcases List.mem_cons.mp member with rfl | before
      · exact Or.inl rfl
      · exact Or.inr (held observer before)
  | unsubscribed result answer found =>
      rw [active_append_fulfilled] at member
      rcases mem_active_unsubscribed member with ⟨before, notOwn⟩
      refine held_unsubscribed (held observer before) notOwn ?_
      rintro request entry rfl
      exact own _ _ request answer (present found) entry before
  | unsubscribedAll result found =>
      rw [← List.singleton_append, active_append_fulfilled,
        active_append] at member
      cases member

/-- A reachable state in which no active observer is forgotten. -/
structure Kept (state : State) : Prop where
  connected : WellConnected state
  held : ∀ observer ∈ active state.history, Held state.client observer

theorem Kept.step {state : State} {label : Label} (kept : Kept state)
    (keeps : KeepsObservers state label) : Kept (step state label) := by
  refine ⟨kept.connected.step label, ?_⟩
  rcases step_changed state label with ⟨events, changed, history⟩
  rw [history]
  generalize (Session.step state label).client = client at changed
  cases changed with
  | unchanged | initialized | dropped | offline =>
      rw [List.append_nil]
      exact kept.held
  | requested requested =>
      rw [active_requested state.history requested]
      intro observer member
      exact held_requested requested (kept.held observer member)
  | recovered =>
      rw [List.append_nil]
      intro observer member
      exact held_recover kept.connected.numbered (kept.held observer member)
  | connected established =>
      rw [List.append_nil]
      intro observer member
      refine held_handleConnection established ?_ (kept.held observer member)
      rintro rfl
      exact keeps observer member
  | answered live parsed answered =>
      refine held_answered answered kept.held ?_ ?_
      · intro requestId subscriptionId answer waiting promised
        exact keeps.1 requestId subscriptionId
          ⟨⟨_, parsed, answer⟩, waiting, promised⟩
      · intro requestId subscriptionId request answer promised waiting
        exact keeps.2 _ requestId subscriptionId request parsed answer
          promised waiting

/--
In a run whose steps forget no observer, every observer whose subscription was
answered with success and that was not unsubscribed since is in one of the
three tables, in every state that is reached.
-/
theorem active_observers_held (labels : List Label)
    (keeps : Admitted step KeepsObservers State.initial labels) :
    ∀ observer ∈ active (after labels).history,
      Held (after labels).client observer := by
  have kept : Kept (after labels) :=
    Admitted.invariant (fun _ _ kept => kept.step)
      ⟨wellConnected_initial, by simp [State.initial, active]⟩ keeps
  exact kept.held

theorem not_waits_of_isEmpty {table : TreeMap Int SubscriptionRequest}
    (empty : table.isEmpty = true) (observer : Ticket) :
    ¬Waits table observer := by
  rintro ⟨id, request, found, -⟩
  rw [TreeMap.getElem?_of_isEmpty empty] at found
  cases found

/-- An observer is subscribed again after a reconnect. -/
def subscribedAgain : List Label :=
  [.connection .ssl, .enter (.subscribe "A"), .request 0,
    .message 0 (subscribeResponse "1" "10"), .disconnection 0, .poll,
    .connection .ssl, .poll]

theorem active_observers_held_subscribed_again :
    0 ∈ active (after subscribedAgain).history ∧
      Held (after subscribedAgain).client 0 := by
  have subscribed : 0 ∈ active (after subscribedAgain).history := by
    decide +kernel
  refine ⟨subscribed, active_observers_held subscribedAgain ?_ 0 subscribed⟩
  refine ⟨?_, trivial, trivial, ⟨?_, ?_⟩, trivial, trivial, ?_, trivial,
    trivial⟩
  · intro observer member
    cases member
  · intro requestId subscriptionId _
    exact TreeMap.not_mem_of_isEmpty rfl
  · intro response requestId subscriptionId request _ _ _ _ member
    cases member
  · intro observer _
    exact not_waits_of_isEmpty (by decide +kernel) observer

/-- A second connection is lost before the observer is subscribed again. -/
def lostAgain : List Label :=
  [.connection .ssl, .enter (.subscribe "A"), .request 0,
    .message 0 (subscribeResponse "1" "10"), .disconnection 0, .poll,
    .connection .ssl, .poll, .disconnection 1, .poll, .connection .ssl]

/-- The observer was never unsubscribed, but no table knows it any more. -/
theorem observer_forgotten_by_second_reconnect :
    0 ∈ active (after lostAgain).history ∧
      (after lostAgain).halted = none ∧
        ¬Held (after lostAgain).client 0 := by
  refine ⟨by decide +kernel, by decide +kernel, ?_⟩
  rintro (notified | waiting | recovering)
  · exact not_waits_of_isEmpty (by decide +kernel) 0 notified
  · exact not_waits_of_isEmpty (by decide +kernel) 0 waiting
  · exact not_waits_of_isEmpty (by decide +kernel) 0 recovering

end Anbox.Vis.Subscriptions
