import Anbox.Foundation.OrderedMap
import Anbox.Vis.Session

/-!
# Requests and responses of a VIS client

The numbers of requests start again with every connection attempt, but the
promises of unanswered requests stay in the table.  As long as no promise is
left over when a connection is established, every future is completed by the
response to its own request and no promise is lost.
-/

namespace Anbox.Vis.RequestMatching

open Anbox.Foundation.OrderedMap
open Anbox.Foundation.Runs
open Anbox.Vis.Messages
open Anbox.Vis.VisClient
open Anbox.Vis.Session
open Std (TreeMap)

/-- No promise is left when a connection is established. -/
def NoneOutstanding (state : State) : Label → Prop
  | .connection _ => state.client.promised.isEmpty = true
  | _ => True

/-- Completed futures belong to requests of the same connection and number. -/
structure Matched (state : State) : Prop where
  connected : WellConnected state
  numbered :
    state.client.ws ≠ none →
      ∀ id ∈ state.client.promised, id ≤ state.client.requestId
  /-- A pending request was sent on the connection that the hub has. -/
  owned :
    ∀ (id : Int) ticket,
      state.client.promised[id]? = some (.request ticket) →
        ∃ ws, .accepted ticket ws id ∈ state.history ∧
          ∀ other ∈ state.live, other = ws
  completed :
    ∀ ticket ws id, .completed ticket ws id ∈ state.history →
      .accepted ticket ws id ∈ state.history
  unbroken : ∀ ticket, .broken ticket ∉ state.history

theorem matched_initial : Matched State.initial := by
  constructor
  case connected => exact wellConnected_initial
  all_goals simp [State.initial, Client.initial]

/-! ## Promises that stay or go -/

/-- No promise is new and the numbers are those that were given out. -/
structure KeepsPromises (client next : Client) : Prop where
  numbered :
    next.ws ≠ none → ∀ id ∈ next.promised, id ≤ next.requestId
  owned :
    ∀ (id : Int) ticket, next.promised[id]? = some (.request ticket) →
      client.promised[id]? = some (.request ticket)

/-- A step without new promises of callers. -/
theorem Matched.extend {state next : State} {events : List Event}
    (matched : Matched state) (connected : WellConnected next)
    (history : next.history = state.history ++ events)
    (keeps : KeepsPromises state.client next.client)
    (live :
      (∀ ws ∈ next.live, ws ∈ state.live) ∨
        state.client.promised.isEmpty = true)
    (completed :
      ∀ ticket ws id, .completed ticket ws id ∈ events →
        .accepted ticket ws id ∈ state.history)
    (unbroken : ∀ ticket, .broken ticket ∉ events) :
    Matched next where
  connected := connected
  numbered := keeps.numbered
  owned := by
    intro id ticket found
    have before := keeps.owned id ticket found
    rcases matched.owned id ticket before with ⟨ws, accepted, only⟩
    refine ⟨ws, ?_, fun other member => ?_⟩
    · rw [history]
      exact List.mem_append_left events accepted
    · rcases live with subset | empty
      · exact only other (subset other member)
      · rw [TreeMap.getElem?_of_isEmpty empty] at before
        cases before
  completed := by
    intro ticket ws id member
    rw [history] at member ⊢
    apply List.mem_append_left
    rcases List.mem_append.mp member with before | new
    · exact matched.completed ticket ws id before
    · exact completed ticket ws id new
  unbroken := by
    intro ticket member
    rw [history] at member
    rcases List.mem_append.mp member with before | new
    · exact matched.unbroken ticket before
    · exact unbroken ticket new

theorem keepsPromises_recoverObserver {client : Client}
    (progress : Client × List Effect) (entry : Int × SubscriptionRequest)
    (keeps : KeepsPromises client progress.1) :
    KeepsPromises client (recoverObserver progress entry).1 := by
  cases connected : progress.1.ws with
  | none =>
      rw [recoverObserver_of_none connected]
      exact keeps
  | some ws =>
      have online : progress.1.ws ≠ none := by simp [connected]
      have numbered := keeps.numbered online
      have fresh : progress.1.requestId + 1 ∉ progress.1.promised := by
        intro member
        have earlier := numbered _ member
        omega
      rw [recoverObserver_of_ws connected]
      constructor
      · intro _ id member
        rcases TreeMap.mem_insertIfNew.mp member with same | before
        · have newest : progress.1.requestId + 1 = id :=
            Std.LawfulEqCmp.compare_eq_iff_eq.mp same
          exact newest ▸ Int.le_refl _
        · exact Int.le_add_one (numbered id before)
      · intro id ticket found
        apply keeps.owned
        rw [getElem?_insertIfNew_of_fresh fresh] at found
        split at found
        · cases found
        · exact found

/-- What a response does to the promises. -/
structure AnswersPromise (client next : Client) (effects : List Effect) :
    Prop where
  ws : next.ws = client.ws
  requestId : next.requestId = client.requestId
  promised :
    ∀ (id : Int) promise, next.promised[id]? = some promise →
      client.promised[id]? = some promise
  fulfilled :
    ∀ promise (id : Int) result, .fulfilled promise id result ∈ effects →
      client.promised[id]? = some promise
  unbroken : ∀ promise, .broken promise ∉ effects

theorem answersPromise_of_answered {client next : Client}
    {response : CommandResult} {effects : List Effect}
    (answered : Answered client response next effects) :
    AnswersPromise client next effects := by
  have erased {id : Int} {promise : Promise} (other : Int)
      (found : (client.promised.erase other)[id]? = some promise) :
      client.promised[id]? = some promise :=
    (getElem?_erase_eq_some_iff.mp found).2
  cases answered with
  | ignored | notified =>
      exact ⟨rfl, rfl, fun _ _ found => found, by simp, by simp⟩
  | settled result found =>
      refine ⟨rfl, rfl, fun _ _ => erased _, ?_, by simp⟩
      intro promise id value member
      cases List.mem_singleton.mp member
      exact found
  | subscribed result answer waiting found =>
      refine ⟨rfl, rfl, fun _ _ => erased _, ?_, by simp⟩
      intro promise id value member
      rcases List.mem_cons.mp member with impossible | last
      · cases impossible
      · cases List.mem_singleton.mp last
        exact found
  | unsubscribed result answer found =>
      refine ⟨rfl, rfl, fun _ _ => erased _, ?_, ?_⟩
      · intro promise id value member
        rcases List.mem_append.mp member with impossible | last
        · simp at impossible
        · cases List.mem_singleton.mp last
          exact found
      · intro promise member
        simp at member
  | unsubscribedAll result found =>
      refine ⟨rfl, rfl, fun _ _ => erased _, ?_, by simp⟩
      intro promise id value member
      rcases List.mem_cons.mp member with impossible | last
      · cases impossible
      · cases List.mem_singleton.mp last
        exact found

/-- A completed future was fulfilled by a response on this connection. -/
theorem completed_mem_events {effects : List Effect}
    {received ws : WebSocket} {ticket : Ticket} {id : Int}
    (member :
      .completed ticket ws id ∈
        effects.filterMap (eventOf (some received))) :
    ws = received ∧
      ∃ result, .fulfilled (.request ticket) id result ∈ effects := by
  rcases List.mem_filterMap.mp member with ⟨effect, listed, event⟩
  unfold eventOf at event
  split at event <;> cases event
  exact ⟨rfl, _, listed⟩

theorem broken_mem_events {effects : List Effect}
    {received : Option WebSocket} {ticket : Ticket}
    (member : .broken ticket ∈ effects.filterMap (eventOf received)) :
    .broken (.request ticket) ∈ effects := by
  rcases List.mem_filterMap.mp member with ⟨effect, listed, event⟩
  unfold eventOf at event
  split at event
  case h_3 =>
    cases event
    exact listed
  all_goals simp at event

/-! ## Steps -/

/-- A request that was sent gets a number of its own. -/
theorem Matched.sent {state next : State} {ticket : Ticket}
    {ws : WebSocket} {observers : TreeMap Int SubscriptionRequest}
    (matched : Matched state) (connected : WellConnected next)
    (online : state.client.ws = some ws)
    (client :
      next.client =
        { state.client with
          requestId := state.client.requestId + 1
          subscriptionObservers := observers
          promised :=
            state.client.promised.insertIfNew (state.client.requestId + 1)
              (.request ticket) })
    (history :
      next.history =
        state.history ++ [.accepted ticket ws (state.client.requestId + 1)])
    (live : ∀ other ∈ next.live, other ∈ state.live) :
    Matched next := by
  have numbered := matched.numbered (by simp [online])
  have fresh :
      state.client.requestId + 1 ∉ state.client.promised := by
    intro member
    have earlier := numbered _ member
    omega
  constructor
  case connected => exact connected
  case numbered =>
    rw [client]
    intro _ id member
    rcases TreeMap.mem_insertIfNew.mp member with same | before
    · have newest : state.client.requestId + 1 = id :=
        Std.LawfulEqCmp.compare_eq_iff_eq.mp same
      exact newest ▸ Int.le_refl _
    · exact Int.le_add_one (numbered id before)
  case owned =>
    rw [client, history]
    intro id owner found
    rw [getElem?_insertIfNew_of_fresh fresh] at found
    split at found
    · next newest =>
      cases found
      subst newest
      refine ⟨ws, by simp, fun other member => ?_⟩
      have only := matched.connected.socket ws online
      rw [only] at live
      exact List.mem_singleton.mp (live other member)
    · rcases matched.owned id owner found with ⟨sentOn, accepted, only⟩
      exact ⟨sentOn, List.mem_append_left _ accepted,
        fun other member => only other (live other member)⟩
  case completed =>
    rw [history]
    intro owner receivedOn id member
    apply List.mem_append_left
    rcases List.mem_append.mp member with before | new
    · exact matched.completed owner receivedOn id before
    · simp at new
  case unbroken =>
    rw [history]
    intro owner member
    rcases List.mem_append.mp member with before | new
    · exact matched.unbroken owner before
    · simp at new

theorem Matched.requested {state next : State} {ticket : Ticket}
    {client : Client} {effects : List Effect} (matched : Matched state)
    (connected : WellConnected next)
    (requested : Requested state.client ticket client effects)
    (same : next.client = client)
    (history :
      next.history = state.history ++ effects.filterMap (eventOf none))
    (live : ∀ ws ∈ next.live, ws ∈ state.live) :
    Matched next := by
  cases requested with
  | refused counted unsent =>
      refine matched.extend connected history ?_ (Or.inl live) (by simp)
        (by simp)
      rw [same]
      exact ⟨fun online => absurd unsent online, fun _ _ found => found⟩
  | sent request online putDown =>
      have fresh :
          state.client.promised.contains (state.client.requestId + 1) =
            false := by
        apply Bool.eq_false_iff.mpr
        intro contained
        have earlier := matched.numbered (by simp [online]) _
          (TreeMap.contains_iff_mem.mp contained)
        omega
      refine matched.sent connected online same ?_ live
      rw [history]
      simp only [fresh]
      rfl

theorem Matched.step {state : State} (matched : Matched state)
    (label : Label) (quiet : NoneOutstanding state label) :
    Matched (step state label) := by
  rcases step_changed state label with ⟨events, changed, history⟩
  have connected := matched.connected.step label
  have live :
      (∀ ws ∈ (Session.step state label).live, ws ∈ state.live) ∨
        state.client.promised.isEmpty = true := by
    cases label with
    | connection mode => exact Or.inr quiet
    | _ =>
        refine Or.inl fun ws member => ?_
        rcases step_live member with before | ⟨mode, impossible⟩
        · exact before
        · cases impossible
  generalize same : (Session.step state label).client = client at changed
  cases changed with
  | unchanged =>
      refine matched.extend connected history ?_ live (by simp) (by simp)
      rw [same]
      exact ⟨matched.numbered, fun _ _ found => found⟩
  | requested requested =>
      refine matched.requested connected requested same history ?_
      intro ws member
      rcases step_live member with before | ⟨mode, impossible⟩
      · exact before
      · cases impossible
  | initialized _ idle =>
      refine matched.extend connected history ?_ live (by simp) (by simp)
      rw [same]
      have missing := matched.connected.ws_eq_none idle
      exact ⟨fun online => absurd missing online, fun _ _ found => found⟩
  | recovered =>
      refine matched.extend connected history ?_ live (by simp) (by simp)
      rw [same]
      exact @foldl_recoverObserver (KeepsPromises state.client) _
        (fun progress entry _ => keepsPromises_recoverObserver progress entry)
        (state.client, []) ⟨matched.numbered, fun _ _ found => found⟩
  | connected established =>
      refine matched.extend connected history ?_ live (by simp) (by simp)
      rw [same]
      constructor
      · intro _ id member
        rw [handleConnection_promised established] at member
        exact absurd member (TreeMap.not_mem_of_isEmpty quiet)
      · intro id ticket found
        rwa [handleConnection_promised established] at found
  | dropped =>
      refine matched.extend connected history ?_ live (by simp) (by simp)
      rw [same]
      exact ⟨fun online => absurd rfl online, fun _ _ found => found⟩
  | offline =>
      refine matched.extend connected history ?_ live (by simp) (by simp)
      rw [same]
      exact ⟨fun online => absurd rfl online, fun _ _ found => found⟩
  | answered received parsed answered =>
      have answers := answersPromise_of_answered answered
      refine matched.extend connected history ?_ live ?_ ?_
      · rw [same]
        constructor
        · rw [answers.ws, answers.requestId]
          intro online id member
          rcases Option.isSome_iff_exists.mp
            (TreeMap.isSome_getElem?_iff_mem.mpr member) with
            ⟨promise, found⟩
          exact matched.numbered online id
            (TreeMap.mem_iff_isSome_getElem?.mpr
              (by simp [answers.promised id promise found]))
        · exact fun id ticket => answers.promised id (.request ticket)
      · intro ticket ws id member
        rcases completed_mem_events member with ⟨rfl, result, fulfilled⟩
        have found := answers.fulfilled _ id result fulfilled
        rcases matched.owned id ticket found with ⟨sentOn, accepted, only⟩
        rwa [only ws received]
      · intro ticket member
        exact answers.unbroken _ (broken_mem_events member)

/--
In a run in which no promise is left whenever a connection is established,
every future is completed by a response to the number of its own request on
the connection on which it was sent, and no promise is destroyed.
-/
theorem futures_completed_by_own_response (labels : List Label)
    (quiet : Admitted step NoneOutstanding State.initial labels) :
    (∀ ticket ws id,
      .completed ticket ws id ∈ (after labels).history →
        .accepted ticket ws id ∈ (after labels).history) ∧
      ∀ ticket, .broken ticket ∉ (after labels).history := by
  have matched : Matched (after labels) :=
    Admitted.invariant (fun _ label matched => matched.step label)
      matched_initial quiet
  exact ⟨matched.completed, matched.unbroken⟩

/-- The answer of a server to a get request. -/
def getResponse (requestId : String) : Frame :=
  .text (some (.object
    [("action", .string "get"), ("requestId", .string requestId),
      ("timestamp", .string "1"), ("value", .string "on")]))

/-- Each request is answered before the connection ends. -/
def answeredInTime : List Label :=
  [.connection .ssl, .enter (.get "A"), .request 0,
    .message 0 (getResponse "1"), .disconnection 0, .poll, .connection .ssl,
    .enter (.get "B"), .request 1, .message 1 (getResponse "1")]

theorem futures_completed_by_own_response_in_time :
    .completed 1 1 1 ∈ (after answeredInTime).history ∧
      .accepted 1 1 1 ∈ (after answeredInTime).history ∧
        ∀ ticket, .broken ticket ∉ (after answeredInTime).history := by
  have quiet : Admitted step NoneOutstanding State.initial answeredInTime :=
    ⟨rfl, trivial, trivial, trivial, trivial, trivial, rfl, trivial, trivial,
      trivial, trivial⟩
  have matched := futures_completed_by_own_response answeredInTime quiet
  have completed :
      .completed 1 1 1 ∈ (after answeredInTime).history := by
    decide +kernel
  exact ⟨completed, matched.1 1 1 1 completed, matched.2⟩

/-- A connection is lost before the answer to a request has arrived. -/
def lostAnswer : List Label :=
  [.connection .ssl, .enter (.get "A"), .request 0, .disconnection 0, .poll,
    .connection .ssl, .enter (.get "B"), .request 1,
    .message 1 (getResponse "1")]

/--
The second request has the number of the first one.  Its promise is destroyed,
and its answer completes the future of the first request.
-/
theorem answer_completes_request_of_lost_connection :
    .accepted 0 0 1 ∈ (after lostAnswer).history ∧
      .accepted 1 1 1 ∈ (after lostAnswer).history ∧
      .broken 1 ∈ (after lostAnswer).history ∧
      .completed 0 1 1 ∈ (after lostAnswer).history ∧
      .accepted 0 1 1 ∉ (after lostAnswer).history := by
  decide +kernel

end Anbox.Vis.RequestMatching
