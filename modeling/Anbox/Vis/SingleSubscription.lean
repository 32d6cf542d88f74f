import Anbox.Foundation.OrderedMap
import Anbox.Vis.Subscriptions
import Anbox.Vis.VisVehicleHal
import Mathlib.Data.Set.Subsingleton

/-!
# One subscription to all changes

After a reconnect the VIS client subscribes the observers of the previous
connection again, and the HAL subscribes a new one when it fetches the values.
An observer for all changes may be in any of the three tables of the client;
every step but the sending of a new subscription leaves it alone, moves it or
drops it.
-/

namespace Anbox.Vis.SingleSubscription

open Anbox.Foundation.OrderedMap
open Anbox.Foundation.Runs
open Anbox.Vis.Messages
open Anbox.Vis.Session (WellConnected wellConnected_initial)
open Anbox.Vis.Subscriptions (subscribeResponse)
open Anbox.Vis.VisClient
open Anbox.Vis.VisVehicleHal
open Std (TreeMap)

/-! ## Observers for all changes -/

inductive Table where
  | observers
  | subscriptionObservers
  | recoverObservers
deriving DecidableEq, Repr

def Table.entries (client : Client) :
    Table → TreeMap Int SubscriptionRequest
  | .observers => client.observers
  | .subscriptionObservers => client.subscriptionObservers
  | .recoverObservers => client.recoverObservers

/-- A table and a key. -/
abbrev Position := Table × Int

/-- There is an observer for all changes. -/
def Observes (client : Client) (position : Position) : Prop :=
  ∃ request,
    (position.1.entries client)[position.2]? = some request ∧
      request.propertyName = kAllTag

/-- There is at most one observer for all changes. -/
def AtMostOne (client : Client) : Prop :=
  {position | Observes client position}.Subsingleton

/-- A subscription is only sent while there is no observer. -/
def SubscribesAlone (state : State) : Label → Prop
  | .send thread =>
      ∀ sent ∈ state.sends thread, sent.2 = .subscribe kAllTag →
        state.session.halted = none → state.session.client.ws ≠ none →
          ∀ position, ¬Observes state.session.client position
  | _ => True

section

variable {client next : Client}

theorem AtMostOne.mono (once : AtMostOne client)
    (before :
      ∀ position, Observes next position → Observes client position) :
    AtMostOne next :=
  Set.Subsingleton.anti once before

/-- At most one observer has gone from one position to another. -/
theorem AtMostOne.moved (once : AtMostOne client)
    {source target : Position}
    (origins :
      ∀ position, Observes next position →
        Observes client position ∧ position ≠ source ∨
          position = target ∧ Observes client source) :
    AtMostOne next := by
  intro first firstObserves second secondObserves
  rcases origins first firstObserves with
    ⟨firstBefore, firstNe⟩ | ⟨rfl, fromSource⟩
  · rcases origins second secondObserves with
      ⟨secondBefore, -⟩ | ⟨rfl, fromSource⟩
    · exact once firstBefore secondBefore
    · exact absurd (once firstBefore fromSource) firstNe
  · rcases origins second secondObserves with
      ⟨secondBefore, secondNe⟩ | ⟨rfl, -⟩
    · exact absurd (once secondBefore fromSource) secondNe
    · rfl

/-! ## Steps of the client -/

theorem atMostOne_recoverObserver {progress : Client × List Effect}
    {entry : Int × SubscriptionRequest}
    (listed : progress.1.recoverObservers[entry.1]? = some entry.2)
    (once : AtMostOne progress.1) :
    AtMostOne (recoverObserver progress entry).1 := by
  cases connected : progress.1.ws with
  | none =>
      rw [recoverObserver_of_none connected]
      exact once
  | some ws =>
      rw [recoverObserver_of_ws connected]
      apply @AtMostOne.moved _ _ once (.recoverObservers, entry.1)
        (.subscriptionObservers, progress.1.requestId + 1)
      rintro ⟨table, key⟩ ⟨request, found, named⟩
      cases table with
      | observers => exact Or.inl ⟨⟨request, found, named⟩, by simp⟩
      | subscriptionObservers =>
          rcases getElem?_insertIfNew_eq_some found with old | ⟨rfl, rfl⟩
          · exact Or.inl ⟨⟨request, old, named⟩, by simp⟩
          · exact Or.inr ⟨rfl, entry.2, listed, named⟩
      | recoverObservers =>
          rcases getElem?_erase_eq_some_iff.mp found with ⟨other, old⟩
          exact Or.inl ⟨⟨request, old, named⟩, by simpa using other⟩

/-- An entry is in its table until the loop comes to it. -/
theorem atMostOne_recover {entries : List (Int × SubscriptionRequest)}
    {progress : Client × List Effect}
    (distinct : entries.Pairwise fun first second => first.1 ≠ second.1)
    (listed :
      ∀ entry ∈ entries,
        progress.1.recoverObservers[entry.1]? = some entry.2)
    (once : AtMostOne progress.1) :
    AtMostOne (entries.foldl recoverObserver progress).1 := by
  induction entries generalizing progress with
  | nil => exact once
  | cons entry entries inductionHypothesis =>
      rcases List.pairwise_cons.mp distinct with ⟨differs, distinct⟩
      have first := listed entry List.mem_cons_self
      apply inductionHypothesis distinct
      · intro later member
        have found := listed later (List.mem_cons_of_mem entry member)
        cases connected : progress.1.ws with
        | none => rwa [recoverObserver_of_none connected]
        | some ws =>
            rw [recoverObserver_of_ws connected]
            exact getElem?_erase_eq_some_iff.mpr
              ⟨(differs later member).symm, found⟩
      · exact atMostOne_recoverObserver first once

theorem atMostOne_recoverAll (once : AtMostOne client) :
    AtMostOne (client.recoverObservers.toList.foldl recoverObserver
      (client, [])).1 := by
  apply atMostOne_recover
  · exact TreeMap.distinct_keys_toList.imp fun different same =>
      different (Std.LawfulEqCmp.compare_eq_iff_eq.mpr same)
  · intro entry member
    exact TreeMap.mem_toList_iff_getElem?_eq_some.mp member
  · exact once

/-- A connection moves every observer to the same table. -/
theorem atMostOne_handleConnection {ws : WebSocket} {mode : ConnectionMode}
    (once : AtMostOne client)
    (established : handleConnection client ws mode = some next) :
    AtMostOne next := by
  cases mode with
  | ssl =>
      simp only [handleConnection] at established
      split at established
      · cases established
      · cases established
        have origins : ∀ position,
            Observes
                { client with
                  connectedState := .connected
                  ws := some ws
                  recoverObservers := moveObservers client
                  observers := ∅
                  subscriptionObservers := ∅ } position →
              position.1 = .recoverObservers ∧
                ∃ origin, origin.2 = position.2 ∧ Observes client origin := by
          rintro ⟨table, key⟩ ⟨request, found, named⟩
          cases table with
          | observers => simp [Table.entries] at found
          | subscriptionObservers => simp [Table.entries] at found
          | recoverObservers =>
              refine ⟨rfl, ?_⟩
              rcases getElem?_insertAllIfNew_eq_some found with old | moved
              · exact ⟨(.recoverObservers, key), rfl, request, old, named⟩
              · exact ⟨(.observers, key), rfl, request,
                  TreeMap.mem_toList_iff_getElem?_eq_some.mp moved, named⟩
        intro first firstObserves second secondObserves
        rcases origins first firstObserves with
          ⟨firstTable, firstOrigin, firstKey, firstBefore⟩
        rcases origins second secondObserves with
          ⟨secondTable, secondOrigin, secondKey, secondBefore⟩
        have same := once firstBefore secondBefore
        exact Prod.ext (firstTable.trans secondTable.symm)
          (firstKey.symm.trans ((congrArg Prod.snd same).trans secondKey))
  | nonSsl | unexpected =>
      cases established
      exact once

theorem atMostOne_answered {response : CommandResult}
    {effects : List Effect} (once : AtMostOne client)
    (answered : Answered client response next effects) :
    AtMostOne next := by
  cases answered with
  | ignored | notified => exact once
  | settled result found => exact once
  | @subscribed id subscriptionId promise request result answer waiting
      found =>
      apply @AtMostOne.moved _ _ once (.subscriptionObservers, id)
        (.observers, subscriptionId)
      rintro ⟨table, key⟩ ⟨observer, present, named⟩
      cases table with
      | observers =>
          rcases getElem?_insertIfNew_eq_some present with old | ⟨rfl, rfl⟩
          · exact Or.inl ⟨⟨observer, old, named⟩, by simp⟩
          · exact Or.inr ⟨rfl, observer, waiting, named⟩
      | subscriptionObservers =>
          rcases getElem?_erase_eq_some_iff.mp present with ⟨other, old⟩
          exact Or.inl ⟨⟨observer, old, named⟩, by simpa using other⟩
      | recoverObservers => exact Or.inl ⟨⟨observer, present, named⟩, by simp⟩
  | unsubscribed result answer found =>
      refine once.mono ?_
      rintro ⟨table, key⟩ ⟨observer, present, named⟩
      cases table with
      | observers =>
          exact ⟨observer, (getElem?_erase_eq_some_iff.mp present).2, named⟩
      | subscriptionObservers =>
          exact ⟨observer, (getElem?_erase_eq_some_iff.mp present).2, named⟩
      | recoverObservers => exact ⟨observer, present, named⟩
  | unsubscribedAll result found =>
      refine once.mono ?_
      rintro ⟨table, key⟩ ⟨observer, present, named⟩
      cases table with
      | observers => simp [Table.entries] at present
      | subscriptionObservers => exact ⟨observer, present, named⟩
      | recoverObservers => exact ⟨observer, present, named⟩

/-- Requests without an observer leave the tables alone. -/
theorem atMostOne_sendRequest (ticket : Ticket) (request : Request)
    (once : AtMostOne client) :
    AtMostOne (sendRequest client ticket request).1 := by
  cases connected : client.ws with
  | none =>
      rw [sendRequest, sendWSMessage_of_none connected]
      exact once
  | some ws =>
      rw [sendRequest, sendWSMessage_of_ws connected]
      exact once

theorem atMostOne_setProperty (ticket : Ticket) (path value : String)
    (once : AtMostOne client) :
    AtMostOne (setProperty client ticket path value).1 := by
  unfold setProperty
  dsimp only
  split
  · exact once
  · exact once

/-- A subscription that is sent adds its observer. -/
theorem observes_subscribeProperty_iff {ws : WebSocket} (ticket : Ticket)
    (connected : client.ws = some ws)
    (numbered :
      ∀ id ∈ client.subscriptionObservers, id ≤ client.requestId)
    (position : Position) :
    Observes (subscribeProperty client ticket kAllTag).1 position ↔
      position = (.subscriptionObservers, client.requestId + 1) ∨
        Observes client position := by
  have fresh : client.requestId + 1 ∉ client.subscriptionObservers := by
    intro member
    have earlier := numbered _ member
    omega
  rw [subscribeProperty, sendObserverRequest,
    sendWSMessage_of_ws connected]
  rcases position with ⟨table, key⟩
  cases table with
  | observers =>
      simp [Observes, Table.entries, awaitAnswer, emplacePromise,
        insertObserver]
  | subscriptionObservers =>
      simp only [Observes, Table.entries, awaitAnswer, emplacePromise,
        insertObserver]
      rw [getElem?_insertIfNew_of_fresh fresh]
      by_cases new : key = client.requestId + 1
      · subst new
        simp
      · simp [new]
  | recoverObservers =>
      simp [Observes, Table.entries, awaitAnswer, emplacePromise,
        insertObserver]

/-- One more observer is one too many exactly if there was one. -/
theorem atMostOne_subscribeProperty_iff {ws : WebSocket} (ticket : Ticket)
    (connected : client.ws = some ws)
    (numbered :
      ∀ id ∈ client.subscriptionObservers, id ≤ client.requestId) :
    AtMostOne (subscribeProperty client ticket kAllTag).1 ↔
      ∀ position, ¬Observes client position := by
  have observes := observes_subscribeProperty_iff ticket connected numbered
  constructor
  · intro once position observed
    have new := once ((observes position).mpr (Or.inr observed))
      ((observes _).mpr (Or.inl rfl))
    -- The number of the new observer was not in use.
    subst new
    rcases observed with ⟨request, found, -⟩
    have earlier := numbered _
      (TreeMap.mem_iff_isSome_getElem?.mpr (Option.isSome_of_eq_some found))
    omega
  · intro none first firstObserves second secondObserves
    rcases (observes first).mp firstObserves with rfl | before
    · rcases (observes second).mp secondObserves with rfl | before
      · rfl
      · exact absurd before (none second)
    · exact absurd before (none first)

end

/-! ## Steps of the HAL -/

section

variable {session : Session.State}

theorem atMostOne_hub {label : Session.Label} (polling : ofHub label = true)
    (once : AtMostOne session.client) :
    AtMostOne (Session.step session label).client := by
  rcases Session.step_changed session label with ⟨events, changed, -⟩
  generalize (Session.step session label).client = client at changed
  cases changed with
  | unchanged | initialized | dropped | offline => exact once
  | requested requested => cases polling
  | recovered => exact atMostOne_recoverAll once
  | connected established => exact atMostOne_handleConnection once established
  | answered live parsed answered => exact atMostOne_answered once answered

theorem Entered.client {next : Session.State}
    (entered : Entered session next) : next.client = session.client := by
  cases entered with
  | unchanged => rfl
  | entered ours =>
      unfold Session.step
      split
      · rfl
      · simp only [Session.advance]
        split <;> rfl

/-- Only requests of the HAL wait for the lock of the client. -/
def OnlyOurs (session : Session.State) : Prop :=
  ∀ entry ∈ session.entered, ofHal entry.2 = true

theorem onlyOurs_waiting {ticket : Ticket} {request : Request}
    (ours : OnlyOurs session)
    (waiting : session.waiting ticket = some request) :
    ofHal request = true := by
  rcases Option.map_eq_some_iff.mp waiting with ⟨entry, found, rfl⟩
  exact ours entry (List.mem_of_find?_eq_some found)

theorem entered_of_ofHub {label : Session.Label}
    (polling : ofHub label = true) :
    (Session.step session label).entered = session.entered := by
  unfold Session.step
  split
  · rfl
  · cases label with
    | enter request => cases polling
    | request ticket => cases polling
    | poll => rfl
    | connection mode =>
        simp only [Session.advance]
        split
        · rfl
        · split <;> rfl
    | error | disconnection ws | transfer ws =>
        simp only [Session.advance]
        split <;> rfl
    | message ws frame =>
        simp only [Session.advance]
        split
        · split <;> rfl
        · rfl

theorem OnlyOurs.moved {next : Session.State} (ours : OnlyOurs session)
    (moved : Moved session next) : OnlyOurs next := by
  cases moved with
  | polled polling =>
      intro entry member
      rw [entered_of_ofHub polling] at member
      exact ours entry member
  | requested ticket =>
      intro entry member
      apply ours entry
      unfold Session.step at member
      split at member
      · exact member
      · simp only [Session.advance] at member
        split at member
        · exact member
        · exact (List.mem_filter.mp member).1
  | entered entered =>
      cases entered with
      | unchanged => exact ours
      | @entered request isOurs =>
          intro entry member
          unfold Session.step at member
          split at member
          · exact ours entry member
          · simp only [Session.advance] at member
            split at member
            · exact ours entry member
            · rcases List.mem_append.mp member with old | new
              · exact ours entry old
              · rw [List.mem_singleton.mp new]
                exact isOurs

theorem WellConnected.moved {next : Session.State}
    (connected : WellConnected session) (moved : Moved session next) :
    WellConnected next := by
  cases moved with
  | polled polling => exact connected.step _
  | requested ticket => exact connected.step _
  | entered entered =>
      cases entered with
      | unchanged => exact connected
      | entered isOurs => exact connected.step _

theorem step_request_client {ticket : Ticket} {request : Request}
    (running : session.halted = none)
    (waiting : session.waiting ticket = some request) :
    (Session.step session (.request ticket)).client =
      (perform session.client ticket request).1 := by
  simp [Session.step, running, Session.advance, waiting]

end

/-- What holds in every state of every run. -/
structure Regular (state : State) : Prop where
  connected : WellConnected state.session
  ours : OnlyOurs state.session

theorem regular_initial : Regular State.initial :=
  ⟨wellConnected_initial, fun entry member => by cases member⟩

theorem Regular.preserved {state : State} (label : Label)
    (regular : Regular state) : Regular (step state label) :=
  ⟨WellConnected.moved regular.connected (step_moved state label),
    regular.ours.moved (step_moved state label)⟩

/-- A send keeps a single observer single if and only if it may. -/
theorem subscribesAlone_send_iff {state : State} {thread : ThreadId}
    (regular : Regular state) (once : AtMostOne state.session.client)
    (running : state.session.halted = none) :
    SubscribesAlone state (.send thread) ↔
      AtMostOne (state.send thread).session.client := by
  rw [send_session]
  cases sends : state.sends thread with
  | none => simp [SubscribesAlone, sends, once]
  | some sent =>
      rcases sent with ⟨ticket, request⟩
      have waiting := sends_waiting sends
      have isOurs := onlyOurs_waiting regular.ours waiting
      dsimp only
      rw [step_request_client running waiting]
      cases request with
      | get path =>
          have kept := atMostOne_sendRequest ticket (.get path) once
          simp [SubscribesAlone, sends, perform, getProperty, kept]
      | set path value =>
          have kept := atMostOne_setProperty ticket path value once
          simp [SubscribesAlone, sends, perform, kept]
      | unsubscribe subscriptionId => cases isOurs
      | unsubscribeAll => cases isOurs
      | subscribe path =>
          obtain rfl : path = kAllTag := by simpa [ofHal] using isOurs
          cases connected : state.session.client.ws with
          | none =>
              have kept : AtMostOne
                  (subscribeProperty state.session.client ticket
                    kAllTag).1 := by
                rw [subscribeProperty, sendObserverRequest,
                  sendWSMessage_of_none connected]
                exact once
              simp [SubscribesAlone, connected, perform, kept]
          | some ws =>
              rw [perform, atMostOne_subscribeProperty_iff ticket connected
                (regular.connected.numbered (by simp [connected]))]
              simp [SubscribesAlone, sends, running, connected]

theorem subscribesAlone_iff {state : State} (label : Label)
    (regular : Regular state) (once : AtMostOne state.session.client) :
    SubscribesAlone state label ↔
      AtMostOne (step state label).session.client := by
  unfold step
  split
  · next halted =>
    refine ⟨fun _ => once, fun _ => ?_⟩
    cases label with
    | send thread =>
        intro sent _ _ running
        rw [running] at halted
        cases halted
    | hub | notify | call | answer | timeout | clear => trivial
  · next running =>
    have entered {next : Session.State}
        (moves : Entered state.session next) : AtMostOne next.client := by
      rwa [Entered.client moves]
    cases label with
    | send thread =>
        exact subscribesAlone_send_iff regular once (by simpa using running)
    | hub label =>
        refine ⟨fun _ => ?_, fun _ => trivial⟩
        show AtMostOne (state.hub label).session.client
        rcases hub_cases state label with idle | ⟨-, polling, moves⟩
        · rwa [idle]
        · rw [moves]
          exact atMostOne_hub polling once
    | notify =>
        refine ⟨fun _ => ?_, fun _ => trivial⟩
        rwa [notify_session]
    | call thread caller =>
        exact ⟨fun _ => entered (call_entered caller), fun _ => trivial⟩
    | answer thread =>
        exact ⟨fun _ => entered answer_entered, fun _ => trivial⟩
    | timeout thread =>
        refine ⟨fun _ => ?_, fun _ => trivial⟩
        rwa [timeout_session]
    | clear thread =>
        exact ⟨fun _ => entered clear_entered, fun _ => trivial⟩

/--
There is at most one observer for all changes in every state of a run exactly
if every subscription is sent while there is none.
-/
theorem single_subscription_iff (labels : List Label) :
    (∀ earlier, earlier <+: labels →
        AtMostOne (after earlier).session.client) ↔
      Admitted step SubscribesAlone State.initial labels := by
  refine (@admitted_iff_always State Label step SubscribesAlone Regular
    (fun state => AtMostOne state.session.client)
    (fun _ label => Regular.preserved label)
    (fun _ label => subscribesAlone_iff label)
    State.initial regular_initial ?_ labels).symm
  rintro ⟨table, key⟩ ⟨request, found, -⟩
  cases table <;>
    simp [State.initial, Session.State.initial, Client.initial,
      Table.entries] at found

/-- A call after a reconnect, when the client has recovered its observer. -/
def reconnected : List Label :=
  [.hub (.connection .ssl), .notify] ++
    fetchingCall 0 "1" (subscribeResponse "2" "10") ++
    [.hub (.disconnection 0), .notify, .hub .poll, .hub (.connection .ssl),
      .notify, .hub .poll, .hub (.message 1 (subscribeResponse "1" "20"))] ++
    fetchingCall 1 "2" (subscribeResponse "3" "21")

/-- The server now notifies two observers of every change. -/
theorem two_observers_after_reconnect :
    (after reconnected).session.halted = none ∧
      Observes (after reconnected).session.client (.observers, 20) ∧
      Observes (after reconnected).session.client (.observers, 21) ∧
      ¬AtMostOne (after reconnected).session.client := by
  have names : ∀ key ∈ [(20 : Int), 21],
      ((after reconnected).session.client.observers[key]?.map
        SubscriptionRequest.propertyName) = some kAllTag := by
    decide +kernel
  have first : Observes (after reconnected).session.client
      (.observers, 20) :=
    Option.map_eq_some_iff.mp (names 20 (by simp))
  have second : Observes (after reconnected).session.client
      (.observers, 21) :=
    Option.map_eq_some_iff.mp (names 21 (by simp))
  refine ⟨by decide +kernel, first, second, fun once => ?_⟩
  have same := congrArg Prod.snd (once first second)
  revert same
  decide

end Anbox.Vis.SingleSubscription
