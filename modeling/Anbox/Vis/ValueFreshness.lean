import Anbox.Vis.Subscriptions
import Anbox.Vis.VisVehicleHal

/-!
# Values that are said to be fresh

`fetchAllAndSubscribe` clears `mValuesAreDirty` at its end, whether or not the
server has accepted the subscription.  Called by `subscribe` it has no lock,
so that a disconnect may also be reported between the answer of the server and
the end of the call.
-/

namespace Anbox.Vis.ValueFreshness

open Anbox.Foundation.Runs
open Anbox.Vis.Messages
open Anbox.Vis.Subscriptions (subscribeResponse)
open Anbox.Vis.VisClient
open Anbox.Vis.VisVehicleHal

/--
When the flag is cleared a subscription has been accepted on the connection
and no disconnect was reported since the server has sent the values, or the
report of a disconnect is still to set the flag again.
-/
def ClearsFresh (state : State) : Label → Prop
  | .clear thread =>
      ∀ call ∈ state.callOf thread, call.phase = .clearing →
        state.notifying = some false ∨
          call.fetchedIn = some state.disconnects ∧ state.accepted = true
  | _ => True

/-- What is known of the values that a call has fetched. -/
def Sound (state : State) (call : Call) : Prop :=
  ∀ count, call.fetchedIn = some count →
    count ≤ state.disconnects ∧
      (count = state.disconnects → state.fetched = true)

/-- What holds between two steps. -/
structure Valid (state : State) : Prop where
  fresh :
    state.valuesAreDirty = false →
      state.notifying = some false ∨
        state.fetched = true ∧ state.accepted = true
  calls : ∀ entry ∈ state.calls, Sound state entry.2
  answers :
    ∀ answer ∈ state.answers, answer.disconnects ≤ state.disconnects

theorem valid_initial : Valid State.initial := by
  constructor <;> simp [State.initial]

section

variable {state : State} {thread : ThreadId}

theorem sound_none (state : State) (caller : Caller) (phase : Phase) :
    Sound state ⟨caller, phase, none⟩ := by
  intro count impossible
  cases impossible

theorem mem_of_callOf {call : Call}
    (found : state.callOf thread = some call) :
    ∃ entry ∈ state.calls, entry.2 = call := by
  rcases Option.map_eq_some_iff.mp found with ⟨entry, isFound, same⟩
  exact ⟨entry, List.mem_of_find?_eq_some isFound, same⟩

theorem Valid.sound {call : Call} (valid : Valid state)
    (found : state.callOf thread = some call) : Sound state call := by
  rcases mem_of_callOf found with ⟨entry, member, rfl⟩
  exact valid.calls entry member

theorem Valid.session (valid : Valid state) (session : Session.State) :
    Valid { state with session } :=
  ⟨valid.fresh, valid.calls, valid.answers⟩

theorem Valid.endCall (valid : Valid state) (thread : ThreadId) :
    Valid (state.endCall thread) where
  fresh := valid.fresh
  calls := fun entry member =>
    valid.calls entry (List.mem_filter.mp member).1
  answers := valid.answers

theorem Valid.setCall {call : Call} (valid : Valid state)
    (sound : Sound state call) : Valid (state.setCall thread call) where
  fresh := valid.fresh
  calls := by
    intro entry member
    rcases List.mem_append.mp member with old | new
    · exact valid.calls entry (List.mem_filter.mp old).1
    · rw [List.mem_singleton.mp new]
      exact sound
  answers := valid.answers

theorem Valid.enter {call : Ticket → Call} {request : Request}
    {otherwise : State} (valid : Valid state)
    (sound : ∀ ticket, Sound state (call ticket))
    (otherwiseValid : Valid otherwise) :
    Valid (state.enter thread call request otherwise) := by
  unfold State.enter
  split
  · exact otherwiseValid
  · exact (valid.session _).setCall (sound _)

theorem Valid.proceed (valid : Valid state) (caller : Caller) :
    Valid (state.proceed thread caller) := by
  unfold State.proceed
  split
  · exact valid.enter (fun _ => sound_none _ _ _) (valid.endCall thread)
  · exact valid.endCall thread

theorem Valid.fetchAll (valid : Valid state) (caller : Caller) :
    Valid (state.fetchAll thread caller) := by
  unfold State.fetchAll
  split
  · exact valid.enter (fun _ => sound_none _ _ _) valid
  · exact valid

theorem Valid.call (valid : Valid state) (caller : Caller) :
    Valid (state.call thread caller) := by
  unfold State.call
  split
  · exact valid
  · split
    · exact valid.enter (fun _ => sound_none _ _ _) valid
    · split
      · exact valid.fetchAll caller
      · exact valid.proceed caller

theorem Valid.giveUp {call : Call} (valid : Valid state)
    (sound : Sound state call) : Valid (state.giveUp thread call) := by
  unfold State.giveUp
  split
  · exact valid.endCall thread
  · unfold State.leaveSubscribeToAll
    split
    · exact valid.endCall thread
    · exact valid.setCall sound
  · exact valid
  · exact valid.endCall thread

theorem Valid.send (valid : Valid state) : Valid (state.send thread) := by
  unfold State.send
  split
  · next call ticket request found sends =>
    have next := valid.session
      (Session.step state.session (.request ticket))
    have sound : Sound state call := valid.sound found
    dsimp only
    split
    · exact next.giveUp sound
    · split
      · exact next.endCall thread
      · exact next
  · exact valid

theorem Valid.timeout (valid : Valid state) :
    Valid (state.timeout thread) := by
  unfold State.timeout
  split
  · next call found _ =>
    split
    · exact valid.giveUp (valid.sound found)
    · exact valid
  · exact valid

/-- The values of an answer are stored. -/
theorem Valid.stored {answer : Answer} (valid : Valid state)
    (before : answer.disconnects ≤ state.disconnects) :
    let stored :=
      { state with
        fetched := state.fetched || answer.disconnects == state.disconnects }
    Valid stored ∧
      ∀ caller phase,
        Sound stored ⟨caller, phase, some answer.disconnects⟩ := by
  intro stored
  refine ⟨⟨?_, ?_, valid.answers⟩, ?_⟩
  · intro clean
    rcases valid.fresh clean with reporting | ⟨fetched, accepted⟩
    · exact Or.inl reporting
    · exact Or.inr ⟨by simp [stored, fetched], accepted⟩
  · intro entry member count fetchedIn
    rcases valid.calls entry member count fetchedIn with ⟨atMost, current⟩
    exact ⟨atMost, fun same => by simp [stored, current same]⟩
  · intro caller phase count fetchedIn
    cases fetchedIn
    exact ⟨before, fun same => by simp [stored, same]⟩

theorem mem_of_answerOf {call : Call} {answer : Answer}
    (ready : state.answerOf call = some answer) :
    answer ∈ state.answers := by
  rcases Option.bind_eq_some_iff.mp ready with ⟨ticket, -, found⟩
  exact List.mem_of_find?_eq_some found

theorem Valid.answer (valid : Valid state) :
    Valid (state.answer thread) := by
  unfold State.answer
  split
  · exact valid
  · next call found =>
    split
    · exact valid
    · next answer ready =>
      split
      · rcases valid.stored (valid.answers answer (mem_of_answerOf ready))
          with ⟨stored, sound⟩
        exact stored.enter (fun _ => sound _ _) (stored.setCall (sound _ _))
      · exact valid.giveUp (valid.sound found)

/-- The flag is only cleared over values that are fresh. -/
theorem Valid.clear (valid : Valid state)
    (fresh : ClearsFresh state (.clear thread)) :
    Valid (state.clear thread) := by
  unfold State.clear
  split
  · exact valid
  · next call found =>
    split
    · next isClearing =>
      have cleared : Valid { state with valuesAreDirty := false } := by
        refine ⟨fun _ => ?_, valid.calls, valid.answers⟩
        rcases fresh call found isClearing with
          reporting | ⟨fetchedIn, accepted⟩
        · exact Or.inl reporting
        · have fetched := (valid.sound found _ fetchedIn).2 rfl
          exact Or.inr ⟨fetched, accepted⟩
      exact cleared.proceed _
    · exact valid

theorem Valid.hub (valid : Valid state) (label : Session.Label) :
    Valid (state.hub label) := by
  rcases hub_cases state label with idle | ⟨notReporting, -, moves⟩
  · rwa [idle]
  · rw [moves]
    constructor
    case fresh =>
      intro clean
      rcases valid.fresh clean with reporting | ⟨fetched, accepted⟩
      · rw [notReporting] at reporting
        cases reporting
      · by_cases ended : notificationOf state.session label = some false
        · exact Or.inl ended
        · exact Or.inr ⟨fetched, by simp [accepted, ended]⟩
    case calls => exact valid.calls
    case answers =>
      intro answer member
      rcases List.mem_append.mp member with old | new
      · exact valid.answers answer old
      · rcases List.mem_filterMap.mp new with ⟨effect, -, made⟩
        split at made
        · cases made
          exact Nat.le_refl _
        · cases made

theorem Valid.notify (valid : Valid state) : Valid state.notify := by
  unfold State.notify
  split
  · exact valid
  · next connected reporting =>
    split
    · exact valid
    · split
      · next isConnected =>
        refine ⟨fun clean => ?_, valid.calls, valid.answers⟩
        rcases valid.fresh clean with ended | fresh
        · rw [reporting, isConnected] at ended
          cases ended
        · exact Or.inr fresh
      · constructor
        case fresh => exact fun clean => by cases clean
        case calls =>
          -- What was fetched so far was fetched before this disconnect.
          intro entry member count fetchedIn
          have before := (valid.calls entry member count fetchedIn).1
          dsimp only
          omega
        case answers =>
          intro answer member
          exact Nat.le_succ_of_le (valid.answers answer member)

theorem Valid.preserved (label : Label) (valid : Valid state)
    (fresh : ClearsFresh state label) : Valid (step state label) := by
  unfold step
  split
  · exact valid
  · cases label with
    | hub label => exact valid.hub label
    | notify => exact valid.notify
    | call thread caller => exact valid.call caller
    | send thread => exact valid.send
    | answer thread => exact valid.answer
    | timeout thread => exact valid.timeout
    | clear thread => exact valid.clear fresh

end

/--
If the flag is only cleared over values that are fresh then, whenever no call
and no notification is in progress and the flag is not set, the values were
fetched since the last disconnect notification and a subscription to all
changes was accepted on the connection.
-/
theorem clean_values_fresh (labels : List Label)
    (fresh : Admitted step ClearsFresh State.initial labels) :
    ∀ earlier, earlier <+: labels →
      (after earlier).Quiet → (after earlier).valuesAreDirty = false →
        (after earlier).fetched = true ∧ (after earlier).accepted = true := by
  intro earlier isPrefix quiet clean
  have valid : Valid (after earlier) :=
    (fresh.earlier isPrefix).invariant
      (fun _ label => Valid.preserved label) valid_initial
  rcases valid.fresh clean with reporting | holds
  · rw [quiet.2] at reporting
    cases reporting
  · exact holds

/-! ## A subscription that is accepted and one that is not -/

/-- A server that refuses a subscription. -/
def refusedResponse (requestId : String) : Frame :=
  .text (some (.object
    [("action", .string "subscribe"), ("requestId", .string requestId),
      ("error", .string "too many subscriptions"),
      ("timestamp", .string "1")]))

/-- The first call after a connection. -/
def firstCall (response : Frame) : List Label :=
  [.hub (.connection .ssl), .notify] ++ fetchingCall 0 "1" response

theorem clean_values_fresh_first_call :
    let labels := firstCall (subscribeResponse "2" "10")
    (after labels).valuesAreDirty = false ∧
      (after labels).fetched = true ∧ (after labels).accepted = true := by
  intro labels
  have clean : (after labels).valuesAreDirty = false := by decide +kernel
  have quiet : (after labels).Quiet :=
    ⟨by decide +kernel, by decide +kernel⟩
  refine ⟨clean, clean_values_fresh labels ?_ labels
    (List.prefix_refl labels) quiet clean⟩
  refine ⟨trivial, trivial, trivial, trivial, trivial, trivial, trivial,
    trivial, trivial, ?_, trivial⟩
  simp only [ClearsFresh]
  decide +kernel

/-- The flag is cleared although the server has refused the subscription. -/
theorem clean_without_subscription :
    let state := after (firstCall (refusedResponse "2"))
    state.Quiet ∧ state.valuesAreDirty = false ∧ state.accepted = false ∧
      state.session.client.connectedState = .connected := by
  refine ⟨⟨by decide +kernel, by decide +kernel⟩, by decide +kernel,
    by decide +kernel, by decide +kernel⟩

end Anbox.Vis.ValueFreshness
