import Anbox.Vehicle.EventDispatch

/-!
# Which events get to a client

Every event that the queue takes is handed out once and in order, or it is
still on its way; a client that stays subscribed to a property gets all of its
events.  Once both calls of a shutdown have been made the worker comes to its
end, whatever the other threads do.
-/

namespace Anbox.Vehicle.EventDelivery

open Anbox.Foundation.Runs
open Anbox.Vehicle.ClientSubscriptions
open Anbox.Vehicle.EventDispatch
open Anbox.Vehicle.LedgerInvariants
open Anbox.Vehicle.ServedSubscriptions
open Anbox.Vehicle.SubscriptionLedger
open Anbox.Vehicle.SubscriptionRefinement

universe u v w

variable {Callback : Type u} {Rate : Type v} {Event : Type w}
  {prop : Event → Int}

/-! ## Order -/

/-- The batch that the worker has taken and not handed out. -/
def inHand : Point Event → List (List Event)
  | .delivering items => [items]
  | .starting => []
  | .testing => []
  | .waiting => []
  | .woken => []
  | .sleeping => []
  | .slept => []
  | .flushing => []
  | .leaving => []
  | .finished => []

/-- All batches that were taken out of the queue. -/
def batches (dispatch : Dispatch Callback Rate Event) : List (List Event) :=
  dispatch.handed.map Prod.snd ++ inHand dispatch.point

/-- What the managers that handed batches out found for a client. -/
def due (prop : Event → Int) (client : Nat)
    (handed : List (SubscriptionManager Callback Rate × List Event)) :
    List Event :=
  handed.flatMap fun batch =>
    valuesFor prop batch.1 eventsFromCar client batch.2

structure InOrder (prop : Event → Int)
    (dispatch : Dispatch Callback Rate Event) : Prop where
  order : dispatch.accepted =
    (batches dispatch).flatten ++ dispatch.queue
  nonempty : ∀ items ∈ batches dispatch, items ≠ []
  delivered : ∀ client,
    received client dispatch.calls = due prop client dispatch.handed
  called : ∀ call ∈ dispatch.calls, call.2 ≠ []

theorem inOrder_new :
    InOrder prop (Dispatch.new : Dispatch Callback Rate Event) where
  order := rfl
  nonempty := List.forall_mem_nil _
  delivered := fun _ => rfl
  called := List.forall_mem_nil _

section

variable {dispatch : Dispatch Callback Rate Event}

/-- A step that leaves the batches and the calls alone. -/
theorem InOrder.goTo (inOrder : InOrder prop dispatch) {point : Point Event}
    (same : inHand point = inHand dispatch.point) :
    InOrder prop (dispatch.goTo point) := by
  have kept : batches (dispatch.goTo point) = batches dispatch := by
    rw [batches, batches, Dispatch.goTo, same]
  refine ⟨?_, ?_, inOrder.delivered, inOrder.called⟩
  · rw [kept]
    exact inOrder.order
  · rw [kept]
    exact inOrder.nonempty

theorem InOrder.push (inOrder : InOrder prop dispatch) (item : Event) :
    InOrder prop (push dispatch item) := by
  rw [EventDispatch.push]
  split
  · refine ⟨?_, inOrder.nonempty, inOrder.delivered, inOrder.called⟩
    dsimp only
    rw [inOrder.order, List.append_assoc]
    rfl
  · exact inOrder

theorem InOrder.flush (inOrder : InOrder prop dispatch)
    (atFlush : dispatch.point = .flushing) :
    InOrder prop (work prop dispatch) := by
  rw [work, atFlush]
  dsimp only
  by_cases nothing : dispatch.queue = [] ∨ dispatch.isActive = false
  · rw [EventDispatch.flush, if_pos nothing]
    exact inOrder.goTo (by rw [atFlush]; rfl)
  · rw [EventDispatch.flush, if_neg nothing]
    rw [not_or] at nothing
    dsimp only
    rw [if_neg nothing.1]
    have before : batches dispatch = dispatch.handed.map Prod.snd := by
      rw [batches, atFlush]
      exact List.append_nil _
    refine ⟨?_, ?_, inOrder.delivered, inOrder.called⟩
    · have order := inOrder.order
      rw [before] at order
      dsimp only [Dispatch.goTo, batches, inHand]
      rw [order, List.flatten_append, List.flatten_singleton, List.append_nil]
    · have nonempty := inOrder.nonempty
      rw [before] at nonempty
      intro items member
      rcases List.mem_append.mp member with handed | last
      · exact nonempty items handed
      · rw [List.mem_singleton.mp last]
        exact nothing.1

theorem received_append (client : Nat)
    (earlier later : List (Nat × List Event)) :
    received client (earlier ++ later) =
      received client earlier ++ received client later := by
  rw [received, List.filter_append, List.flatMap_append]
  rfl

theorem InOrder.deliver (inOrder : InOrder prop dispatch)
    {items : List Event} (isHeld : dispatch.point = .delivering items) :
    InOrder prop ((onBatchHalEvent prop dispatch items).goTo .testing) := by
  have kept : batches ((onBatchHalEvent prop dispatch items).goTo .testing) =
      batches dispatch := by
    rw [batches, batches, isHeld]
    simp [Dispatch.goTo, onBatchHalEvent, inHand]
  refine ⟨?_, ?_, ?_, ?_⟩
  · rw [kept]
    exact inOrder.order
  · rw [kept]
    exact inOrder.nonempty
  · intro client
    dsimp only [Dispatch.goTo, onBatchHalEvent]
    rw [received_append, received_distribute, inOrder.delivered, due, due,
      List.flatMap_append, List.flatMap_singleton]
  · intro call member
    rcases List.mem_append.mp member with before | new
    · exact inOrder.called call before
    · exact (calls_distribute prop dispatch.service.manager eventsFromCar
        items).1 call new

theorem InOrder.work (inOrder : InOrder prop dispatch) :
    InOrder prop (work prop dispatch) := by
  cases atPoint : dispatch.point with
  | starting =>
      rw [EventDispatch.work, atPoint]
      have moved : InOrder prop
          (dispatch.goTo
            (if dispatch.consumer = .init then .testing else .leaving)) := by
        refine inOrder.goTo ?_
        rw [atPoint]
        split <;> rfl
      exact ⟨moved.order, moved.nonempty, moved.delivered, moved.called⟩
  | testing =>
      rw [EventDispatch.work, atPoint]
      refine inOrder.goTo ?_
      rw [atPoint]
      split <;> rfl
  | waiting =>
      rw [EventDispatch.work, atPoint]
      dsimp only
      split
      · exact inOrder
      · exact inOrder.goTo (by rw [atPoint]; rfl)
  | woken =>
      rw [EventDispatch.work, atPoint]
      refine inOrder.goTo ?_
      rw [atPoint]
      split <;> rfl
  | sleeping =>
      rw [EventDispatch.work, atPoint]
      exact inOrder.goTo (by rw [atPoint]; rfl)
  | slept =>
      rw [EventDispatch.work, atPoint]
      refine inOrder.goTo ?_
      rw [atPoint]
      split <;> rfl
  | flushing => exact inOrder.flush atPoint
  | delivering items =>
      rw [EventDispatch.work, atPoint]
      exact inOrder.deliver atPoint
  | leaving =>
      rw [EventDispatch.work, atPoint]
      have moved : InOrder prop (dispatch.goTo .finished) :=
        inOrder.goTo (by rw [atPoint]; rfl)
      exact ⟨moved.order, moved.nonempty, moved.delivered, moved.called⟩
  | finished =>
      rw [EventDispatch.work, atPoint]
      exact inOrder

end

/-! ## What is handed out -/

theorem push_handed (dispatch : Dispatch Callback Rate Event) (item : Event) :
    (push dispatch item).service = dispatch.service ∧
      (push dispatch item).handed = dispatch.handed ∧
        (push dispatch item).calls = dispatch.calls := by
  rw [push]
  split <;> exact ⟨rfl, rfl, rfl⟩

/-- What a step hands out, and what it calls a client with. -/
theorem work_handed (prop : Event → Int)
    (dispatch : Dispatch Callback Rate Event) :
    (work prop dispatch).service = dispatch.service ∧
      (((work prop dispatch).handed = dispatch.handed ∧
          (work prop dispatch).calls = dispatch.calls) ∨
        ∃ items,
          (work prop dispatch).handed =
              dispatch.handed ++ [(dispatch.service.manager, items)] ∧
            (work prop dispatch).calls =
              dispatch.calls ++
                distributeValuesToClients prop dispatch.service.manager items
                  eventsFromCar) := by
  cases atPoint : dispatch.point with
  | delivering items =>
      rw [work, atPoint]
      exact ⟨rfl, Or.inr ⟨items, rfl, rfl⟩⟩
  | flushing =>
      rw [work, atPoint]
      dsimp only
      rw [flush]
      split <;> exact ⟨rfl, Or.inl ⟨rfl, rfl⟩⟩
  | waiting =>
      rw [work, atPoint]
      dsimp only
      split <;> exact ⟨rfl, Or.inl ⟨rfl, rfl⟩⟩
  | _ =>
      rw [work, atPoint]
      exact ⟨rfl, Or.inl ⟨rfl, rfl⟩⟩

/-- The events of a property. -/
def ofProperty (prop : Event → Int) (propId : Int) (events : List Event) :
    List Event :=
  events.filter fun event => prop event = propId

theorem ofProperty_append (propId : Int) (earlier later : List Event) :
    ofProperty prop propId (earlier ++ later) =
      ofProperty prop propId earlier ++ ofProperty prop propId later :=
  List.filter_append ..

/-- Of a batch, a subscribed client is due all events of the property. -/
theorem ofProperty_valuesFor {manager : SubscriptionManager Callback Rate}
    {client : Nat} {propId : Int} {flags : SubscribeFlags}
    (isSubscribed : client ∈
      manager.getSubscribedClientsLocked propId flags)
    (values : List Event) :
    ofProperty prop propId (valuesFor prop manager flags client values) =
      ofProperty prop propId values := by
  rw [ofProperty, ofProperty, valuesFor, List.filter_filter]
  refine List.filter_congr fun event _ => ?_
  by_cases same : prop event = propId
  · rw [decide_eq_true same, Bool.true_and, same]
    exact decide_eq_true isSubscribed
  · rw [decide_eq_false same, Bool.false_and]

variable [Preorder Rate] [DecidableLT Rate]

theorem inOrder_act {dispatch : Dispatch Callback Rate Event}
    (inOrder : InOrder prop dispatch) (action : Action Callback Rate Event) :
    InOrder prop (act prop dispatch action) := by
  cases action with
  | push item => exact inOrder.push item
  | work => exact inOrder.work
  | requestStop =>
      exact ⟨inOrder.order, inOrder.nonempty, inOrder.delivered,
        inOrder.called⟩
  | deactivate =>
      exact ⟨inOrder.order, inOrder.nonempty, inOrder.delivered,
        inOrder.called⟩
  | request request =>
      exact ⟨inOrder.order, inOrder.nonempty, inOrder.delivered,
        inOrder.called⟩

/--
However the threads take turns, each event that the queue took was handed out
once, in the order of the events, or is in hand, or is queued.  Each client was
called with the events of each batch that it was subscribed to just then, and
never with none.
-/
theorem events_in_order (prop : Event → Int)
    (actions : List (Action Callback Rate Event)) :
    let dispatch := runFrom (act prop) Dispatch.new actions
    dispatch.accepted =
        (dispatch.handed.map Prod.snd).flatten ++
          (inHand dispatch.point).flatten ++ dispatch.queue ∧
      (∀ batch ∈ dispatch.handed, batch.2 ≠ []) ∧
      (∀ client,
        received client dispatch.calls =
          dispatch.handed.flatMap fun batch =>
            batch.2.filter fun event =>
              decide (client ∈
                batch.1.getSubscribedClientsLocked (prop event)
                  eventsFromCar)) ∧
      ∀ call ∈ dispatch.calls, call.2 ≠ [] := by
  have inOrder : InOrder prop
      (runFrom (act prop) (Dispatch.new : Dispatch Callback Rate Event)
        actions) :=
    @run_invariant _ _ (act prop) (InOrder prop)
      (fun _ action inOrder => inOrder_act inOrder action) _ inOrder_new
      actions
  refine ⟨?_, ?_, inOrder.delivered, inOrder.called⟩
  · rw [← List.flatten_append]
    exact inOrder.order
  · intro batch member
    exact inOrder.nonempty batch.2
      (List.mem_append_left _ (List.mem_map_of_mem member))


/-! ## A client that stays subscribed -/

/-- A client has a property, asked for events of the car, and is at `client`. -/
structure Served (clientId client : Nat) (propId : Int)
    (service : Service Callback Rate) : Prop where
  kept : WellKept service.manager
  isClient : service.manager.clients[clientId]? = some client
  wants : ∃ opts : SubscribeOptions Rate, opts.propId = propId ∧
    opts.flags &&& eventsFromCar ≠ 0 ∧
      Provided (ledgerOf service) clientId opts False

omit [DecidableLT Rate] in
theorem Served.isSubscribed {clientId client : Nat} {propId : Int}
    {service : Service Callback Rate}
    (served : Served clientId client propId service) :
    client ∈ service.manager.getSubscribedClientsLocked propId
      eventsFromCar := by
  rcases served.wants with ⟨opts, rfl, asks, provided⟩
  rcases provided.wanted with ⟨known, isWanted, serves⟩
  exact (mem_getSubscribedClientsLocked_iff served.kept).mpr
    ⟨clientId, provided.subscribed, served.isClient, known, isWanted,
      serves.flags asks⟩

omit [DecidableLT Rate] in
theorem served_of_mem {clientId client : Nat} {propId : Int}
    {service : Service Callback Rate} (kept : WellKept service.manager)
    (isClient : service.manager.clients[clientId]? = some client)
    (isSubscribed : client ∈
      service.manager.getSubscribedClientsLocked propId eventsFromCar) :
    Served clientId client propId service := by
  rcases (mem_getSubscribedClientsLocked_iff kept).mp isSubscribed with
    ⟨owner, has, isOwner, opts, isWanted, asks⟩
  obtain rfl := kept.injective isOwner isClient
  refine ⟨kept, isClient, { opts with propId := propId }, rfl, asks, has,
    ⟨opts, isWanted, lt_irrefl _, BitVec.or_self⟩, False.elim⟩

theorem Served.step {clientId client : Nat} {propId : Int}
    {service : Service Callback Rate}
    (served : Served clientId client propId service)
    {request : Request Callback Rate} (isAdmitted : admits service request)
    (stays : request ≠ .unsubscribe clientId propId) :
    Served clientId client propId (step service request) := by
  rcases served.wants with ⟨opts, rfl, asks, provided⟩
  rcases step_spec served.kept isAdmitted with ⟨kept, same⟩
  have still : Provided (ledgerOf (ClientSubscriptions.step service request))
      clientId opts False := by
    rw [same]
    exact provided.step stays
  rcases still.subscribed with ⟨object, members, isObject, -⟩
  obtain rfl := clients_step served.kept isAdmitted served.isClient isObject
  exact ⟨kept, isObject, opts, rfl, asks, still⟩

theorem wellKept_dispatch {actions : List (Action Callback Rate Event)}
    (admitted : Admitted (act prop) admitsAction Dispatch.new actions) :
    WellKept (runFrom (act prop) (Dispatch.new :
      Dispatch Callback Rate Event) actions).service.manager := by
  refine @Admitted.invariant _ _ (act prop) admitsAction
    (fun dispatch => WellKept dispatch.service.manager) ?_ _ _ wellKept_new
    admitted
  intro dispatch action kept isAdmitted
  cases action with
  | push item =>
      rw [act, (push_handed dispatch item).1]
      exact kept
  | work =>
      rw [act, (work_handed prop dispatch).1]
      exact kept
  | requestStop => exact kept
  | deactivate => exact kept
  | request request => exact (step_spec kept isAdmitted).1

theorem served_run {clientId client : Nat} {propId : Int}
    {dispatch : Dispatch Callback Rate Event}
    {actions : List (Action Callback Rate Event)}
    (served : Served clientId client propId dispatch.service)
    (admitted : Admitted (act prop) admitsAction dispatch actions)
    (stays : .request (.unsubscribe clientId propId) ∉ actions) :
    let after := runFrom (act prop) dispatch actions
    ∃ later, after.handed = dispatch.handed ++ later ∧
      ofProperty prop propId (received client after.calls) =
        ofProperty prop propId (received client dispatch.calls) ++
          ofProperty prop propId (later.flatMap Prod.snd) := by
  induction actions generalizing dispatch with
  | nil =>
      exact ⟨[], (List.append_nil _).symm, (List.append_nil _).symm⟩
  | cons action actions inductionHypothesis =>
      rw [List.mem_cons, not_or] at stays
      rcases admitted with ⟨isAdmitted, admitted⟩
      have quiet
          (sameHanded : (act prop dispatch action).handed = dispatch.handed)
          (sameCalls : (act prop dispatch action).calls = dispatch.calls)
          (stillServed : Served clientId client propId
            (act prop dispatch action).service) := by
        have rest := inductionHypothesis stillServed admitted stays.2
        rwa [sameHanded, sameCalls] at rest
      cases action with
      | push item =>
          rcases push_handed dispatch item with
            ⟨sameService, sameHanded, sameCalls⟩
          exact quiet sameHanded sameCalls (sameService ▸ served)
      | requestStop => exact quiet rfl rfl served
      | deactivate => exact quiet rfl rfl served
      | request request =>
          refine quiet rfl rfl (served.step isAdmitted ?_)
          rintro rfl
          exact stays.1 rfl
      | work =>
          rcases work_handed prop dispatch with
            ⟨sameService, ⟨sameHanded, sameCalls⟩ | ⟨items, handed, called⟩⟩
          · exact quiet sameHanded sameCalls (sameService ▸ served)
          · have stillServed : Served clientId client propId
                (act prop dispatch .work).service := sameService ▸ served
            rcases inductionHypothesis stillServed admitted stays.2 with
              ⟨later, isLater, gets⟩
            refine ⟨(dispatch.service.manager, items) :: later, ?_, ?_⟩
            · rw [runFrom_cons, isLater, act, handed, List.append_assoc]
              rfl
            · rw [runFrom_cons, gets, act, called, received_append,
                received_distribute, List.flatMap_cons, ofProperty_append,
                ofProperty_append, ofProperty_valuesFor served.isSubscribed,
                List.append_assoc]

/--
A client that is subscribed to the events of a property, and is not
unsubscribed from it, is called with every event of the property that is handed
out from then on: once, in their order, and whatever else the client and others
ask for.
-/
theorem subscriber_gets_every_event
    {earlier later : List (Action Callback Rate Event)}
    {clientId client : Nat} {propId : Int}
    (admitted : Admitted (act prop) admitsAction Dispatch.new
      (earlier ++ later))
    (isClient : (runFrom (act prop) Dispatch.new
      earlier).service.manager.clients[clientId]? = some client)
    (isSubscribed : client ∈ (runFrom (act prop) Dispatch.new
      earlier).service.manager.getSubscribedClientsLocked propId
        eventsFromCar)
    (stays : .request (.unsubscribe clientId propId) ∉ later) :
    let before := runFrom (act prop) Dispatch.new earlier
    let after := runFrom (act prop) Dispatch.new (earlier ++ later)
    ∃ handed, after.handed = before.handed ++ handed ∧
      ofProperty prop propId (received client after.calls) =
        ofProperty prop propId (received client before.calls) ++
          ofProperty prop propId (handed.flatMap Prod.snd) := by
  have kept : WellKept (runFrom (act prop) Dispatch.new
      earlier).service.manager :=
    wellKept_dispatch (admitted.earlier (List.prefix_append _ _))
  dsimp only
  rw [runFrom_append]
  exact served_run (served_of_mem kept isClient isSubscribed) admitted.later
    stays

/-- Two events of a property with another between them. -/
def threeEvents : List (Action Unit Nat (Int × Nat)) :=
  [.push (5, 1), .push (6, 9), .push (5, 2), .work, .work, .work, .work, .work,
    .request (.subscribe 8 () true 200 [⟨5, 4, eventsFromCar⟩]), .work, .work,
    .work]

/-- The client that has the property, and what happens after it asked. -/
def subscribeFirst : List (Action Unit Nat (Int × Nat)) :=
  [.request (.subscribe 7 () true 100 [⟨5, 10, eventsFromCar⟩])]

theorem subscriber_gets_every_event_threeEvents :
    let before := runFrom (act Prod.fst) Dispatch.new subscribeFirst
    let after := runFrom (act Prod.fst) Dispatch.new
      (subscribeFirst ++ threeEvents)
    received 100 after.calls = [(5, 1), (5, 2)] ∧
      ∃ handed, after.handed = before.handed ++ handed ∧
        ofProperty Prod.fst 5 (received 100 after.calls) =
          ofProperty Prod.fst 5 (received 100 before.calls) ++
            ofProperty Prod.fst 5 (handed.flatMap Prod.snd) := by
  have admitted : Admitted (act Prod.fst) admitsAction Dispatch.new
      (subscribeFirst ++ threeEvents) := by decide
  have isClient : (runFrom (act Prod.fst) Dispatch.new
      subscribeFirst).service.manager.clients[7]? = some 100 := by decide
  refine ⟨by decide,
    subscriber_gets_every_event admitted isClient (by decide) ?_⟩
  simp [threeEvents]

/-! ## Shutdown -/

/-- The worker has been asked to stop, or it is on its way out. -/
def StopRequested (dispatch : Dispatch Callback Rate Event) : Prop :=
  match dispatch.point with
  | .leaving => True
  | .finished => True
  | _ => dispatch.consumer = .stopRequested

/-- The steps that a worker has to take at most once both calls are made. -/
def remaining : Point Event → Nat
  | .starting => 2
  | .testing => 2
  | .waiting => 3
  | .woken => 2
  | .sleeping => 3
  | .slept => 2
  | .flushing => 3
  | .delivering _ => 3
  | .leaving => 1
  | .finished => 0

theorem remaining_le (point : Point Event) : remaining point ≤ 3 := by
  cases point <;> simp [remaining]

theorem finished_of_remaining {point : Point Event}
    (none : remaining point ≤ 0) : point = .finished := by
  cases point <;> simp [remaining] at none ⊢

def isWork : Action Callback Rate Event → Bool
  | .work => true
  | .push _ => false
  | .requestStop => false
  | .deactivate => false
  | .request _ => false

section

variable {dispatch : Dispatch Callback Rate Event}

omit [Preorder Rate] [DecidableLT Rate] in
theorem stopRequested_of_consumer
    (requested : dispatch.consumer = .stopRequested) :
    StopRequested dispatch := by
  rw [StopRequested]
  split
  · trivial
  · trivial
  · exact requested

omit [Preorder Rate] [DecidableLT Rate] in
/-- The worker forgets no request to stop. -/
theorem stopRequested_work (requested : StopRequested dispatch) :
    StopRequested (work prop dispatch) := by
  rw [StopRequested] at requested
  cases atPoint : dispatch.point <;>
    simp only [atPoint] at requested <;> rw [work, atPoint] <;> dsimp only
  case starting =>
    rw [requested, if_neg (by decide)]
    trivial
  case waiting =>
    split <;> exact stopRequested_of_consumer requested
  case flushing =>
    rw [flush]
    split <;> exact stopRequested_of_consumer requested
  case leaving => trivial
  case finished =>
    rw [StopRequested, atPoint]
    trivial
  all_goals exact stopRequested_of_consumer requested

omit [Preorder Rate] [DecidableLT Rate] in
/--
When both calls have been made, the worker gets closer to its end and takes
nothing more out of the queue.
-/
theorem work_shutDown (isInactive : dispatch.isActive = false)
    (requested : StopRequested dispatch) :
    remaining (work prop dispatch).point ≤ remaining dispatch.point - 1 ∧
      batches (work prop dispatch) = batches dispatch := by
  rw [StopRequested] at requested
  rw [batches, batches]
  cases atPoint : dispatch.point with
  | starting =>
      simp only [atPoint] at requested
      rw [work, atPoint]
      dsimp only
      rw [requested, if_neg (by decide)]
      exact ⟨le_rfl, rfl⟩
  | testing =>
      simp only [atPoint] at requested
      rw [work, atPoint]
      dsimp only [Dispatch.goTo]
      rw [requested, if_neg (by decide)]
      exact ⟨le_rfl, rfl⟩
  | waiting =>
      rw [work, atPoint]
      dsimp only
      rw [if_neg (by rw [isInactive]; simp)]
      exact ⟨le_rfl, rfl⟩
  | woken =>
      simp only [atPoint] at requested
      rw [work, atPoint]
      dsimp only [Dispatch.goTo]
      rw [if_pos requested]
      exact ⟨le_rfl, rfl⟩
  | sleeping =>
      rw [work, atPoint]
      exact ⟨le_rfl, rfl⟩
  | slept =>
      simp only [atPoint] at requested
      rw [work, atPoint]
      dsimp only [Dispatch.goTo]
      rw [if_pos requested]
      exact ⟨le_rfl, rfl⟩
  | flushing =>
      have nothing : flush dispatch = (dispatch, []) :=
        if_pos (Or.inr isInactive)
      rw [work, atPoint]
      dsimp only
      rw [nothing]
      exact ⟨le_rfl, rfl⟩
  | delivering items =>
      rw [work, atPoint]
      refine ⟨le_rfl, ?_⟩
      simp [Dispatch.goTo, onBatchHalEvent, inHand]
  | leaving =>
      rw [work, atPoint]
      exact ⟨le_rfl, rfl⟩
  | finished =>
      rw [work, atPoint]
      dsimp only
      rw [atPoint]
      exact ⟨le_rfl, rfl⟩

end

omit [Preorder Rate] [DecidableLT Rate] in
theorem work_keeps (prop : Event → Int)
    (dispatch : Dispatch Callback Rate Event) :
    (work prop dispatch).isActive = dispatch.isActive ∧
      (work prop dispatch).accepted = dispatch.accepted := by
  cases atPoint : dispatch.point with
  | flushing =>
      rw [work, atPoint]
      dsimp only
      rw [flush]
      split <;> exact ⟨rfl, rfl⟩
  | waiting =>
      rw [work, atPoint]
      dsimp only
      split <;> exact ⟨rfl, rfl⟩
  | _ =>
      rw [work, atPoint]
      exact ⟨rfl, rfl⟩

/-- What both calls of a shutdown bring about stays. -/
theorem shutDown_act {dispatch : Dispatch Callback Rate Event}
    (action : Action Callback Rate Event) :
    (dispatch.isActive = false →
        (act prop dispatch action).isActive = false) ∧
      (StopRequested dispatch → StopRequested (act prop dispatch action)) := by
  cases action with
  | push item =>
      rw [act, push]
      split
      · exact ⟨id, id⟩
      · exact ⟨id, id⟩
  | work =>
      exact ⟨fun isInactive =>
        (work_keeps prop dispatch).1.trans isInactive, stopRequested_work⟩
  | requestStop => exact ⟨id, fun _ => stopRequested_of_consumer rfl⟩
  | deactivate => exact ⟨fun _ => rfl, id⟩
  | request request => exact ⟨id, id⟩

theorem isActive_run {dispatch : Dispatch Callback Rate Event}
    {actions : List (Action Callback Rate Event)}
    (isDeactivated : .deactivate ∈ actions) :
    (runFrom (act prop) dispatch actions).isActive = false := by
  rcases List.append_of_mem isDeactivated with ⟨earlier, later, rfl⟩
  rw [runFrom_append, runFrom_cons]
  exact @run_invariant _ _ (act prop) (fun dispatch => dispatch.isActive = false)
    (fun _ action => (shutDown_act action).1) _ rfl later

theorem stopRequested_run {dispatch : Dispatch Callback Rate Event}
    {actions : List (Action Callback Rate Event)}
    (isRequested : .requestStop ∈ actions) :
    StopRequested (runFrom (act prop) dispatch actions) := by
  rcases List.append_of_mem isRequested with ⟨earlier, later, rfl⟩
  rw [runFrom_append, runFrom_cons]
  exact @run_invariant _ _ (act prop) StopRequested
    (fun _ action => (shutDown_act action).2) _
    (stopRequested_of_consumer rfl) later

theorem shutDown_run {dispatch : Dispatch Callback Rate Event}
    (isInactive : dispatch.isActive = false)
    (requested : StopRequested dispatch)
    (actions : List (Action Callback Rate Event)) :
    let after := runFrom (act prop) dispatch actions
    remaining after.point ≤
        remaining dispatch.point - (actions.filter isWork).length ∧
      batches after = batches dispatch ∧
        after.accepted = dispatch.accepted := by
  induction actions generalizing dispatch with
  | nil => exact ⟨le_rfl, rfl, rfl⟩
  | cons action actions inductionHypothesis =>
      rcases inductionHypothesis
        ((shutDown_act action).1 isInactive)
        ((shutDown_act action).2 requested) with ⟨nearer, same, taken⟩
      rw [runFrom_cons]
      cases action with
      | work =>
          rcases work_shutDown isInactive requested with ⟨step, kept⟩
          refine ⟨?_, same.trans kept, taken.trans (work_keeps prop dispatch).2⟩
          rw [act] at nearer ⊢
          rw [List.filter_cons_of_pos rfl, List.length_cons]
          omega
      | push item =>
          have idle : push dispatch item = dispatch := by
            rw [push, if_neg (by rw [isInactive]; decide)]
          rw [act, idle] at nearer same taken ⊢
          exact ⟨nearer, same, taken⟩
      | requestStop => exact ⟨nearer, same, taken⟩
      | deactivate => exact ⟨nearer, same, taken⟩
      | request request => exact ⟨nearer, same, taken⟩

/--
When both calls of a shutdown have been made, in either order and at whatever
point the worker is, it needs three steps at most to come to its end, and none
of them has to wait.  From then on only the batch that it had in hand is handed
out, and the queue takes nothing more.
-/
theorem worker_comes_to_its_end
    {earlier later : List (Action Callback Rate Event)}
    (isRequested : .requestStop ∈ earlier)
    (isDeactivated : .deactivate ∈ earlier)
    (enough : 3 ≤ (later.filter isWork).length) :
    let before := runFrom (act prop) Dispatch.new earlier
    let after := runFrom (act prop) Dispatch.new (earlier ++ later)
    after.point = .finished ∧
      after.handed.map Prod.snd =
        before.handed.map Prod.snd ++ inHand before.point ∧
      after.accepted = before.accepted := by
  dsimp only
  rw [runFrom_append]
  rcases @shutDown_run _ _ _ prop _ _ _ (isActive_run isDeactivated)
    (stopRequested_run isRequested) later with ⟨nearer, same, taken⟩
  generalize runFrom (act prop) Dispatch.new earlier = before
    at nearer same taken ⊢
  have atEnd := finished_of_remaining (nearer.trans (by
    have atMost := remaining_le before.point
    omega))
  refine ⟨atEnd, ?_, taken⟩
  rw [batches, batches, atEnd] at same
  exact (List.append_nil _).symm.trans same

/-- The worker has a batch in hand when both calls are made. -/
theorem worker_comes_to_its_end_inHand :
    let before := runFrom (act Prod.fst) Dispatch.new
      ([.push (5, 1), .work, .work, .work, .work, .work, .work, .work,
        .push (5, 2), .deactivate, .requestStop] :
          List (Action Unit Nat (Int × Nat)))
    inHand before.point = [[(5, 1)]] ∧
      (runFrom (act Prod.fst) before
        [.work, .push (5, 3), .work, .work]).point = .finished := by
  refine ⟨by decide, ?_⟩
  have enough : 3 ≤ (([.work, .push (5, 3), .work, .work] :
      List (Action Unit Nat (Int × Nat))).filter isWork).length := by decide
  rw [← runFrom_append]
  exact (worker_comes_to_its_end (by simp) (by simp) enough).1

end Anbox.Vehicle.EventDelivery
