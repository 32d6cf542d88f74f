import Anbox.Vehicle.ServedSubscriptions

/-!
# How events of the vehicle get to its clients

The vehicle pushes events into a queue.  A worker thread waits for some, lets a
while pass, takes all that are there and hands each client those of its
properties.  The queue and the worker are shut down by two calls, after which
the owner waits for the worker.

Each step of the worker is one access to what the threads share.
-/

namespace Anbox.Vehicle.EventDispatch

open Anbox.Foundation
open Anbox.Foundation.Runs
open Anbox.Vehicle.ClientSubscriptions
open Anbox.Vehicle.ServedSubscriptions
open Std

universe u v w

variable {Callback : Type u} {Rate : Type v} {Event : Type w}

/-! ## Events of each client -/

section

variable (prop : Event → Int)

/-- The inner loop of `distributeValuesToClients`. -/
def giveToClients (value : Event) (clientValuesMap : TreeMap Nat (List Event))
    (clients : List Nat) : TreeMap Nat (List Event) :=
  clients.foldl
    (fun clientValuesMap client =>
      clientValuesMap.insert client
        (clientValuesMap[client]?.getD [] ++ [value]))
    clientValuesMap

def distributeValuesToClients (manager : SubscriptionManager Callback Rate)
    (propValues : List Event) (flags : SubscribeFlags) :
    List (Nat × List Event) :=
  (propValues.foldl
    (fun clientValuesMap propValue =>
      giveToClients propValue clientValuesMap
        (manager.getSubscribedClientsLocked (prop propValue) flags))
    ∅).toList

/-- A client has been given one more value if it is among the clients. -/
theorem getElem?_giveToClients (value : Event) (client : Nat)
    {clients : List Nat} (nodup : clients.Nodup)
    (clientValuesMap : TreeMap Nat (List Event)) :
    (giveToClients value clientValuesMap clients)[client]?.getD [] =
      clientValuesMap[client]?.getD [] ++
        if client ∈ clients then [value] else [] := by
  induction clients generalizing clientValuesMap with
  | nil => simp [giveToClients]
  | cons first clients inductionHypothesis =>
      rw [List.nodup_cons] at nodup
      rw [giveToClients, List.foldl_cons, ← giveToClients,
        inductionHypothesis nodup.2, OrderedMap.getElem?_insert_eq]
      by_cases same : client = first
      · subst same
        simp [nodup.1]
      · simp [same]

/-- No client is given an empty list. -/
theorem ne_nil_of_giveToClients {value : Event} {clients : List Nat}
    {clientValuesMap : TreeMap Nat (List Event)}
    (nonempty : ∀ (client : Nat) values,
      clientValuesMap[client]? = some values → values ≠ [])
    {client : Nat} {values : List Event}
    (given : (giveToClients value clientValuesMap clients)[client]? =
      some values) : values ≠ [] := by
  induction clients generalizing clientValuesMap with
  | nil => exact nonempty client values given
  | cons first clients inductionHypothesis =>
      refine inductionHypothesis ?_ given
      intro other others found
      rw [OrderedMap.getElem?_insert_eq] at found
      split at found
      · rw [← Option.some.inj found]
        exact List.append_ne_nil_of_right_ne_nil _ (List.cons_ne_nil _ _)
      · exact nonempty other others found

variable (manager : SubscriptionManager Callback Rate)
  (flags : SubscribeFlags)

/-- The values of a batch that a client is subscribed to. -/
def valuesFor (client : Nat) (values : List Event) : List Event :=
  values.filter fun value =>
    decide (client ∈ manager.getSubscribedClientsLocked (prop value) flags)

/-- The map of the outer loop, after some values. -/
theorem distribution_spec (values : List Event) (client : Nat)
    (start : TreeMap Nat (List Event))
    (nonempty : ∀ (client : Nat) values,
      start[client]? = some values → values ≠ []) :
    let final := values.foldl
      (fun clientValuesMap propValue =>
        giveToClients propValue clientValuesMap
          (manager.getSubscribedClientsLocked (prop propValue) flags)) start
    (∀ (client : Nat) values, final[client]? = some values → values ≠ []) ∧
      final[client]?.getD [] =
        start[client]?.getD [] ++
          valuesFor prop manager flags client values := by
  induction values generalizing start with
  | nil => exact ⟨nonempty, (List.append_nil _).symm⟩
  | cons value values inductionHypothesis =>
      rcases inductionHypothesis
        (giveToClients value start
          (manager.getSubscribedClientsLocked (prop value) flags))
        fun _ _ => ne_nil_of_giveToClients nonempty with ⟨kept, found⟩
      refine ⟨kept, found.trans ?_⟩
      rw [getElem?_giveToClients value client
        (nodup_getSubscribedClientsLocked _ _), List.append_assoc, valuesFor,
        valuesFor, List.filter_cons]
      split
      · next isClient =>
        rw [if_pos (decide_eq_true isClient)]
        rfl
      · next notClient =>
        rw [if_neg fun same => notClient (of_decide_eq_true same)]
        rfl

/-- What one client gets in some calls of `onPropertyEvent`. -/
def received (client : Nat) (calls : List (Nat × List Event)) : List Event :=
  (calls.filter fun call => call.1 = client).flatMap Prod.snd

/-- Each client gets the values that it is subscribed to, in their order. -/
theorem received_distribute (values : List Event) (client : Nat) :
    received client (distributeValuesToClients prop manager values flags) =
      valuesFor prop manager flags client values := by
  have found := (distribution_spec prop manager flags values client ∅
    (by simp)).2
  rw [TreeMap.getElem?_emptyc, Option.getD_none, List.nil_append] at found
  rw [received, distributeValuesToClients, OrderedMap.toList_filter_key,
    ← found]
  cases (List.foldl _ _ values : TreeMap Nat (List Event))[client]? with
  | none => rfl
  | some given => simp

/-- A client is called with some values, and once for all of a batch. -/
theorem calls_distribute (values : List Event) :
    (∀ call ∈ distributeValuesToClients prop manager values flags,
        call.2 ≠ []) ∧
      ((distributeValuesToClients prop manager values flags).map
        Prod.fst).Nodup := by
  constructor
  · rintro ⟨client, given⟩ member
    exact (distribution_spec prop manager flags values client ∅
      (by simp)).1 client given
        (TreeMap.mem_toList_iff_getElem?_eq_some.mp member)
  · rw [distributeValuesToClients, TreeMap.map_fst_toList_eq_keys]
    refine TreeMap.distinct_keys.imp ?_
    rintro first second different rfl
    exact different ReflCmp.compare_self

end

/-! ## The queue and the worker -/

/-- `BatchingConsumer::State`. -/
inductive ConsumerState where
  | init
  | running
  | stopRequested
  | stopped
deriving DecidableEq, Repr

/-- What the worker does next; the two tests in the loop have their own. -/
inductive Point (Event : Type w) where
  | starting
  | testing
  | waiting
  | woken
  | sleeping
  | slept
  | flushing
  | delivering (items : List Event)
  | leaving
  | finished
deriving DecidableEq, Repr

/--
The threads and what they share.  The history is not kept by the code: the
events that the queue took, the batches with the managers that they were handed
out by, and the calls of clients.
-/
structure Dispatch (Callback : Type u) (Rate : Type v) (Event : Type w) where
  queue : List Event
  isActive : Bool
  consumer : ConsumerState
  point : Point Event
  service : Service Callback Rate
  accepted : List Event
  handed : List (SubscriptionManager Callback Rate × List Event)
  calls : List (Nat × List Event)

def Dispatch.new : Dispatch Callback Rate Event where
  queue := []
  isActive := true
  consumer := .init
  point := .starting
  service := Service.new
  accepted := []
  handed := []
  calls := []

/-- `ConcurrentQueue::push`. -/
def push (dispatch : Dispatch Callback Rate Event) (item : Event) :
    Dispatch Callback Rate Event :=
  if dispatch.isActive then
    { dispatch with
      queue := dispatch.queue ++ [item]
      accepted := dispatch.accepted ++ [item] }
  else dispatch

/-- `ConcurrentQueue::flush`. -/
def flush (dispatch : Dispatch Callback Rate Event) :
    Dispatch Callback Rate Event × List Event :=
  if dispatch.queue = [] ∨ dispatch.isActive = false then (dispatch, [])
  else ({ dispatch with queue := [] }, dispatch.queue)

def Dispatch.goTo (dispatch : Dispatch Callback Rate Event)
    (point : Point Event) : Dispatch Callback Rate Event :=
  { dispatch with point := point }

/-- `onBatchHalEvent`: every client is called with its values. -/
def onBatchHalEvent (prop : Event → Int)
    (dispatch : Dispatch Callback Rate Event) (values : List Event) :
    Dispatch Callback Rate Event :=
  { dispatch with
    handed := dispatch.handed ++ [(dispatch.service.manager, values)]
    calls :=
      dispatch.calls ++
        distributeValuesToClients prop dispatch.service.manager values
          eventsFromCar }

/-- One step of `runInternal`; the worker may have to wait. -/
def work (prop : Event → Int) (dispatch : Dispatch Callback Rate Event) :
    Dispatch Callback Rate Event :=
  match dispatch.point with
  | .starting =>
      { dispatch with
        consumer := .running
        point := if dispatch.consumer = .init then .testing else .leaving }
  | .testing =>
      dispatch.goTo (if dispatch.consumer = .running then .waiting else .leaving)
  | .waiting =>
      if dispatch.queue = [] ∧ dispatch.isActive = true then dispatch
      else dispatch.goTo .woken
  | .woken =>
      dispatch.goTo
        (if dispatch.consumer = .stopRequested then .leaving else .sleeping)
  | .sleeping => dispatch.goTo .slept
  | .slept =>
      dispatch.goTo
        (if dispatch.consumer = .stopRequested then .leaving else .flushing)
  | .flushing =>
      let (flushed, items) := flush dispatch
      flushed.goTo (if items = [] then .testing else .delivering items)
  | .delivering items => (onBatchHalEvent prop dispatch items).goTo .testing
  | .leaving => { dispatch with consumer := .stopped, point := .finished }
  | .finished => dispatch

/-- What the threads do, one access at a time. -/
inductive Action (Callback : Type u) (Rate : Type v) (Event : Type w) where
  | push (item : Event)
  | work
  | requestStop
  | deactivate
  | request (request : Request Callback Rate)

variable [Preorder Rate] [DecidableLT Rate]

def act (prop : Event → Int) (dispatch : Dispatch Callback Rate Event) :
    Action Callback Rate Event → Dispatch Callback Rate Event
  | .push item => push dispatch item
  | .work => work prop dispatch
  | .requestStop => { dispatch with consumer := .stopRequested }
  | .deactivate => { dispatch with isActive := false }
  | .request request =>
      { dispatch with service := step dispatch.service request }

/-- A new object is placed where no other is. -/
def admitsAction (dispatch : Dispatch Callback Rate Event) :
    Action Callback Rate Event → Prop
  | .push _ => True
  | .work => True
  | .requestStop => True
  | .deactivate => True
  | .request request => admits dispatch.service request

instance (dispatch : Dispatch Callback Rate Event) :
    (action : Action Callback Rate Event) →
      Decidable (admitsAction dispatch action)
  | .push _ => isTrue trivial
  | .work => isTrue trivial
  | .requestStop => isTrue trivial
  | .deactivate => isTrue trivial
  | .request request =>
      inferInstanceAs (Decidable (admits dispatch.service request))

end Anbox.Vehicle.EventDispatch
