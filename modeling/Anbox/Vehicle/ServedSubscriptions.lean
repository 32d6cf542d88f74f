import Anbox.Vehicle.SubscriptionRefinement

/-!
# Who is served by the subscription manager

The results about every run of the manager, whatever requests of its clients
come in whatever order.  They are read off the ledger.
-/

namespace Anbox.Vehicle.ServedSubscriptions

open Anbox.Foundation.Runs
open Anbox.Vehicle.ClientSubscriptions
open Anbox.Vehicle.ClientSubscriptions.SubscriptionManager
open Anbox.Vehicle.LedgerInvariants
open Anbox.Vehicle.SubscriptionLedger
open Anbox.Vehicle.SubscriptionRefinement
open Std

universe u v

variable {Callback : Type u} {Rate : Type v}

/-! ## Reading the manager -/

section

variable {manager : SubscriptionManager Callback Rate} {clientId : Nat}
  {propId : Int}

theorem mem_deadClientProperties_iff :
    propId ∈ manager.deadClientProperties clientId ↔
      ∃ opts, wantedBy manager clientId propId = some opts := by
  rw [deadClientProperties, wantedBy]
  split
  · next none =>
    rw [none]
    simp
  · next object found =>
    rw [found, Option.bind_some, HalClient.getSubscribedProperties,
      TreeMap.mem_keys, TreeMap.mem_iff_isSome_getElem?,
      Option.isSome_iff_exists]

/-- Who gets the events of a property. -/
theorem mem_getSubscribedClientsLocked {flags : SubscribeFlags}
    {client : Nat} :
    client ∈ manager.getSubscribedClientsLocked propId flags ↔
      (∃ members, manager.propToClients[propId]? = some members ∧
        client ∈ members) ∧
        ∃ object opts, manager.halClients[client]? = some object ∧
          object.subscriptions[propId]? = some opts ∧
            opts.flags &&& flags ≠ 0 := by
  have subscribed (object : HalClient Callback Rate) :
      object.isSubscribed propId flags = true ↔
        ∃ opts, object.subscriptions[propId]? = some opts ∧
          opts.flags &&& flags ≠ 0 := by
    rw [HalClient.isSubscribed]
    split
    · next none => simp [none]
    · next opts found => simp [found]
  rw [getSubscribedClientsLocked, getClientsForPropertyLocked]
  split
  · next none => simp [none]
  · next members found =>
    rw [List.mem_filter, TreeSet.mem_toList, Option.any_eq_true]
    simp only [found, Option.some.injEq, exists_eq_left', subscribed,
      exists_and_left]

theorem nodup_getSubscribedClientsLocked (propId : Int)
    (flags : SubscribeFlags) :
    (manager.getSubscribedClientsLocked propId flags).Nodup := by
  rw [getSubscribedClientsLocked]
  split
  · exact List.nodup_nil
  · next members found =>
    refine List.Pairwise.filter _ (TreeSet.distinct_toList.imp ?_)
    rintro first second different rfl
    exact different ReflCmp.compare_self

end

variable [Preorder Rate] [DecidableLT Rate]

/-- The manager after some requests. -/
def run (requests : List (Request Callback Rate)) : Service Callback Rate :=
  runFrom step Service.new requests

/-- The ledger after some requests. -/
noncomputable def ledgerAfter (requests : List (Request Callback Rate)) :
    Ledger Rate :=
  runFrom Ledger.step Ledger.empty requests

section

variable {requests : List (Request Callback Rate)}

theorem wellKept_run (admitted : Admitted step admits Service.new requests) :
    WellKept (run requests).manager :=
  (run_spec wellKept_new admitted).1

theorem ledgerOf_run (admitted : Admitted step admits Service.new requests) :
    ledgerOf (run requests) = ledgerAfter requests := by
  rw [ledgerAfter, ← @ledgerOf_new Callback Rate]
  exact (run_spec wellKept_new admitted).2

theorem sound_ledgerAfter (requests : List (Request Callback Rate)) :
    Sound (ledgerAfter requests) :=
  sound_run sound_empty requests

omit [Preorder Rate] [DecidableLT Rate] in
/-- The events of a property go to clients that have it and want them. -/
theorem mem_getSubscribedClientsLocked_iff
    {manager : SubscriptionManager Callback Rate} (kept : WellKept manager)
    {propId : Int} {flags : SubscribeFlags} {client : Nat} :
    client ∈ manager.getSubscribedClientsLocked propId flags ↔
      ∃ clientId, HasProperty manager clientId propId ∧
        manager.clients[clientId]? = some client ∧
          ∃ opts, wantedBy manager clientId propId = some opts ∧
            opts.flags &&& flags ≠ 0 := by
  rw [mem_getSubscribedClientsLocked]
  constructor
  · rintro ⟨⟨members, isListed, isMember⟩, object, opts, isObject, isWanted,
      asks⟩
    rcases kept.members isListed isMember with ⟨clientId, isClient⟩
    refine ⟨clientId, ⟨client, members, isClient, isListed, isMember⟩,
      isClient, opts, ?_, asks⟩
    rw [wantedBy, isClient, Option.bind_some, isObject, Option.bind_some,
      isWanted]
  · rintro ⟨clientId, ⟨address, members, found, isListed, isMember⟩,
      isClient, opts, isWanted, asks⟩
    obtain rfl := Option.some.inj (found.symm.trans isClient)
    rcases kept.objects isClient with ⟨object, isObject⟩
    rw [wantedBy, isClient, Option.bind_some, isObject, Option.bind_some]
      at isWanted
    exact ⟨⟨members, isListed, isMember⟩, object, opts, isObject, isWanted,
      asks⟩

/-! ## Results -/

/--
Wherever the objects of clients are placed, the tables say what the ledger
does.  The events of a property go once to each client that has the property
and has asked for such events since it is there.
-/
theorem manager_keeps_ledger
    (admitted : Admitted step admits Service.new requests) :
    let manager := (run requests).manager
    let ledger := ledgerAfter requests
    ledgerOf (run requests) = ledger ∧
      ∀ propId flags,
        (manager.getSubscribedClientsLocked propId flags).Nodup ∧
          ∀ client,
            client ∈ manager.getSubscribedClientsLocked propId flags ↔
              ∃ clientId ∈ ledger.subscribers propId,
                manager.clients[clientId]? = some client ∧
                  ∃ opts, ledger.wanted clientId propId = some opts ∧
                    opts.flags &&& flags ≠ 0 := by
  dsimp only
  rw [← ledgerOf_run admitted]
  exact ⟨rfl, fun propId flags =>
    ⟨nodup_getSubscribedClientsLocked propId flags, fun _ =>
      mem_getSubscribedClientsLocked_iff (wellKept_run admitted)⟩⟩

/-- Client 7 is gone when client 8 comes, and its address is used again. -/
def sameAddress : List (Request Unit Nat) :=
  [.subscribe 7 () true 100 [⟨5, 10, eventsFromCar⟩], .unsubscribe 7 5,
    .subscribe 8 () true 100 [⟨5, 20, eventsFromCar⟩]]

theorem manager_keeps_ledger_sameAddress :
    (run sameAddress).manager.getSubscribedClientsLocked 5 eventsFromCar =
        [100] ∧
      ∃ clientId ∈ (ledgerAfter sameAddress).subscribers 5,
        (run sameAddress).manager.clients[clientId]? = some 100 := by
  have served : (run sameAddress).manager.getSubscribedClientsLocked 5
      eventsFromCar = [100] := by decide
  have admitted : Admitted step admits Service.new sameAddress := by decide
  rcases manager_keeps_ledger admitted with ⟨-, about⟩
  rcases ((about 5 eventsFromCar).2 100).mp (by rw [served]; decide) with
    ⟨clientId, isSubscribed, isClient, -⟩
  exact ⟨served, clientId, isSubscribed, isClient⟩

/-- The request is refused only if the client is new and cannot be linked. -/
theorem accepted_iff {manager : SubscriptionManager Callback Rate}
    {clientId address : Nat} {callback : Callback} {linked : Bool}
    {optionList : List (SubscribeOptions Rate)} :
    (manager.addOrUpdateSubscription clientId callback linked address
        optionList).2.isSome = true ↔
      clientId ∈ manager.clients ∨ linked = true := by
  rw [addOrUpdateSubscription, getOrCreateHalClientLocked, mem_clients_iff]
  cases found : manager.clients[clientId]? with
  | some client => simp
  | none => cases linked <;> simp

/--
What a client was promised is kept whatever others do, until the client is
unsubscribed from the property: it gets all kinds of events that it has asked
for, and the vehicle is asked for events of the car at no lower a rate.
-/
theorem request_stays_served {earlier later : List (Request Callback Rate)}
    {clientId address : Nat} {callback : Callback} {linked : Bool}
    {optionList : List (SubscribeOptions Rate)} {opts : SubscribeOptions Rate}
    (admitted : Admitted step admits Service.new
      (earlier ++
        .subscribe clientId callback linked address optionList :: later))
    (accepted : ((run earlier).manager.addOrUpdateSubscription clientId
      callback linked address optionList).2.isSome = true)
    (isAsked : opts ∈ optionList)
    (stays : .unsubscribe clientId opts.propId ∉ later) :
    let manager :=
      (run (earlier ++
        .subscribe clientId callback linked address optionList ::
          later)).manager
    (∀ flags, opts.flags &&& flags ≠ 0 →
      ∃ client, manager.clients[clientId]? = some client ∧
        client ∈ manager.getSubscribedClientsLocked opts.propId flags) ∧
      (opts.wantsCar = true →
        ∃ known,
          manager.halEventSubscribeOptions[opts.propId]? = some known ∧
            Serves known opts) := by
  have isAccepted :
      clientId ∈ (ledgerAfter earlier).registered ∨ linked = true := by
    rw [accepted_iff] at accepted
    rwa [← ledgerOf_run (admitted.earlier (List.prefix_append _ _))]
  have provided : Provided
      (ledgerAfter (earlier ++
        .subscribe clientId callback linked address optionList :: later))
      clientId opts (opts.wantsCar = true) := by
    rw [ledgerAfter, runFrom_append, runFrom_cons]
    refine Provided.run ?_ stays
    rw [Ledger.step, Ledger.subscribe]
    rw [ledgerAfter] at isAccepted
    rw [if_pos isAccepted]
    exact provided_subscribeAll isAsked
  rw [← ledgerOf_run admitted] at provided
  refine ⟨fun flags asks => ?_, provided.demanded⟩
  rcases provided.wanted with ⟨known, isWanted, serves⟩
  rcases provided.subscribed with ⟨client, members, isClient, listed⟩
  refine ⟨client, isClient,
    (mem_getSubscribedClientsLocked_iff (wellKept_run admitted)).mpr
      ⟨clientId, ⟨client, members, isClient, listed⟩, isClient, known,
        isWanted, serves.flags asks⟩⟩

/-- Client 8 has the property too, for less, and leaves it. -/
theorem request_stays_served_otherLeaves :
    ∃ known : SubscribeOptions Nat,
      (run ([] ++ .subscribe 7 () true 100 [⟨5, 10, eventsFromCar⟩] ::
        [.subscribe 8 () true 200 [⟨5, 4, eventsFromCar⟩],
          .unsubscribe 8 5])).manager.halEventSubscribeOptions[(5 : Int)]? =
        some known ∧ Serves known ⟨5, 10, eventsFromCar⟩ := by
  have isAsked : (⟨5, 10, eventsFromCar⟩ : SubscribeOptions Nat) ∈
      [⟨5, 10, eventsFromCar⟩] := List.mem_singleton_self _
  exact (request_stays_served (by decide) (by decide) isAsked (by simp)).2
    (by decide)

/--
A dead client is forgotten whatever others do while it is unsubscribed from
the properties that were read at first, unless it subscribes again.  Nobody
else loses a property by it.
-/
theorem dead_client_forgotten {earlier later : List (Request Callback Rate)}
    {clientId : Nat}
    (admitted : Admitted step admits Service.new (earlier ++ later))
    (silent : ∀ request ∈ later, ¬Subscribes clientId request)
    (interleaved :
      (((run earlier).manager.deadClientProperties clientId).map
        (.unsubscribe clientId)).Sublist later) :
    let before := (run earlier).manager
    let manager := (run (earlier ++ later)).manager
    (∀ propId, ¬HasProperty manager clientId propId) ∧
      (before.deadClientProperties clientId ≠ [] →
        manager.clients[clientId]? = none) ∧
      ∀ other propId, HasProperty before other propId →
        .unsubscribe other propId ∉ later →
          HasProperty manager other propId := by
  have atFirst := ledgerOf_run (admitted.earlier (List.prefix_append _ _))
  have atLast := ledgerOf_run admitted
  have split : ledgerAfter (earlier ++ later) =
      runFrom Ledger.step (ledgerAfter earlier) later := runFrom_append _ _ _ _
  rw [split, ← atFirst] at atLast
  have sound := sound_ledgerAfter earlier
  rw [← atFirst] at sound
  have noProperty : ∀ propId,
      ¬HasProperty (run (earlier ++ later)).manager clientId propId := by
    intro propId has
    have remains : clientId ∈
        (ledgerOf (run (earlier ++ later))).subscribers propId := has
    rw [atLast, mem_subscribers_run silent] at remains
    have isRead : propId ∈ (run earlier).manager.deadClientProperties clientId :=
      mem_deadClientProperties_iff.mpr (sound.wanted remains.1)
    exact remains.2 (interleaved.subset (List.mem_map_of_mem isRead))
  refine ⟨noProperty, ?_, ?_⟩
  · intro some
    rcases List.exists_mem_of_ne_nil _ some with ⟨propId, isRead⟩
    have gone := dropped_of_mem (ledgerOf (run earlier)) silent
      (interleaved.subset (List.mem_map_of_mem isRead))
    rw [← atLast] at gone
    cases found : (run (earlier ++ later)).manager.clients[clientId]? with
    | none => rfl
    | some client =>
        rcases gone (mem_clients_iff.mpr ⟨client, found⟩) with ⟨about, has⟩
        exact absurd has (noProperty about)
  · intro other propId has stays
    have remains : other ∈
        (ledgerOf (run (earlier ++ later))).subscribers propId := by
      rw [atLast]
      exact mem_subscribers_stays has stays
    exact remains

/-- Client 8 takes a property while client 7, which has two, is forgotten. -/
theorem dead_client_forgotten_betweenTwo :
    (run ([.subscribe 7 () true 100
        [⟨5, 10, eventsFromCar⟩, ⟨6, 1, eventsFromAndroid⟩]] ++
      [.unsubscribe 7 5, .subscribe 8 () true 200 [⟨5, 4, eventsFromCar⟩],
        .unsubscribe 7 6] :
          List (Request Unit Nat))).manager.clients[7]? = none := by
  have isRead : (run ([.subscribe 7 () true 100
      [⟨5, 10, eventsFromCar⟩, ⟨6, 1, eventsFromAndroid⟩]] :
        List (Request Unit Nat))).manager.deadClientProperties 7 = [5, 6] := by
    decide
  refine (dead_client_forgotten (by decide) ?_ ?_).2.1 ?_
  · simp [Subscribes]
  · rw [isRead]
    exact ((List.Sublist.refl _).cons _).cons_cons _
  · rw [isRead]
    exact List.cons_ne_nil _ _

/--
The notices of the manager, read in order, are the options that it keeps.  New
options for a property always ask for more, until it is unsubscribed; and
somebody has each property for which there are options.
-/
theorem notices_tell_demand
    (admitted : Admitted step admits Service.new requests) :
    let service := run requests
    (∀ propId, heeded service.notices propId =
        service.manager.halEventSubscribeOptions[propId]?) ∧
      Grows service.notices ∧
      ∀ propId opts,
        service.manager.halEventSubscribeOptions[propId]? = some opts →
          opts.propId = propId ∧
            ∃ clientId, HasProperty service.manager clientId propId := by
  have sound := sound_ledgerAfter requests
  rw [← ledgerOf_run admitted] at sound
  exact ⟨sound.heeded, sound.grows, fun _ _ isDemanded =>
    ⟨sound.own isDemanded, sound.provided isDemanded⟩⟩

/-- The second client asks for less and is not told of, the third for more. -/
theorem notices_tell_demand_three :
    heeded
      (run ([.subscribe 7 () true 100 [⟨5, 10, eventsFromCar⟩],
        .subscribe 8 () true 200 [⟨5, 4, eventsFromCar⟩],
        .subscribe 9 () true 300 [⟨5, 20, eventsFromCar⟩],
        .unsubscribe 9 5] : List (Request Unit Nat))).notices 5 =
      some ⟨5, 20, eventsFromCar⟩ :=
  ((notices_tell_demand (by decide)).1 5).trans (by decide)

end

end Anbox.Vehicle.ServedSubscriptions
