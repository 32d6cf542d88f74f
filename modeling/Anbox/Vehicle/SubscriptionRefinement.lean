import Mathlib.Order.BooleanAlgebra.Set
import Anbox.Foundation.OrderedMap
import Anbox.Vehicle.LedgerInvariants

/-!
# The subscription manager keeps the ledger

The tables of the manager and the objects that they point to are read as the
ledger of its clients.  Each request does to the tables what it does to the
ledger, wherever new objects are placed; addresses may be used again.
-/

namespace Anbox.Vehicle.SubscriptionRefinement

open Anbox.Foundation
open Anbox.Foundation.Runs
open Anbox.Vehicle.ClientSubscriptions
open Anbox.Vehicle.ClientSubscriptions.SubscriptionManager
open Anbox.Vehicle.LedgerInvariants
open Anbox.Vehicle.SubscriptionLedger
open Std

universe u v

variable {Callback : Type u} {Rate : Type v}

/-! ## Reading the tables -/

/-- What a client has asked for, if it is there. -/
def wantedBy (manager : SubscriptionManager Callback Rate) (clientId : Nat)
    (propId : Int) : Option (SubscribeOptions Rate) :=
  (manager.clients[clientId]?.bind (manager.halClients[·]?)).bind
    (·.subscriptions[propId]?)

/-- A client is in the vector of a property. -/
def HasProperty (manager : SubscriptionManager Callback Rate)
    (clientId : Nat) (propId : Int) : Prop :=
  ∃ client members, manager.clients[clientId]? = some client ∧
    manager.propToClients[propId]? = some members ∧ client ∈ members

def ledgerOf (service : Service Callback Rate) : Ledger Rate where
  registered := { clientId | clientId ∈ service.manager.clients }
  subscribers := fun propId =>
    { clientId | HasProperty service.manager clientId propId }
  wanted := wantedBy service.manager
  demanded := fun propId => service.manager.halEventSubscribeOptions[propId]?
  notices := service.notices

/-- Clients and vectors point to objects, each client to its own. -/
structure WellKept (manager : SubscriptionManager Callback Rate) : Prop where
  objects : ∀ {clientId client : Nat},
    manager.clients[clientId]? = some client →
      ∃ object, manager.halClients[client]? = some object
  injective : ∀ {clientId other client : Nat},
    manager.clients[clientId]? = some client →
      manager.clients[other]? = some client → clientId = other
  members : ∀ {propId : Int} {members : TreeSet Nat} {client : Nat},
    manager.propToClients[propId]? = some members → client ∈ members →
      ∃ clientId : Nat, manager.clients[clientId]? = some client
  occupied : ∀ {propId : Int} {members : TreeSet Nat},
    manager.propToClients[propId]? = some members →
      ∃ client, client ∈ members

theorem wellKept_new :
    WellKept (SubscriptionManager.new :
      SubscriptionManager Callback Rate) := by
  constructor
  case objects =>
    intro clientId client found
    simp [SubscriptionManager.new] at found
  case injective =>
    intro clientId other client found
    simp [SubscriptionManager.new] at found
  case members =>
    intro propId members client found
    simp [SubscriptionManager.new] at found
  case occupied =>
    intro propId members found
    simp [SubscriptionManager.new] at found

theorem ledgerOf_new :
    ledgerOf (Service.new : Service Callback Rate) = Ledger.empty := by
  apply Ledger.ext
  · ext clientId
    simp [ledgerOf, Service.new, SubscriptionManager.new, Ledger.empty]
  · funext propId
    ext clientId
    simp [ledgerOf, HasProperty, Service.new, SubscriptionManager.new,
      Ledger.empty]
  · funext clientId propId
    simp [ledgerOf, wantedBy, Service.new, SubscriptionManager.new,
      Ledger.empty]
  · funext propId
    simp [ledgerOf, Service.new, SubscriptionManager.new, Ledger.empty]
  · rfl

section

variable {manager next : SubscriptionManager Callback Rate}
  (notices : List (Notice Rate)) {clientId client : Nat}

theorem mem_clients_iff :
    clientId ∈ manager.clients ↔
      ∃ client, manager.clients[clientId]? = some client := by
  rw [TreeMap.mem_iff_isSome_getElem?, Option.isSome_iff_exists]

theorem unused_iff {address : Nat} :
    Unused manager address ↔
      (∀ clientId : Nat, manager.clients[clientId]? ≠ some address) ∧
        ∀ (propId : Int) (members : TreeSet Nat),
          manager.propToClients[propId]? = some members →
            address ∉ members := by
  rw [Unused]
  refine and_congr ?_ ?_
  · constructor
    · intro unused clientId found
      exact unused (clientId, address)
        (TreeMap.mem_toList_iff_getElem?_eq_some.mpr found) rfl
    · rintro unused ⟨clientId, client⟩ member rfl
      exact unused clientId (TreeMap.mem_toList_iff_getElem?_eq_some.mp member)
  · constructor
    · intro unused propId members found
      exact unused (propId, members)
        (TreeMap.mem_toList_iff_getElem?_eq_some.mpr found)
    · rintro unused ⟨propId, members⟩ member
      exact unused propId members
        (TreeMap.mem_toList_iff_getElem?_eq_some.mp member)

/-! ## A client is found or created -/

theorem getElem?_clients_insert {address : Nat} (other : Nat) :
    (manager.clients.insert clientId address)[other]? =
      if other = clientId then some address else manager.clients[other]? :=
  OrderedMap.getElem?_insert_eq _ _ _ _

theorem getOrCreate_eq {callback : Callback} {linked : Bool} {address : Nat}
    (found : manager.getOrCreateHalClientLocked clientId callback linked
      address = some (next, client)) :
    (manager.clients[clientId]? = some client ∧ next = manager) ∨
      (manager.clients[clientId]? = none ∧ linked = true ∧ client = address ∧
        next = manager.createHalClient clientId callback address) := by
  rw [getOrCreateHalClientLocked] at found
  split at found
  · next known =>
    cases found
    exact Or.inl ⟨known, rfl⟩
  · next unknown =>
    split at found
    · next isLinked =>
      cases found
      exact Or.inr ⟨unknown, isLinked, rfl, rfl⟩
    · cases found

theorem WellKept.create (kept : WellKept manager) {address : Nat}
    (unused : Unused manager address)
    (unknown : manager.clients[clientId]? = none) (callback : Callback) :
    WellKept (manager.createHalClient clientId callback address) := by
  rcases unused_iff.mp unused with ⟨noClient, noMember⟩
  constructor
  case objects =>
    intro other otherClient found
    dsimp only [createHalClient] at found ⊢
    rw [getElem?_clients_insert] at found
    rw [OrderedMap.getElem?_insert_eq]
    split at found
    · rw [if_pos (Option.some.inj found).symm]
      exact ⟨_, rfl⟩
    · split
      · exact ⟨_, rfl⟩
      · exact kept.objects found
  case injective =>
    intro first second object foundFirst foundSecond
    dsimp only [createHalClient] at foundFirst foundSecond
    rw [getElem?_clients_insert] at foundFirst foundSecond
    split at foundFirst
    · next same =>
      obtain rfl := Option.some.inj foundFirst
      split at foundSecond
      · next other => rw [same, other]
      · exact absurd foundSecond (noClient second)
    · split at foundSecond
      · obtain rfl := Option.some.inj foundSecond
        exact absurd foundFirst (noClient first)
      · exact kept.injective foundFirst foundSecond
  case members =>
    intro propId members object found isMember
    rcases kept.members found isMember with ⟨owner, owned⟩
    refine ⟨owner, ?_⟩
    dsimp only [createHalClient]
    rw [getElem?_clients_insert, if_neg, owned]
    rintro rfl
    rw [unknown] at owned
    cases owned
  case occupied => exact kept.occupied

theorem ledgerOf_create {address : Nat} (unused : Unused manager address)
    (unknown : manager.clients[clientId]? = none) (callback : Callback) :
    ledgerOf
        ⟨manager.createHalClient clientId callback address, notices⟩ =
      (ledgerOf ⟨manager, notices⟩).register clientId := by
  rcases unused_iff.mp unused with ⟨noClient, noMember⟩
  apply Ledger.ext
  · ext other
    exact OrderedMap.mem_insert_iff
  · funext propId
    ext other
    simp only [ledgerOf, HasProperty, createHalClient, Ledger.register,
      Set.mem_ofPred_eq, getElem?_clients_insert]
    constructor
    · rintro ⟨object, members, found, isListed, isMember⟩
      split at found
      · obtain rfl := Option.some.inj found
        exact absurd isMember (noMember propId members isListed)
      · exact ⟨object, members, found, isListed, isMember⟩
    · rintro ⟨object, members, found, isListed, isMember⟩
      refine ⟨object, members, ?_, isListed, isMember⟩
      rw [if_neg, found]
      rintro rfl
      rw [unknown] at found
      cases found
  · funext other propId
    simp only [ledgerOf, wantedBy, createHalClient, Ledger.register,
      getElem?_clients_insert]
    split
    · next same =>
      rw [same, unknown, Option.bind_some, OrderedMap.getElem?_insert_eq,
        if_pos rfl]
      simp
    · cases found : manager.clients[other]? with
      | none => rfl
      | some object =>
          rw [Option.bind_some, Option.bind_some,
            OrderedMap.getElem?_insert_eq, if_neg]
          rintro rfl
          exact noClient other found
  · rfl
  · rfl

/-! ## A client asks for a property -/

variable [Preorder Rate] [DecidableLT Rate] {opts : SubscribeOptions Rate}

theorem getElem?_addOrUpdateSubscription (object : HalClient Callback Rate)
    (opts : SubscribeOptions Rate) (propId : Int) :
    (object.addOrUpdateSubscription opts).subscriptions[propId]? =
      if propId = opts.propId then
        some (ask object.subscriptions[opts.propId]? opts)
      else object.subscriptions[propId]? := by
  rw [HalClient.addOrUpdateSubscription]
  split
  · next isNew =>
    rw [OrderedMap.getElem?_insert_eq, isNew]
    rfl
  · next oldOpts isOld =>
    split
    · next updated isMerged =>
      rw [OrderedMap.getElem?_insert_eq, isOld, ask, isMerged]
      rfl
    · next unchanged =>
      rw [isOld, ask, unchanged]
      split
      · next same => rw [same, isOld]; rfl
      · rfl

/-- The client's object and the vector of the property after a request. -/
def listedFor (manager : SubscriptionManager Callback Rate) (client : Nat)
    (opts : SubscribeOptions Rate) : SubscriptionManager Callback Rate :=
  (manager.updateHalClient client opts).addClientToPropMapLocked opts.propId
    client

theorem getElem?_listedFor (propId : Int) :
    (listedFor manager client opts).propToClients[propId]? =
      if propId = opts.propId then
        some ((manager.propToClients[opts.propId]?.getD ∅).insert client)
      else manager.propToClients[propId]? := by
  have same : (manager.updateHalClient client opts).propToClients =
      manager.propToClients := by
    rw [updateHalClient]
    split <;> rfl
  simp only [listedFor, addClientToPropMapLocked, getClientsForPropertyLocked,
    same]
  exact OrderedMap.getElem?_insert_eq _ _ _ _

theorem clients_listedFor :
    (listedFor manager client opts).clients = manager.clients := by
  simp only [listedFor, addClientToPropMapLocked, updateHalClient]
  split <;> rfl

theorem demands_listedFor :
    (listedFor manager client opts).halEventSubscribeOptions =
      manager.halEventSubscribeOptions := by
  simp only [listedFor, addClientToPropMapLocked, updateHalClient]
  split <;> rfl

theorem halClients_listedFor {object : HalClient Callback Rate}
    (isObject : manager.halClients[client]? = some object) (other : Nat) :
    (listedFor manager client opts).halClients[other]? =
      if other = client then some (object.addOrUpdateSubscription opts)
      else manager.halClients[other]? := by
  simp only [listedFor, addClientToPropMapLocked, updateHalClient, isObject]
  exact OrderedMap.getElem?_insert_eq _ _ _ _

/-- The clients of a property after one was added to another or to it. -/
theorem listed_iff {propId : Int} {other : Nat} :
    (∃ members, (listedFor manager client opts).propToClients[propId]? =
        some members ∧ other ∈ members) ↔
      (propId = opts.propId ∧ other = client) ∨
        ∃ members, manager.propToClients[propId]? = some members ∧
          other ∈ members := by
  rw [getElem?_listedFor]
  split
  · next same =>
    subst same
    constructor
    · rintro ⟨members, isListed, isMember⟩
      obtain rfl := Option.some.inj isListed
      rcases TreeSet.mem_insert.mp isMember with equal | before
      · exact Or.inl ⟨rfl, (LawfulEqCmp.compare_eq_iff_eq.mp equal).symm⟩
      · cases found : manager.propToClients[opts.propId]? with
        | none =>
            rw [found] at before
            exact absurd before TreeSet.not_mem_emptyc
        | some members =>
            rw [found] at before
            exact Or.inr ⟨members, rfl, before⟩
    · rintro (⟨-, rfl⟩ | ⟨members, isListed, isMember⟩)
      · exact ⟨_, rfl, TreeSet.mem_insert_self⟩
      · refine ⟨_, rfl, ?_⟩
        rw [isListed]
        exact TreeSet.mem_insert.mpr (.inr isMember)
  · next different =>
    constructor
    · exact Or.inr
    · rintro (⟨same, -⟩ | before)
      · exact absurd same different
      · exact before

theorem WellKept.listedFor (kept : WellKept manager)
    (isClient : manager.clients[clientId]? = some client) :
    WellKept (listedFor manager client opts) := by
  rcases kept.objects isClient with ⟨object, isObject⟩
  constructor
  case objects =>
    intro other otherClient found
    rw [clients_listedFor] at found
    rw [halClients_listedFor isObject]
    split
    · exact ⟨_, rfl⟩
    · exact kept.objects found
  case injective =>
    rw [clients_listedFor]
    exact kept.injective
  case members =>
    intro propId members other isListed isMember
    rw [clients_listedFor]
    rcases listed_iff.mp ⟨members, isListed, isMember⟩ with
      ⟨-, rfl⟩ | ⟨before, wasListed, wasMember⟩
    · exact ⟨clientId, isClient⟩
    · exact kept.members wasListed wasMember
  case occupied =>
    intro propId members isListed
    rw [getElem?_listedFor] at isListed
    split at isListed
    · rw [← Option.some.inj isListed]
      exact ⟨client, TreeSet.mem_insert_self⟩
    · exact kept.occupied isListed

theorem ledgerOf_listedFor (opts : SubscribeOptions Rate)
    (kept : WellKept manager)
    (isClient : manager.clients[clientId]? = some client) :
    ledgerOf ⟨listedFor manager client opts, notices⟩ =
      (ledgerOf ⟨manager, notices⟩).want clientId opts := by
  rcases kept.objects isClient with ⟨object, isObject⟩
  apply Ledger.ext
  · simp only [ledgerOf, clients_listedFor, Ledger.want]
  · funext propId
    ext other
    rw [mem_subscribers_want]
    simp only [ledgerOf, HasProperty, Set.mem_ofPred_eq, clients_listedFor]
    constructor
    · rintro ⟨address, members, found, isListed, isMember⟩
      rcases listed_iff.mp ⟨members, isListed, isMember⟩ with
        ⟨same, rfl⟩ | ⟨before, wasListed, wasMember⟩
      · exact Or.inl ⟨same, kept.injective found isClient⟩
      · exact Or.inr ⟨address, before, found, wasListed, wasMember⟩
    · rintro (⟨same, rfl⟩ | ⟨address, before, found, wasListed, wasMember⟩)
      · rcases listed_iff.mpr (.inl ⟨same, rfl⟩) with
          ⟨members, isListed, isMember⟩
        exact ⟨client, members, isClient, isListed, isMember⟩
      · rcases listed_iff.mpr (.inr ⟨before, wasListed, wasMember⟩) with
          ⟨members, isListed, isMember⟩
        exact ⟨address, members, found, isListed, isMember⟩
  · funext other propId
    rw [wanted_want]
    simp only [ledgerOf, wantedBy, clients_listedFor]
    by_cases sameClient : other = clientId
    · subst sameClient
      rw [isClient, Option.bind_some, Option.bind_some,
        halClients_listedFor isObject, if_pos rfl, isObject, Option.bind_some,
        Option.bind_some, getElem?_addOrUpdateSubscription]
      simp only [true_and, Option.bind_some]
    · rw [if_neg fun both => sameClient both.1]
      cases found : manager.clients[other]? with
      | none => rfl
      | some address =>
          rw [Option.bind_some, Option.bind_some,
            halClients_listedFor isObject, if_neg]
          rintro rfl
          exact sameClient (kept.injective found isClient)
  · simp only [ledgerOf, demands_listedFor, Ledger.want]
  · rfl

theorem updateHalEvent_eq (manager : SubscriptionManager Callback Rate)
    (opts : SubscribeOptions Rate) :
    (manager.updateHalEventSubscriptionLocked opts).2 =
        changed manager.halEventSubscribeOptions[opts.propId]? opts ∧
      ∃ demands,
        (manager.updateHalEventSubscriptionLocked opts).1 =
          { manager with halEventSubscribeOptions := demands } ∧
        ∀ propId : Int, demands[propId]? =
          if propId = opts.propId then
            some (ask manager.halEventSubscribeOptions[opts.propId]? opts)
          else manager.halEventSubscribeOptions[propId]? := by
  rw [updateHalEventSubscriptionLocked]
  split
  · next isNew =>
    rw [isNew]
    exact ⟨rfl, _, rfl, OrderedMap.getElem?_insert_eq _ _ _⟩
  · next oldOpts isOld =>
    rw [isOld, changed]
    split
    · next updated isMerged =>
      refine ⟨isMerged.symm, _, rfl, ?_⟩
      rw [ask, isMerged]
      exact OrderedMap.getElem?_insert_eq _ _ _
    · next unchanged =>
      refine ⟨unchanged.symm, _, rfl, ?_⟩
      intro propId
      rw [ask, unchanged]
      split
      · next same => rw [same, isOld]; rfl
      · rfl

omit [Preorder Rate] [DecidableLT Rate] in
theorem WellKept.demands (kept : WellKept manager)
    (demands : TreeMap Int (SubscribeOptions Rate)) :
    WellKept { manager with halEventSubscribeOptions := demands } :=
  ⟨kept.objects, kept.injective, kept.members, kept.occupied⟩

/-- One turn of the loop keeps the ledger. -/
theorem subscribeClient_spec (opts : SubscribeOptions Rate)
    (kept : WellKept manager)
    (isClient : manager.clients[clientId]? = some client) :
    let turn := manager.subscribeClient client opts
    WellKept turn.1 ∧ turn.1.clients = manager.clients ∧
      ledgerOf ⟨turn.1, notices ++ turn.2.toList.map .updated⟩ =
        (ledgerOf ⟨manager, notices⟩).subscribeTo clientId opts := by
  have turn : manager.subscribeClient client opts =
      if opts.wantsCar then
        (listedFor manager client opts).updateHalEventSubscriptionLocked opts
      else (listedFor manager client opts, none) := rfl
  have listed := ledgerOf_listedFor notices opts kept isClient
  dsimp only
  rw [turn, Ledger.subscribeTo, ← listed]
  split
  · rcases updateHalEvent_eq (listedFor manager client opts) opts with
      ⟨updated, demands, after, found⟩
    rw [after, updated]
    refine ⟨(kept.listedFor isClient).demands demands, clients_listedFor, ?_⟩
    apply Ledger.ext
    · rfl
    · rfl
    · rfl
    · funext propId
      rw [demanded_demand]
      exact found propId
    · rw [Ledger.demand]
      dsimp only [ledgerOf]
      rw [← Option.toList_map]
  · refine ⟨kept.listedFor isClient, clients_listedFor, ?_⟩
    rw [Option.toList_none, List.map_nil, List.append_nil]

theorem subscribeAll_spec (kept : WellKept manager)
    (isClient : manager.clients[clientId]? = some client)
    (optionList : List (SubscribeOptions Rate)) :
    let loop := subscribeAll client manager optionList
    WellKept loop.1 ∧ loop.1.clients = manager.clients ∧
      ledgerOf ⟨loop.1, notices ++ loop.2.map .updated⟩ =
        optionList.foldl (fun ledger opts => ledger.subscribeTo clientId opts)
          (ledgerOf ⟨manager, notices⟩) := by
  induction optionList generalizing manager notices with
  | nil =>
      refine ⟨kept, rfl, ?_⟩
      rw [subscribeAll, List.map_nil, List.append_nil]
      rfl
  | cons opts optionList inductionHypothesis =>
      rcases subscribeClient_spec notices opts kept isClient with
        ⟨keptTurn, sameClients, turned⟩
      rcases inductionHypothesis
        (notices ++
          (manager.subscribeClient client opts).2.toList.map .updated)
        keptTurn (sameClients ▸ isClient) with ⟨keptLoop, stillSame, looped⟩
      refine ⟨keptLoop, stillSame.trans sameClients, ?_⟩
      rw [List.foldl_cons, ← turned, ← looped]
      dsimp only [subscribeAll]
      rw [List.map_append, List.append_assoc]

/-- A request to subscribe keeps the ledger. -/
theorem subscribe_spec (clientId : Nat) (callback : Callback)
    (linked : Bool) (kept : WellKept manager) {address : Nat}
    (unused : Unused manager address)
    (optionList : List (SubscribeOptions Rate)) :
    let answer := manager.addOrUpdateSubscription clientId callback linked
      address optionList
    WellKept answer.1 ∧
      (∀ (other address : Nat), manager.clients[other]? = some address →
        answer.1.clients[other]? = some address) ∧
      ledgerOf ⟨answer.1, notices ++ (answer.2.getD []).map .updated⟩ =
        (ledgerOf ⟨manager, notices⟩).subscribe clientId linked
          optionList := by
  dsimp only
  rw [addOrUpdateSubscription, Ledger.subscribe]
  split
  · next refused =>
    rw [getOrCreateHalClientLocked] at refused
    split at refused
    · cases refused
    · next unknown =>
      split at refused
      · cases refused
      · next notLinked =>
        refine ⟨kept, fun _ _ found => found, ?_⟩
        rw [Option.getD_none, List.map_nil, List.append_nil, if_neg]
        rintro (isThere | isLinked)
        · rcases mem_clients_iff.mp isThere with ⟨client, found⟩
          rw [unknown] at found
          cases found
        · exact notLinked isLinked
  · next next client found =>
    rcases getOrCreate_eq found with
      ⟨known, rfl⟩ | ⟨unknown, isLinked, rfl, rfl⟩
    · have isThere : clientId ∈ (ledgerOf ⟨next, notices⟩).registered :=
        mem_clients_iff.mpr ⟨client, known⟩
      rw [if_pos (Or.inl isThere), Ledger.register,
        Set.insert_eq_of_mem isThere]
      rcases subscribeAll_spec notices kept known optionList with
        ⟨keptLoop, sameClients, looped⟩
      exact ⟨keptLoop, fun _ _ found => sameClients ▸ found, looped⟩
    · rw [if_pos (Or.inr isLinked),
        ← ledgerOf_create notices unused unknown callback]
      have isNew : (manager.createHalClient clientId callback
          client).clients[clientId]? = some client := by
        rw [createHalClient, getElem?_clients_insert, if_pos rfl]
      rcases subscribeAll_spec notices
        (kept.create unused unknown callback) isNew optionList with
        ⟨keptLoop, sameClients, looped⟩
      refine ⟨keptLoop, fun other object isObject => ?_, looped⟩
      rw [sameClients, createHalClient, getElem?_clients_insert, if_neg,
        isObject]
      rintro rfl
      rw [unknown] at isObject
      cases isObject

end

/-! ## A client is unsubscribed -/

section

variable {manager : SubscriptionManager Callback Rate}
  (notices : List (Notice Rate)) {clientId client : Nat} {propId : Int}

theorem getElem?_removeFromProperty_eq_some {about : Int}
    {left : TreeSet Nat} :
    (manager.removeFromProperty propId client).propToClients[about]? =
        some left ↔
      if about = propId then
        ∃ members, manager.propToClients[propId]? = some members ∧
          members.erase client = left ∧ left.isEmpty = false
      else manager.propToClients[about]? = some left := by
  rw [removeFromProperty, getClientsForPropertyLocked]
  cases found : manager.propToClients[propId]? with
  | none =>
      dsimp only
      split
      · next same =>
        rw [same, found]
        simp
      · rfl
  | some members =>
      dsimp only
      split
      · next isEmpty =>
        rw [OrderedMap.getElem?_erase_eq_some_iff]
        split
        · next same =>
          refine iff_of_false (fun both => both.1 same) ?_
          rintro ⟨others, isOther, rfl, notEmpty⟩
          obtain rfl := Option.some.inj isOther
          rw [isEmpty] at notEmpty
          cases notEmpty
        · next different => exact and_iff_right different
      · next notEmpty =>
        rw [OrderedMap.getElem?_insert_eq]
        split
        · constructor
          · intro same
            obtain rfl := Option.some.inj same
            exact ⟨members, rfl, rfl, Bool.eq_false_iff.mpr notEmpty⟩
          · rintro ⟨others, isOther, rfl, -⟩
            obtain rfl := Option.some.inj isOther
            rfl
        · rfl

theorem removed_iff {about : Int} {other : Nat} :
    (∃ left, (manager.removeFromProperty propId client).propToClients[about]? =
        some left ∧ other ∈ left) ↔
      (∃ members, manager.propToClients[about]? = some members ∧
        other ∈ members) ∧ ¬(about = propId ∧ other = client) := by
  simp only [getElem?_removeFromProperty_eq_some]
  by_cases same : about = propId
  · subst same
    simp only [if_true, true_and]
    constructor
    · rintro ⟨left, ⟨members, found, rfl, -⟩, isLeft⟩
      rcases TreeSet.mem_erase.mp isLeft with ⟨different, isMember⟩
      refine ⟨⟨members, found, isMember⟩, ?_⟩
      rintro rfl
      exact different ReflCmp.compare_self
    · rintro ⟨⟨members, found, isMember⟩, different⟩
      have isLeft : other ∈ members.erase client :=
        TreeSet.mem_erase.mpr
          ⟨fun equal => different (LawfulEqCmp.compare_eq_iff_eq.mp equal).symm,
            isMember⟩
      exact ⟨_, ⟨members, found, rfl,
        TreeSet.isEmpty_eq_false_iff_exists_mem.mpr ⟨other, isLeft⟩⟩, isLeft⟩
  · simp [same]

theorem clients_removeFromProperty :
    (manager.removeFromProperty propId client).clients = manager.clients := by
  rw [removeFromProperty]
  split <;> rfl

theorem halClients_removeFromProperty :
    (manager.removeFromProperty propId client).halClients =
      manager.halClients := by
  rw [removeFromProperty]
  split <;> rfl

theorem demands_removeFromProperty :
    (manager.removeFromProperty propId client).halEventSubscribeOptions =
      manager.halEventSubscribeOptions := by
  rw [removeFromProperty]
  split <;> rfl

theorem WellKept.removeFromProperty (kept : WellKept manager) (propId : Int)
    (client : Nat) : WellKept (manager.removeFromProperty propId client) := by
  constructor
  case objects =>
    rw [clients_removeFromProperty, halClients_removeFromProperty]
    exact kept.objects
  case injective =>
    rw [clients_removeFromProperty]
    exact kept.injective
  case members =>
    intro about left other isListed isLeft
    rw [clients_removeFromProperty]
    rcases (removed_iff.mp ⟨left, isListed, isLeft⟩).1 with
      ⟨members, wasListed, wasMember⟩
    exact kept.members wasListed wasMember
  case occupied =>
    intro about left isListed
    rw [getElem?_removeFromProperty_eq_some] at isListed
    split at isListed
    · rcases isListed with ⟨members, -, -, notEmpty⟩
      exact TreeSet.isEmpty_eq_false_iff_exists_mem.mp notEmpty
    · exact kept.occupied isListed

theorem ledgerOf_removeFromProperty (kept : WellKept manager)
    (isClient : manager.clients[clientId]? = some client) :
    ledgerOf ⟨manager.removeFromProperty propId client, notices⟩ =
      (ledgerOf ⟨manager, notices⟩).take clientId propId := by
  apply Ledger.ext
  · simp only [ledgerOf, clients_removeFromProperty, Ledger.take]
  · funext about
    ext other
    rw [mem_subscribers_take]
    simp only [ledgerOf, HasProperty, Set.mem_ofPred_eq,
      clients_removeFromProperty]
    constructor
    · rintro ⟨address, left, found, isListed, isLeft⟩
      rcases removed_iff.mp ⟨left, isListed, isLeft⟩ with
        ⟨⟨members, wasListed, wasMember⟩, different⟩
      refine ⟨⟨address, members, found, wasListed, wasMember⟩, ?_⟩
      rintro ⟨same, rfl⟩
      exact different ⟨same, Option.some.inj (found.symm.trans isClient)⟩
    · rintro ⟨⟨address, members, found, wasListed, wasMember⟩, different⟩
      have stays : ¬(about = propId ∧ address = client) := by
        rintro ⟨same, rfl⟩
        exact different ⟨same, kept.injective found isClient⟩
      rcases removed_iff.mpr ⟨⟨members, wasListed, wasMember⟩, stays⟩ with
        ⟨left, isListed, isLeft⟩
      exact ⟨address, left, found, isListed, isLeft⟩
  · funext other about
    simp only [ledgerOf, wantedBy, clients_removeFromProperty,
      halClients_removeFromProperty, Ledger.take]
  · simp only [ledgerOf, demands_removeFromProperty, Ledger.take]
  · rfl

theorem isClientSubscribed_iff
    (isClient : manager.clients[clientId]? = some client) :
    manager.isClientSubscribed client = true ↔
      ∃ propId, clientId ∈ (ledgerOf ⟨manager, notices⟩).subscribers propId := by
  rw [isClientSubscribed, List.any_eq_true]
  constructor
  · rintro ⟨⟨propId, members⟩, isListed, isMember⟩
    exact ⟨propId, client, members, isClient,
      TreeMap.mem_toList_iff_getElem?_eq_some.mp isListed,
      TreeSet.contains_iff_mem.mp isMember⟩
  · rintro ⟨propId, address, members, found, isListed, isMember⟩
    obtain rfl := Option.some.inj (isClient.symm.trans found)
    exact ⟨(propId, members),
      TreeMap.mem_toList_iff_getElem?_eq_some.mpr isListed,
      TreeSet.contains_iff_mem.mpr isMember⟩

/-- The client is dropped from the table, and no vector has it. -/
def dropped (manager : SubscriptionManager Callback Rate) (clientId : Nat) :
    SubscriptionManager Callback Rate :=
  { manager with clients := manager.clients.erase clientId }

theorem WellKept.dropped (kept : WellKept manager)
    (idle : ∀ propId, ¬HasProperty manager clientId propId) :
    WellKept (dropped manager clientId) := by
  constructor
  case objects =>
    intro other client found
    exact kept.objects (OrderedMap.getElem?_erase_eq_some_iff.mp found).2
  case injective =>
    intro first second client foundFirst foundSecond
    exact kept.injective
      (OrderedMap.getElem?_erase_eq_some_iff.mp foundFirst).2
      (OrderedMap.getElem?_erase_eq_some_iff.mp foundSecond).2
  case members =>
    intro propId members client isListed isMember
    rcases kept.members isListed isMember with ⟨owner, owned⟩
    refine ⟨owner, OrderedMap.getElem?_erase_eq_some_iff.mpr ⟨?_, owned⟩⟩
    rintro rfl
    exact idle propId ⟨client, members, owned, isListed, isMember⟩
  case occupied => exact kept.occupied

theorem ledgerOf_dropped
    (idle : ∀ propId, ¬HasProperty manager clientId propId) :
    ledgerOf ⟨dropped manager clientId, notices⟩ =
      (ledgerOf ⟨manager, notices⟩).forget clientId := by
  apply Ledger.ext
  · ext other
    exact OrderedMap.mem_erase_iff.trans and_comm
  · funext propId
    ext other
    simp only [ledgerOf, HasProperty, dropped, Set.mem_ofPred_eq,
      Ledger.forget]
    constructor
    · rintro ⟨client, members, found, isListed, isMember⟩
      exact ⟨client, members,
        (OrderedMap.getElem?_erase_eq_some_iff.mp found).2, isListed,
        isMember⟩
    · rintro ⟨client, members, found, isListed, isMember⟩
      refine ⟨client, members,
        OrderedMap.getElem?_erase_eq_some_iff.mpr ⟨?_, found⟩, isListed,
        isMember⟩
      rintro rfl
      exact idle propId ⟨client, members, found, isListed, isMember⟩
  · funext other propId
    simp only [ledgerOf, wantedBy, dropped, Ledger.forget]
    by_cases same : other = clientId
    · subst same
      rw [Function.update_self, TreeMap.getElem?_erase_self]
      rfl
    · rw [Function.update_of_ne same,
        OrderedMap.getElem?_erase_of_ne same]
      rfl
  · rfl
  · rfl

/-- A client that is not there has nothing to be forgotten. -/
theorem forget_of_unknown (unknown : manager.clients[clientId]? = none) :
    (ledgerOf ⟨manager, notices⟩).forget clientId =
      ledgerOf ⟨manager, notices⟩ := by
  apply Ledger.ext
  · refine Set.sdiff_singleton_eq_self ?_
    intro isThere
    rcases mem_clients_iff.mp isThere with ⟨client, found⟩
    rw [unknown] at found
    cases found
  · rfl
  · have nothing : wantedBy manager clientId = fun _ => none := by
      funext propId
      rw [wantedBy, unknown]
      rfl
    exact Function.update_eq_self_iff.mpr nothing.symm
  · rfl
  · rfl

theorem take_of_unknown (unknown : manager.clients[clientId]? = none) :
    (ledgerOf ⟨manager, notices⟩).take clientId propId =
      ledgerOf ⟨manager, notices⟩ := by
  apply Ledger.ext
  · rfl
  · refine Function.update_eq_self_iff.mpr ?_
    refine Set.sdiff_singleton_eq_self ?_
    rintro ⟨client, members, found, -⟩
    rw [unknown] at found
    cases found
  · rfl
  · rfl
  · rfl

theorem releaseClient_spec (clientId : Nat) (propId : Int)
    (kept : WellKept manager) :
    WellKept (manager.releaseClient clientId propId) ∧
      ledgerOf ⟨manager.releaseClient clientId propId, notices⟩ =
        ((ledgerOf ⟨manager, notices⟩).take clientId propId).forgetIfIdle
          clientId := by
  rw [releaseClient, Ledger.forgetIfIdle]
  split
  · next unknown =>
    refine ⟨kept, ?_⟩
    rw [take_of_unknown notices unknown, forget_of_unknown notices unknown,
      ite_self]
  · next client isClient =>
    have isLeft : (manager.removeFromProperty propId client).clients[clientId]? =
        some client := by
      rwa [clients_removeFromProperty]
    have keptLeft := kept.removeFromProperty propId client
    have busy := isClientSubscribed_iff notices isLeft
    rw [ledgerOf_removeFromProperty notices kept isClient] at busy
    dsimp only
    split
    · next isBusy =>
      rw [if_pos (busy.mp isBusy)]
      exact ⟨keptLeft, ledgerOf_removeFromProperty notices kept isClient⟩
    · next notBusy =>
      rw [if_neg fun isBusy => notBusy (busy.mpr isBusy)]
      have idle : ∀ about, ¬HasProperty
          (manager.removeFromProperty propId client) clientId about := by
        intro about has
        exact notBusy
          ((isClientSubscribed_iff notices isLeft).mpr
            ⟨about, has⟩)
      refine ⟨keptLeft.dropped idle, ?_⟩
      rw [← ledgerOf_removeFromProperty notices kept isClient]
      exact ledgerOf_dropped notices idle

/-- A property is lost if it has no vector; a vector is never empty. -/
theorem lost_iff (propId : Int) (kept : WellKept manager) :
    ((manager.getClientsForPropertyLocked propId).all fun propertyClients =>
        propertyClients.isEmpty) = true ↔
      (ledgerOf ⟨manager, notices⟩).subscribers propId = ∅ := by
  rw [getClientsForPropertyLocked, Set.eq_empty_iff_forall_notMem]
  cases found : manager.propToClients[propId]? with
  | none =>
      refine iff_of_true rfl ?_
      rintro clientId ⟨client, members, -, isListed, -⟩
      rw [found] at isListed
      cases isListed
  | some members =>
      rcases kept.occupied found with ⟨client, isMember⟩
      rcases kept.members found isMember with ⟨clientId, isClient⟩
      refine iff_of_false ?_ fun none =>
        none clientId ⟨client, members, isClient, found, isMember⟩
      rw [Option.all_some, Bool.not_eq_true]
      exact TreeSet.isEmpty_eq_false_iff_exists_mem.mpr ⟨client, isMember⟩

/-- A request to unsubscribe keeps the ledger. -/
theorem unsubscribe_spec (clientId : Nat) (propId : Int)
    (kept : WellKept manager) :
    let answer := manager.unsubscribe clientId propId
    WellKept answer.1 ∧
      ledgerOf ⟨answer.1,
          notices ++ if answer.2 then [.unsubscribed propId] else []⟩ =
        (ledgerOf ⟨manager, notices⟩).unsubscribe clientId propId := by
  rcases releaseClient_spec notices clientId propId kept with
    ⟨keptLeft, released⟩
  have lost := lost_iff notices propId keptLeft
  dsimp only
  rw [SubscriptionManager.unsubscribe, Ledger.unsubscribe, ← released,
    Ledger.releaseIfLost]
  split
  · next isLost =>
    rw [if_pos (lost.mp isLost)]
    refine ⟨keptLeft.demands _, ?_⟩
    apply Ledger.ext
    · rfl
    · rfl
    · rfl
    · funext about
      simp only [ledgerOf, Ledger.release]
      by_cases same : about = propId
      · rw [same, Function.update_self, TreeMap.getElem?_erase_self]
      · rw [Function.update_of_ne same, OrderedMap.getElem?_erase_of_ne same]
    · rfl
  · next found =>
    rw [if_neg fun isLost => found (lost.mpr isLost), if_neg Bool.false_ne_true,
      List.append_nil]
    exact ⟨keptLeft, rfl⟩

end

/-- The clients that are left after a request to unsubscribe. -/
theorem getElem?_clients_unsubscribe {other object : Nat}
    {propId : Int} {manager : SubscriptionManager Callback Rate}
    {clientId : Nat}
    (found : (manager.unsubscribe other propId).1.clients[clientId]? =
      some object) : manager.clients[clientId]? = some object := by
  have released (isThere : (manager.releaseClient other propId).clients[clientId]? =
      some object) : manager.clients[clientId]? = some object := by
    rw [releaseClient] at isThere
    split at isThere
    · exact isThere
    · dsimp only at isThere
      split at isThere
      · rwa [clients_removeFromProperty] at isThere
      · have before := (OrderedMap.getElem?_erase_eq_some_iff.mp isThere).2
        rwa [clients_removeFromProperty] at before
  rw [SubscriptionManager.unsubscribe] at found
  split at found <;> exact released found

/-! ## Runs -/

variable [Preorder Rate] [DecidableLT Rate]

/-- Each admitted request does to the tables what it does to the ledger. -/
theorem step_spec {service : Service Callback Rate}
    {request : Request Callback Rate} (kept : WellKept service.manager)
    (isAdmitted : admits service request) :
    WellKept (step service request).manager ∧
      ledgerOf (step service request) = (ledgerOf service).step request := by
  cases request with
  | subscribe clientId callback linked address optionList =>
      rcases subscribe_spec service.notices clientId callback linked kept
        isAdmitted optionList with ⟨keptNext, -, subscribed⟩
      exact ⟨keptNext, subscribed⟩
  | unsubscribe clientId propId =>
      exact unsubscribe_spec service.notices clientId propId kept

/-- While a client is there, it has the same object. -/
theorem clients_step {service : Service Callback Rate}
    {request : Request Callback Rate} (kept : WellKept service.manager)
    (isAdmitted : admits service request) {clientId client object : Nat}
    (before : service.manager.clients[clientId]? = some client)
    (after : (step service request).manager.clients[clientId]? =
      some object) : object = client := by
  cases request with
  | subscribe other callback linked address optionList =>
      have still := (subscribe_spec service.notices other callback linked
        kept isAdmitted optionList).2.1 clientId client before
      exact Option.some.inj (after.symm.trans still)
  | unsubscribe other propId =>
      have was := getElem?_clients_unsubscribe after
      exact Option.some.inj (was.symm.trans before)

theorem run_spec {service : Service Callback Rate}
    {requests : List (Request Callback Rate)}
    (kept : WellKept service.manager)
    (admitted : Admitted step admits service requests) :
    WellKept (runFrom step service requests).manager ∧
      ledgerOf (runFrom step service requests) =
        runFrom Ledger.step (ledgerOf service) requests := by
  induction requests generalizing service with
  | nil => exact ⟨kept, rfl⟩
  | cons request requests inductionHypothesis =>
      rcases step_spec kept admitted.1 with ⟨keptNext, same⟩
      rcases inductionHypothesis keptNext admitted.2 with ⟨keptLast, ran⟩
      exact ⟨keptLast, ran.trans (by rw [same, runFrom_cons])⟩

end Anbox.Vehicle.SubscriptionRefinement
