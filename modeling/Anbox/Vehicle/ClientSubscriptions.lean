import Mathlib.Order.Defs.PartialOrder
import Std.Data.TreeMap
import Std.Data.TreeSet

/-!
# Subscriptions of the vehicle's clients

The manager keeps three tables: the clients by their number, the clients of
each property, and for each property the options that the vehicle was asked
for.  The first two point to the same `HalClient` objects, which are found
here by their address.

A sample rate is a value of any preorder.  A float that is not a number is not
less than any other, and none is less than it.
-/

namespace Anbox.Vehicle.ClientSubscriptions

open Std

universe u v

/-! ## Options -/

abbrev SubscribeFlags := BitVec 32

def undefinedFlags : SubscribeFlags := 0

def eventsFromCar : SubscribeFlags := 1

def eventsFromAndroid : SubscribeFlags := 2

structure SubscribeOptions (Rate : Type v) where
  propId : Int
  sampleRate : Rate
  flags : SubscribeFlags
deriving DecidableEq, Repr

variable {Callback : Type u} {Rate : Type v}

section

variable [Preorder Rate] [DecidableLT Rate]

/-- `std::max`, which prefers its first argument. -/
def maxRate (oldRate newRate : Rate) : Rate :=
  if oldRate < newRate then newRate else oldRate

/-- The merged options, if they are not the old ones. -/
def mergeSubscribeOptions (oldOpts newOpts : SubscribeOptions Rate) :
    Option (SubscribeOptions Rate) :=
  let updatedRate := maxRate oldOpts.sampleRate newOpts.sampleRate
  let updatedFlags := oldOpts.flags ||| newOpts.flags
  if oldOpts.sampleRate < updatedRate ∨ updatedFlags ≠ oldOpts.flags then
    some { oldOpts with sampleRate := updatedRate, flags := updatedFlags }
  else none

end

/-- Whether options ask for events of the car. -/
def SubscribeOptions.wantsCar (opts : SubscribeOptions Rate) : Bool :=
  eventsFromCar &&& opts.flags ≠ 0

/-! ## Clients -/

/-- A `HalClient`: its callback, and what it has asked for. -/
structure HalClient (Callback : Type u) (Rate : Type v) where
  callback : Callback
  subscriptions : TreeMap Int (SubscribeOptions Rate)

/-- `HalClient::addOrUpdateSubscription`. -/
def HalClient.addOrUpdateSubscription [Preorder Rate] [DecidableLT Rate]
    (client : HalClient Callback Rate) (opts : SubscribeOptions Rate) :
    HalClient Callback Rate :=
  match client.subscriptions[opts.propId]? with
  | none =>
      { client with
        subscriptions := client.subscriptions.insert opts.propId opts }
  | some oldOpts =>
      match mergeSubscribeOptions oldOpts opts with
      | some updatedOptions =>
          { client with
            subscriptions :=
              client.subscriptions.insert opts.propId updatedOptions }
      | none => client

def HalClient.isSubscribed (client : HalClient Callback Rate) (propId : Int)
    (flags : SubscribeFlags) : Bool :=
  match client.subscriptions[propId]? with
  | none => false
  | some opts => opts.flags &&& flags ≠ 0

def HalClient.getSubscribedProperties (client : HalClient Callback Rate) :
    List Int :=
  client.subscriptions.keys

/-! ## The manager -/

/--
A `SubscriptionManager`.  `halClients` are the objects by their addresses; an
object that nothing points to stays there until its address is used again.
-/
structure SubscriptionManager (Callback : Type u) (Rate : Type v) where
  halClients : TreeMap Nat (HalClient Callback Rate)
  clients : TreeMap Nat Nat
  propToClients : TreeMap Int (TreeSet Nat)
  halEventSubscribeOptions : TreeMap Int (SubscribeOptions Rate)

namespace SubscriptionManager

def new : SubscriptionManager Callback Rate := ⟨∅, ∅, ∅, ∅⟩

/-- A new client, with its object at the given address. -/
def createHalClient (manager : SubscriptionManager Callback Rate)
    (clientId : Nat) (callback : Callback) (address : Nat) :
    SubscriptionManager Callback Rate :=
  { manager with
    halClients := manager.halClients.insert address ⟨callback, ∅⟩
    clients := manager.clients.insert clientId address }

/--
`getOrCreateHalClientLocked`, where `linked` is whether the callback is still
there to be linked to, and `address` is where a new object is placed.
-/
def getOrCreateHalClientLocked (manager : SubscriptionManager Callback Rate)
    (clientId : Nat) (callback : Callback) (linked : Bool) (address : Nat) :
    Option (SubscriptionManager Callback Rate × Nat) :=
  match manager.clients[clientId]? with
  | some client => some (manager, client)
  | none =>
      if linked then
        some (manager.createHalClient clientId callback address, address)
      else none

/-- `client->addOrUpdateSubscription`. -/
def updateHalClient [Preorder Rate] [DecidableLT Rate]
    (manager : SubscriptionManager Callback Rate) (client : Nat)
    (opts : SubscribeOptions Rate) : SubscriptionManager Callback Rate :=
  match manager.halClients[client]? with
  | some object =>
      { manager with
        halClients :=
          manager.halClients.insert client
            (object.addOrUpdateSubscription opts) }
  | none => manager

def getClientsForPropertyLocked (manager : SubscriptionManager Callback Rate)
    (propId : Int) : Option (TreeSet Nat) :=
  manager.propToClients[propId]?

def addClientToPropMapLocked (manager : SubscriptionManager Callback Rate)
    (propId : Int) (client : Nat) : SubscriptionManager Callback Rate :=
  let propClients := (manager.getClientsForPropertyLocked propId).getD ∅
  { manager with
    propToClients :=
      manager.propToClients.insert propId (propClients.insert client) }

section

variable [Preorder Rate] [DecidableLT Rate]

/-- `updateHalEventSubscriptionLocked`, with the options if they changed. -/
def updateHalEventSubscriptionLocked
    (manager : SubscriptionManager Callback Rate)
    (opts : SubscribeOptions Rate) :
    SubscriptionManager Callback Rate × Option (SubscribeOptions Rate) :=
  match manager.halEventSubscribeOptions[opts.propId]? with
  | none =>
      ({ manager with
          halEventSubscribeOptions :=
            manager.halEventSubscribeOptions.insert opts.propId opts },
        some opts)
  | some oldOpts =>
      match mergeSubscribeOptions oldOpts opts with
      | some updated =>
          ({ manager with
              halEventSubscribeOptions :=
                manager.halEventSubscribeOptions.insert opts.propId updated },
            some updated)
      | none => (manager, none)

/-- One turn of the loop over the options of a request. -/
def subscribeClient (manager : SubscriptionManager Callback Rate)
    (client : Nat) (opts : SubscribeOptions Rate) :
    SubscriptionManager Callback Rate × Option (SubscribeOptions Rate) :=
  let listed :=
    (manager.updateHalClient client opts).addClientToPropMapLocked
      opts.propId client
  if opts.wantsCar then listed.updateHalEventSubscriptionLocked opts
  else (listed, none)

/-- The loop, with the options that have changed. -/
def subscribeAll (client : Nat) :
    SubscriptionManager Callback Rate → List (SubscribeOptions Rate) →
      SubscriptionManager Callback Rate × List (SubscribeOptions Rate)
  | manager, [] => (manager, [])
  | manager, opts :: optionList =>
      let (subscribed, updated) := manager.subscribeClient client opts
      let (final, later) := subscribeAll client subscribed optionList
      (final, updated.toList ++ later)

/--
`addOrUpdateSubscription`: the options that the vehicle has to be asked for,
unless the client is not there any more.
-/
def addOrUpdateSubscription (manager : SubscriptionManager Callback Rate)
    (clientId : Nat) (callback : Callback) (linked : Bool) (address : Nat)
    (optionList : List (SubscribeOptions Rate)) :
    SubscriptionManager Callback Rate ×
      Option (List (SubscribeOptions Rate)) :=
  match
    manager.getOrCreateHalClientLocked clientId callback linked address with
  | none => (manager, none)
  | some (manager, client) =>
      let (subscribed, updated) := subscribeAll client manager optionList
      (subscribed, some updated)

end

/-- Take a client out of the clients of a property. -/
def removeFromProperty (manager : SubscriptionManager Callback Rate)
    (propId : Int) (client : Nat) : SubscriptionManager Callback Rate :=
  match manager.getClientsForPropertyLocked propId with
  | none => manager
  | some propertyClients =>
      let left := propertyClients.erase client
      { manager with
        propToClients :=
          if left.isEmpty then manager.propToClients.erase propId
          else manager.propToClients.insert propId left }

/-- Whether any property has the client. -/
def isClientSubscribed (manager : SubscriptionManager Callback Rate)
    (client : Nat) : Bool :=
  manager.propToClients.toList.any fun propClient =>
    propClient.2.contains client

/-- The first part of `unsubscribe`, about the client. -/
def releaseClient (manager : SubscriptionManager Callback Rate)
    (clientId : Nat) (propId : Int) : SubscriptionManager Callback Rate :=
  match manager.clients[clientId]? with
  | none => manager
  | some client =>
      let removed := manager.removeFromProperty propId client
      if removed.isClientSubscribed client then removed
      else { removed with clients := removed.clients.erase clientId }

/--
`unsubscribe`, with whether `mOnPropertyUnsubscribed` is called: the property
has no clients, be it that there is no vector or that the vector is empty.
-/
def unsubscribe (manager : SubscriptionManager Callback Rate)
    (clientId : Nat) (propId : Int) :
    SubscriptionManager Callback Rate × Bool :=
  let released := manager.releaseClient clientId propId
  if
    (released.getClientsForPropertyLocked propId).all fun propertyClients =>
      propertyClients.isEmpty then
    ({ released with
        halEventSubscribeOptions :=
          released.halEventSubscribeOptions.erase propId },
      true)
  else (released, false)

/--
The properties that `onCallbackDead` reads under the lock; it goes on to
unsubscribe the client from each of them, under a lock of its own.
-/
def deadClientProperties (manager : SubscriptionManager Callback Rate)
    (cookie : Nat) : List Int :=
  match manager.clients[cookie]?.bind (manager.halClients[·]?) with
  | none => []
  | some halClient => halClient.getSubscribedProperties

/-- `getSubscribedClientsLocked`, by address. -/
def getSubscribedClientsLocked (manager : SubscriptionManager Callback Rate)
    (propId : Int) (flags : SubscribeFlags) : List Nat :=
  match manager.getClientsForPropertyLocked propId with
  | none => []
  | some propClients =>
      propClients.toList.filter fun client =>
        (manager.halClients[client]?).any fun object =>
          object.isSubscribed propId flags

end SubscriptionManager

/-! ## Requests -/

/-- What the vehicle has to be told about a property. -/
inductive Notice (Rate : Type v) where
  | updated (opts : SubscribeOptions Rate)
  | unsubscribed (propId : Int)
deriving DecidableEq, Repr

/--
What is done under one hold of the lock.  The calls of `onCallbackDead` are
requests to unsubscribe like others.
-/
inductive Request (Callback : Type u) (Rate : Type v) where
  | subscribe (clientId : Nat) (callback : Callback) (linked : Bool)
      (address : Nat) (optionList : List (SubscribeOptions Rate))
  | unsubscribe (clientId : Nat) (propId : Int)

/-- The manager and what it has given out for the vehicle, in order. -/
structure Service (Callback : Type u) (Rate : Type v) where
  manager : SubscriptionManager Callback Rate
  notices : List (Notice Rate)

def Service.new : Service Callback Rate := ⟨SubscriptionManager.new, []⟩

def step [Preorder Rate] [DecidableLT Rate] (service : Service Callback Rate) :
    Request Callback Rate → Service Callback Rate
  | .subscribe clientId callback linked address optionList =>
      let (manager, updated) :=
        service.manager.addOrUpdateSubscription clientId callback linked
          address optionList
      ⟨manager, service.notices ++ (updated.getD []).map .updated⟩
  | .unsubscribe clientId propId =>
      let (manager, called) := service.manager.unsubscribe clientId propId
      ⟨manager,
        service.notices ++ if called then [.unsubscribed propId] else []⟩

/-- Nothing of the manager points to an object at this address. -/
def Unused (manager : SubscriptionManager Callback Rate) (address : Nat) :
    Prop :=
  (∀ client ∈ manager.clients.toList, client.2 ≠ address) ∧
    ∀ propClient ∈ manager.propToClients.toList, address ∉ propClient.2

instance (manager : SubscriptionManager Callback Rate) (address : Nat) :
    Decidable (Unused manager address) :=
  inferInstanceAs (Decidable (_ ∧ _))

/-- A new object is placed where no other is. -/
def admits (service : Service Callback Rate) : Request Callback Rate → Prop
  | .subscribe _ _ _ address _ => Unused service.manager address
  | .unsubscribe _ _ => True

instance (service : Service Callback Rate) :
    (request : Request Callback Rate) → Decidable (admits service request)
  | .subscribe _ _ _ address _ =>
      inferInstanceAs (Decidable (Unused service.manager address))
  | .unsubscribe _ _ => isTrue trivial

end Anbox.Vehicle.ClientSubscriptions
