import Anbox.Bridge.LaunchRequest

/-!
# Application list updates

`PlatformApiStub::update_application_list` in the guest puts its lists of
updated and removed applications into an event.  On the host
`PlatformApiSkeleton::handle_application_list_update_event` removes and stores
them in the application database, which also keeps launchers on disk.

The host copies the fields of the launch intent one by one and takes the type
from the field `uri`.
-/

namespace Anbox.Bridge.ApplicationList

open Std
open Anbox.Foundation.Framing
open Anbox.Foundation.OrderedMap
open Anbox.Bridge.LaunchRequest (Intent IntentMessage)

/-! ## The guest -/

/-- `ApplicationListUpdate::Application::Intent`. -/
structure GuestIntent where
  action : String
  uri : String
  type : String
  package : String
  component : String
  categories : List String
deriving DecidableEq, Repr

/-- `ApplicationListUpdate::Application`. -/
structure GuestApplication where
  name : String
  package : String
  launchIntent : GuestIntent
  icon : List UInt8
deriving DecidableEq, Repr

structure ApplicationListUpdate where
  applications : List GuestApplication
  removedApplications : List String

/-- The message `ApplicationListUpdateEvent::Application`. -/
structure ApplicationMessage where
  name : String
  package : String
  launchIntent : Option IntentMessage
  icon : Option (List UInt8)
deriving DecidableEq, Repr

structure ApplicationListUpdateEvent where
  applications : List ApplicationMessage
  removedApplications : List ApplicationMessage

def applicationMessage (application : GuestApplication) :
    ApplicationMessage :=
  { name := application.name
    package := application.package
    launchIntent :=
      some
        { action := some application.launchIntent.action
          uri := some application.launchIntent.uri
          type := some application.launchIntent.type
          package := some application.launchIntent.package
          component := some application.launchIntent.component
          categories := application.launchIntent.categories }
    icon :=
      if 0 < application.icon.length then some application.icon else none }

def removedMessage (package : String) : ApplicationMessage :=
  ⟨"unknown", package, none, none⟩

/-- The event that `update_application_list` sends. -/
def updateApplicationList (update : ApplicationListUpdate) :
    ApplicationListUpdateEvent :=
  ⟨update.applications.map applicationMessage,
    update.removedApplications.map removedMessage⟩

/-! ## The database -/

/-- `Database::Item`. -/
structure Item where
  name : String
  package : String
  launchIntent : Intent
  icon : List UInt8
deriving DecidableEq, Repr

/-- What the database asks the launcher storage for. -/
inductive StorageCall where
  | reset
  | addOrUpdate (item : Item)
  | remove (package : String)
deriving DecidableEq, Repr

/--
The application database.  The skeleton is its only user and never stores an
item without a package.
-/
structure Database where
  items : TreeMap String Item
  doneReset : Bool
  /-- The calls of the launcher storage, in order. -/
  storage : List StorageCall
  named : items[""]? = none

def Database.initial : Database := ⟨∅, false, [], rfl⟩

/-- Whether a call of the storage throws, given the calls before it. -/
abbrev StorageFails := List StorageCall → StorageCall → Bool

def callStorage (fails : StorageFails) (database : Database)
    (call : StorageCall) : Outcome Database :=
  let next := { database with storage := database.storage ++ [call] }
  if fails database.storage call then .thrown next else .returned next

/-- Enter an item without its icon, which the storage has written to disk. -/
def Database.enter (database : Database) (item : Item)
    (named : item.package ≠ "") : Database :=
  { database with
    items := database.items.insert item.package { item with icon := [] }
    named := by
      rw [getElem?_insert_eq, if_neg named.symm]
      exact database.named }

def storeOrUpdate (fails : StorageFails) (database : Database)
    (item : Item) (named : item.package ≠ "") : Outcome Database :=
  let reset :=
    if database.doneReset then .returned database
    else
      (callStorage fails database .reset).andThen
        (fun next => .returned { next with doneReset := true }) id
  reset.andThen
    (fun next =>
      (callStorage fails next (.addOrUpdate item)).andThen
        (fun stored => .returned (stored.enter item named)) id) id

def Database.drop (database : Database) (package : String) : Database :=
  { database with
    items := database.items.erase package
    named := by
      rw [TreeMap.getElem?_erase]
      split
      · rfl
      · exact database.named }

def remove (fails : StorageFails) (database : Database)
    (package : String) : Outcome Database :=
  match database.items[package]? with
  | none => .returned database
  | some _ =>
      (callStorage fails database (.remove package)).andThen
        (fun next => .returned (next.drop package)) id

/-! ## The host -/

/-- A message of which no field has been set. -/
def unsetIntent : IntentMessage := ⟨none, none, none, none, none, []⟩

/-- The item that is made of a message; the type is taken from `uri`. -/
def itemOf (application : ApplicationMessage) : Item :=
  let launchIntent := application.launchIntent.getD unsetIntent
  { name := application.name
    package := application.package
    launchIntent :=
      { action := launchIntent.action.getD ""
        uri := launchIntent.uri.getD ""
        type := launchIntent.uri.getD ""
        flags := 0
        package := launchIntent.package.getD ""
        component := launchIntent.component.getD ""
        categories := launchIntent.categories }
    icon := application.icon.getD [] }

def removeApplication (fails : StorageFails) (database : Database)
    (application : ApplicationMessage) : Outcome Database :=
  if application.package = "" then .returned database
  else remove fails database application.package

def storeApplication (fails : StorageFails) (database : Database)
    (application : ApplicationMessage) : Outcome Database :=
  let item := itemOf application
  if unnamed : item.package = "" then .returned database
  else storeOrUpdate fails database item unnamed

def handleApplicationListUpdateEvent (fails : StorageFails)
    (database : Database) (event : ApplicationListUpdateEvent) :
    Outcome Database :=
  (handleAll (removeApplication fails) database
    event.removedApplications).andThen
    (fun next => handleAll (storeApplication fails) next event.applications)
    id

/-! ## A faithful update -/

/-- The last entry of a list of updates for a package with a name. -/
def lastUpdate (applications : List GuestApplication) (package : String) :
    Option GuestApplication :=
  if package = "" then none
  else applications.reverse.find? fun application =>
    application.package = package

/-- The item has the name and the launch intent of the application. -/
structure Stored (application : GuestApplication) (item : Item) : Prop where
  name : item.name = application.name
  action : item.launchIntent.action = application.launchIntent.action
  uri : item.launchIntent.uri = application.launchIntent.uri
  type : item.launchIntent.type = application.launchIntent.type
  package : item.launchIntent.package = application.launchIntent.package
  component :
    item.launchIntent.component = application.launchIntent.component
  categories :
    item.launchIntent.categories = application.launchIntent.categories

/-- The updates and removals have been applied, and nothing else. -/
structure Applied (update : ApplicationListUpdate)
    (before after : Database) : Prop where
  updated :
    ∀ package application,
      lastUpdate update.applications package = some application →
        ∃ item, after.items[package]? = some item ∧ Stored application item
  removed :
    ∀ package, lastUpdate update.applications package = none →
      package ∈ update.removedApplications → after.items[package]? = none
  others :
    ∀ package, lastUpdate update.applications package = none →
      package ∉ update.removedApplications →
        after.items[package]? = before.items[package]?

/-! ## What the operations do to the entries -/

section Operations

variable {fails : StorageFails} {database next : Database}

theorem items_of_callStorage {call : StorageCall}
    (returned : callStorage fails database call = .returned next) :
    next.items = database.items := by
  simp only [callStorage] at returned
  split at returned
  · cases returned
  · cases returned
    rfl

/-- Storing an item replaces the entry of its package. -/
theorem items_of_storeOrUpdate {item : Item} {named : item.package ≠ ""}
    (returned : storeOrUpdate fails database item named = .returned next)
    (package : String) :
    next.items[package]? =
      if package = item.package then some { item with icon := [] }
      else database.items[package]? := by
  have entered : ∀ {reset : Database},
      reset.items = database.items →
        (callStorage fails reset (.addOrUpdate item)).andThen
            (fun stored => .returned (stored.enter item named)) id =
          .returned next →
        next.items[package]? =
          if package = item.package then some { item with icon := [] }
          else database.items[package]? := by
    intro reset same stored
    rcases Outcome.andThen_eq_returned_iff.mp stored with
      ⟨written, called, stored⟩
    cases stored
    simp only [Database.enter, getElem?_insert_eq,
      items_of_callStorage called, same]
  rcases Outcome.andThen_eq_returned_iff.mp returned with
    ⟨reset, wasReset, stored⟩
  split at wasReset
  · cases wasReset
    exact entered rfl stored
  · rcases Outcome.andThen_eq_returned_iff.mp wasReset with
      ⟨written, called, done⟩
    cases done
    have same := items_of_callStorage called
    exact @entered { written with doneReset := true } same stored

/-- Removing a package removes its entry. -/
theorem items_of_remove {removed : String}
    (returned : remove fails database removed = .returned next)
    (package : String) :
    next.items[package]? =
      if package = removed then none else database.items[package]? := by
  unfold remove at returned
  split at returned
  · next missing =>
    cases returned
    split
    · next same => rw [same, missing]
    · rfl
  · rcases Outcome.andThen_eq_returned_iff.mp returned with
      ⟨written, called, returned⟩
    cases returned
    simp only [Database.drop, items_of_callStorage called]
    by_cases same : package = removed
    · simp [same]
    · rw [if_neg same, getElem?_erase_of_ne same]

end Operations

/-! ## What the loops do to the entries -/

section Loops

variable {fails : StorageFails} {next : Database}

/-- A package without a name has no entry, so ignoring it removes it, too. -/
theorem items_of_removeApplication {database : Database} {removed : String}
    (returned :
      removeApplication fails database (removedMessage removed) =
        .returned next)
    (package : String) :
    next.items[package]? =
      if package = removed then none else database.items[package]? := by
  unfold removeApplication at returned
  split at returned
  · next unnamed =>
    obtain rfl : database = next := Outcome.returned.inj returned
    split
    · next same =>
      have empty : removed = "" := unnamed
      rw [same, empty, database.named]
    · rfl
  · exact items_of_remove returned package

theorem items_of_removeAll {database : Database} {removed : List String}
    (returned :
      handleAll (removeApplication fails) database
        (removed.map removedMessage) = .returned next)
    (package : String) :
    next.items[package]? =
      if package ∈ removed then none else database.items[package]? := by
  induction removed generalizing database with
  | nil =>
      cases returned
      simp
  | cons first removed inductionHypothesis =>
      rcases Outcome.andThen_eq_returned_iff.mp returned with
        ⟨middle, handled, returned⟩
      rw [inductionHypothesis returned, items_of_removeApplication handled]
      by_cases later : package ∈ removed <;>
        by_cases now : package = first <;> simp [later, now]

/-- The item of an application as it is kept in the database. -/
def keptItem (application : GuestApplication) : Item :=
  { itemOf (applicationMessage application) with icon := [] }

theorem items_of_storeApplication {database : Database}
    {application : GuestApplication}
    (returned :
      storeApplication fails database (applicationMessage application) =
        .returned next)
    (package : String) :
    next.items[package]? =
      if package ≠ "" ∧ application.package = package then
        some (keptItem application)
      else database.items[package]? := by
  simp only [storeApplication] at returned
  split at returned
  · next unnamed =>
    cases returned
    have empty : application.package = "" := unnamed
    rw [if_neg]
    rintro ⟨named, same⟩
    exact named (same.symm.trans empty)
  · next named =>
    have given : application.package ≠ "" := named
    rw [items_of_storeOrUpdate returned]
    by_cases same : application.package = package
    · subst same
      simp [given, keptItem, itemOf, applicationMessage]
    · have different : ¬ package =
          (itemOf (applicationMessage application)).package :=
        fun equal => same equal.symm
      rw [if_neg different, if_neg fun both => same both.2]

theorem lastUpdate_cons (application : GuestApplication)
    (applications : List GuestApplication) (package : String) :
    lastUpdate (application :: applications) package =
      (lastUpdate applications package).or
        (if package ≠ "" ∧ application.package = package then
          some application else none) := by
  by_cases named : package = ""
  · simp [lastUpdate, named]
  · by_cases same : application.package = package <;>
      simp [lastUpdate, named, same]

theorem items_of_storeAll {database : Database}
    {applications : List GuestApplication}
    (returned :
      handleAll (storeApplication fails) database
        (applications.map applicationMessage) = .returned next)
    (package : String) :
    next.items[package]? =
      ((lastUpdate applications package).map keptItem).or
        database.items[package]? := by
  induction applications generalizing database with
  | nil =>
      cases returned
      simp [lastUpdate]
  | cons first applications inductionHypothesis =>
      rcases Outcome.andThen_eq_returned_iff.mp returned with
        ⟨middle, handled, returned⟩
      rw [inductionHypothesis returned, items_of_storeApplication handled,
        lastUpdate_cons]
      cases later : lastUpdate applications package with
      | some application => simp
      | none =>
          by_cases now : package ≠ "" ∧ first.package = package <;>
            simp [now]

end Loops

/-! ## When an update is applied faithfully -/

/-- The entries after an event: the last updates, then what was not removed. -/
theorem items_of_handleEvent {fails : StorageFails}
    {before after : Database} {update : ApplicationListUpdate}
    (returned :
      handleApplicationListUpdateEvent fails before
        (updateApplicationList update) = .returned after)
    (package : String) :
    after.items[package]? =
      ((lastUpdate update.applications package).map keptItem).or
        (if package ∈ update.removedApplications then none
          else before.items[package]?) := by
  rcases Outcome.andThen_eq_returned_iff.mp returned with
    ⟨middle, handled, returned⟩
  rw [items_of_storeAll returned, items_of_removeAll handled]

/-- All fields are kept but the type, which is the `uri`. -/
theorem stored_keptItem_iff (application : GuestApplication) :
    Stored application (keptItem application) ↔
      application.launchIntent.type = application.launchIntent.uri := by
  constructor
  · intro stored
    exact stored.type.symm
  · intro same
    constructor
    case type => exact same.symm
    all_goals rfl

/--
An update is applied faithfully if and only if the last entry of every updated
package has a launch intent whose type is its `uri`.
-/
theorem handleEvent_applied_iff (fails : StorageFails)
    (before after : Database) (update : ApplicationListUpdate)
    (returned :
      handleApplicationListUpdateEvent fails before
        (updateApplicationList update) = .returned after) :
    Applied update before after ↔
      ∀ package application,
        lastUpdate update.applications package = some application →
          application.launchIntent.type = application.launchIntent.uri := by
  have items := items_of_handleEvent returned
  constructor
  · intro applied package application isLast
    rcases applied.updated package application isLast with
      ⟨item, found, stored⟩
    rw [items package, isLast] at found
    cases found
    exact (stored_keptItem_iff application).mp stored
  · intro same
    constructor
    · intro package application isLast
      refine ⟨keptItem application, ?_,
        (stored_keptItem_iff application).mpr (same _ _ isLast)⟩
      simp [items package, isLast]
    · intro package notUpdated removed
      simp [items package, notUpdated, removed]
    · intro package notUpdated kept
      simp [items package, notUpdated, kept]

/-- The radio and the clock are installed. -/
def radioAndClock : Database :=
  (Database.initial.enter
    ⟨"Radio", "org.radio",
      ⟨"android.intent.action.MAIN", "", "", 0, "org.radio", ".Main", []⟩,
      []⟩ (by decide)).enter
    ⟨"Clock", "org.clock",
      ⟨"android.intent.action.MAIN", "", "", 0, "org.clock", ".Main", []⟩,
      []⟩ (by decide)

/-- The radio goes, and the camera comes with a type that is its `uri`. -/
def cameraUpdate : ApplicationListUpdate :=
  ⟨[⟨"Camera", "org.camera",
      ⟨"android.intent.action.VIEW", "image", "image", "org.camera", ".Main",
        ["android.intent.category.LAUNCHER"]⟩, [0x89]⟩], ["org.radio"]⟩

theorem handleEvent_applied_iff_camera :
    ∃ after,
      handleApplicationListUpdateEvent (fun _ _ => false) radioAndClock
          (updateApplicationList cameraUpdate) = .returned after ∧
        after.items["org.radio"]? = none ∧
        Applied cameraUpdate radioAndClock after := by
  refine ⟨_, rfl, rfl, (handleEvent_applied_iff (fun _ _ => false)
    radioAndClock _ cameraUpdate rfl).mpr ?_⟩
  intro package application isLast
  unfold lastUpdate at isLast
  split at isLast
  · cases isLast
  · have member := List.mem_of_find?_eq_some isLast
    simp only [cameraUpdate, List.reverse_singleton,
      List.mem_singleton] at member
    rw [member]

/-- An update of one application that shows pictures. -/
def galleryUpdate : ApplicationListUpdate :=
  ⟨[⟨"Gallery", "org.gallery",
      ⟨"android.intent.action.VIEW", "content://media", "image/png",
        "org.gallery", ".Main", []⟩, []⟩], []⟩

/-- The type `image/png` is lost. -/
theorem gallery_type_lost :
    ∃ after item,
      handleApplicationListUpdateEvent (fun _ _ => false) .initial
          (updateApplicationList galleryUpdate) = .returned after ∧
        after.items["org.gallery"]? = some item ∧
        item.launchIntent.type = "content://media" ∧
        ¬ Applied galleryUpdate .initial after := by
  refine ⟨_, _, rfl, rfl, rfl, ?_⟩
  intro applied
  rcases applied.updated "org.gallery" _ rfl with ⟨item, found, stored⟩
  cases found
  exact absurd stored.type (by decide)

end Anbox.Bridge.ApplicationList
