import Mathlib.Data.Set.Insert
import Mathlib.Logic.Function.Basic
import Anbox.Foundation.Runs
import Anbox.Vehicle.ClientSubscriptions

/-!
# What the subscription manager is for

The ledger says which clients have a property, what each of them has asked for
while it was registered, and what the vehicle has to provide.  It has no
objects, addresses or vectors: a client is its number.

What a client has asked for is kept until it has no property left, also for
properties from which it was unsubscribed.
-/

namespace Anbox.Vehicle.SubscriptionLedger

open Anbox.Foundation.Runs
open Anbox.Vehicle.ClientSubscriptions

universe u v

variable {Callback : Type u} {Rate : Type v}

/-! ## Merged options -/

/-- The first options provide all that the second ask for. -/
def Serves [LT Rate] (provided asked : SubscribeOptions Rate) : Prop :=
  ¬provided.sampleRate < asked.sampleRate ∧
    provided.flags ||| asked.flags = provided.flags

theorem Serves.refl [Preorder Rate] (opts : SubscribeOptions Rate) :
    Serves opts opts :=
  ⟨lt_irrefl _, BitVec.or_self⟩

/-- Kinds of events that are asked for are provided. -/
theorem Serves.flags [LT Rate] {provided asked : SubscribeOptions Rate}
    (serves : Serves provided asked) {flags : SubscribeFlags}
    (asks : asked.flags &&& flags ≠ 0) : provided.flags &&& flags ≠ 0 := by
  intro silent
  rw [← serves.2, BitVec.and_or_distrib_right] at silent
  exact asks (BitVec.or_eq_zero_iff.mp silent).2

section

variable [Preorder Rate] [DecidableLT Rate]

/-- What is asked for after one more request, and what was before it. -/
def ask (old : Option (SubscribeOptions Rate))
    (opts : SubscribeOptions Rate) : SubscribeOptions Rate :=
  match old with
  | none => opts
  | some oldOpts => (mergeSubscribeOptions oldOpts opts).getD oldOpts

/-- The options after one more request, if they are not the old ones. -/
def changed (old : Option (SubscribeOptions Rate))
    (opts : SubscribeOptions Rate) : Option (SubscribeOptions Rate) :=
  match old with
  | none => some opts
  | some oldOpts => mergeSubscribeOptions oldOpts opts

theorem not_maxRate_lt (oldRate newRate : Rate) :
    ¬maxRate oldRate newRate < oldRate ∧
      ¬maxRate oldRate newRate < newRate := by
  rw [maxRate]
  split
  · next raised => exact ⟨fun below => lt_asymm raised below, lt_irrefl _⟩
  · next kept => exact ⟨lt_irrefl _, kept⟩

theorem lt_maxRate_iff {oldRate newRate : Rate} :
    oldRate < maxRate oldRate newRate ↔ oldRate < newRate := by
  rw [maxRate]
  split
  · rfl
  · next kept => exact iff_of_false (lt_irrefl _) kept

/-- A merge has the larger rate and the flags of both. -/
theorem ask_some (oldOpts opts : SubscribeOptions Rate) :
    ask (some oldOpts) opts =
      { oldOpts with
        sampleRate := maxRate oldOpts.sampleRate opts.sampleRate
        flags := oldOpts.flags ||| opts.flags } := by
  simp only [ask, mergeSubscribeOptions]
  split
  · rfl
  · next same =>
    rw [not_or, not_not, lt_maxRate_iff] at same
    rw [Option.getD_none, same.2, maxRate, if_neg same.1]

/-- If the options have changed, they are what is asked for now. -/
theorem changed_eq_some {old : Option (SubscribeOptions Rate)}
    {opts updated : SubscribeOptions Rate}
    (isChanged : changed old opts = some updated) : updated = ask old opts := by
  cases old with
  | none => exact (Option.some.inj isChanged).symm
  | some oldOpts =>
      rw [changed] at isChanged
      rw [ask, isChanged]
      rfl

/-- If the options have not changed, they are what they were. -/
theorem changed_eq_none {old : Option (SubscribeOptions Rate)}
    {opts : SubscribeOptions Rate} (unchanged : changed old opts = none) :
    old = some (ask old opts) := by
  cases old with
  | none => cases unchanged
  | some oldOpts =>
      rw [changed] at unchanged
      rw [ask, unchanged]
      rfl

theorem ask_propId {old : Option (SubscribeOptions Rate)}
    {opts : SubscribeOptions Rate}
    (own : ∀ oldOpts, old = some oldOpts → oldOpts.propId = opts.propId) :
    (ask old opts).propId = opts.propId := by
  cases old with
  | none => rfl
  | some oldOpts =>
      rw [ask_some]
      exact own oldOpts rfl

/-- What is asked for provides for the last request. -/
theorem serves_ask (old : Option (SubscribeOptions Rate))
    (opts : SubscribeOptions Rate) : Serves (ask old opts) opts := by
  cases old with
  | none => exact Serves.refl opts
  | some oldOpts =>
      rw [ask_some]
      refine ⟨(not_maxRate_lt _ _).2, ?_⟩
      dsimp only
      rw [BitVec.or_assoc, BitVec.or_self]

/-- One more request takes nothing away from an earlier one. -/
theorem Serves.ask {oldOpts asked : SubscribeOptions Rate}
    (serves : Serves oldOpts asked) (opts : SubscribeOptions Rate) :
    Serves (ask (some oldOpts) opts) asked := by
  rw [ask_some]
  constructor
  · intro below
    dsimp only [maxRate] at below
    split at below
    · next raised => exact serves.1 (raised.trans below)
    · exact serves.1 below
  · dsimp only
    rw [BitVec.or_assoc, BitVec.or_comm opts.flags, ← BitVec.or_assoc, serves.2]

end

/-! ## The ledger -/

@[ext]
structure Ledger (Rate : Type v) where
  registered : Set Nat
  subscribers : Int → Set Nat
  wanted : Nat → Int → Option (SubscribeOptions Rate)
  demanded : Int → Option (SubscribeOptions Rate)
  notices : List (Notice Rate)

namespace Ledger

def empty : Ledger Rate where
  registered := ∅
  subscribers := fun _ => ∅
  wanted := fun _ _ => none
  demanded := fun _ => none
  notices := []

/-- The client has a property, and has asked for it. -/
def want [Preorder Rate] [DecidableLT Rate] (ledger : Ledger Rate)
    (clientId : Nat) (opts : SubscribeOptions Rate) : Ledger Rate :=
  { ledger with
    subscribers :=
      Function.update ledger.subscribers opts.propId
        (insert clientId (ledger.subscribers opts.propId))
    wanted :=
      Function.update ledger.wanted clientId
        (Function.update (ledger.wanted clientId) opts.propId
          (some (ask (ledger.wanted clientId opts.propId) opts))) }

/-- The vehicle has to provide events. -/
def demand [Preorder Rate] [DecidableLT Rate] (ledger : Ledger Rate)
    (opts : SubscribeOptions Rate) : Ledger Rate :=
  { ledger with
    demanded :=
      Function.update ledger.demanded opts.propId
        (some (ask (ledger.demanded opts.propId) opts))
    notices :=
      ledger.notices ++
        ((changed (ledger.demanded opts.propId) opts).map .updated).toList }

/-- A client asks for one property. -/
def subscribeTo [Preorder Rate] [DecidableLT Rate] (ledger : Ledger Rate)
    (clientId : Nat) (opts : SubscribeOptions Rate) : Ledger Rate :=
  if opts.wantsCar then (ledger.want clientId opts).demand opts
  else ledger.want clientId opts

def register (ledger : Ledger Rate) (clientId : Nat) : Ledger Rate :=
  { ledger with registered := insert clientId ledger.registered }

open scoped Classical in
/-- A client that is there, or can be linked to, asks for properties. -/
noncomputable def subscribe [Preorder Rate] [DecidableLT Rate]
    (ledger : Ledger Rate) (clientId : Nat) (linked : Bool)
    (optionList : List (SubscribeOptions Rate)) : Ledger Rate :=
  if clientId ∈ ledger.registered ∨ linked = true then
    optionList.foldl (fun ledger opts => ledger.subscribeTo clientId opts)
      (ledger.register clientId)
  else ledger

/-- A client does not have a property any more. -/
def take (ledger : Ledger Rate) (clientId : Nat) (propId : Int) :
    Ledger Rate :=
  { ledger with
    subscribers :=
      Function.update ledger.subscribers propId
        (ledger.subscribers propId \ {clientId}) }

/-- A client is gone, with all that it has asked for. -/
def forget (ledger : Ledger Rate) (clientId : Nat) : Ledger Rate :=
  { ledger with
    registered := ledger.registered \ {clientId}
    wanted := Function.update ledger.wanted clientId fun _ => none }

open scoped Classical in
noncomputable def forgetIfIdle (ledger : Ledger Rate) (clientId : Nat) :
    Ledger Rate :=
  if ∃ propId, clientId ∈ ledger.subscribers propId then ledger
  else ledger.forget clientId

/-- The vehicle does not have to provide events any more. -/
def release (ledger : Ledger Rate) (propId : Int) : Ledger Rate :=
  { ledger with
    demanded := Function.update ledger.demanded propId none
    notices := ledger.notices ++ [.unsubscribed propId] }

open scoped Classical in
noncomputable def releaseIfLost (ledger : Ledger Rate) (propId : Int) :
    Ledger Rate :=
  if ledger.subscribers propId = ∅ then ledger.release propId else ledger

noncomputable def unsubscribe (ledger : Ledger Rate) (clientId : Nat)
    (propId : Int) : Ledger Rate :=
  ((ledger.take clientId propId).forgetIfIdle clientId).releaseIfLost propId

noncomputable def step [Preorder Rate] [DecidableLT Rate]
    (ledger : Ledger Rate) :
    Request Callback Rate → Ledger Rate
  | .subscribe clientId _ linked _ optionList =>
      ledger.subscribe clientId linked optionList
  | .unsubscribe clientId propId => ledger.unsubscribe clientId propId

end Ledger

/-! ## Who has a property -/

section

variable {ledger : Ledger Rate} {clientId other : Nat} {propId about : Int}

theorem mem_subscribers_take :
    other ∈ (ledger.take clientId propId).subscribers about ↔
      other ∈ ledger.subscribers about ∧
        ¬(about = propId ∧ other = clientId) := by
  rw [Ledger.take]
  dsimp only
  by_cases same : about = propId
  · subst same
    rw [Function.update_self]
    simp
  · rw [Function.update_of_ne same]
    simp [same]

@[simp]
theorem subscribers_forgetIfIdle :
    (ledger.forgetIfIdle clientId).subscribers = ledger.subscribers := by
  rw [Ledger.forgetIfIdle]
  split <;> rfl

@[simp]
theorem subscribers_releaseIfLost :
    (ledger.releaseIfLost propId).subscribers = ledger.subscribers := by
  rw [Ledger.releaseIfLost]
  split <;> rfl

/-- Who has a property after a client was unsubscribed from one. -/
theorem mem_subscribers_unsubscribe :
    other ∈ (ledger.unsubscribe clientId propId).subscribers about ↔
      other ∈ ledger.subscribers about ∧
        ¬(about = propId ∧ other = clientId) := by
  rw [Ledger.unsubscribe, subscribers_releaseIfLost, subscribers_forgetIfIdle,
    mem_subscribers_take]

/-- What has to be provided after a client was unsubscribed. -/
theorem demanded_unsubscribe :
    (ledger.unsubscribe clientId propId).demanded about =
      if about = propId ∧
          (ledger.unsubscribe clientId propId).subscribers propId = ∅ then
        none
      else ledger.demanded about := by
  have kept : ((ledger.take clientId propId).forgetIfIdle clientId).demanded =
      ledger.demanded := by
    rw [Ledger.forgetIfIdle]
    split <;> rfl
  rw [Ledger.unsubscribe, subscribers_releaseIfLost, Ledger.releaseIfLost]
  split
  · next lost =>
    rw [Ledger.release]
    dsimp only
    by_cases same : about = propId
    · rw [same, Function.update_self, if_pos ⟨rfl, lost⟩]
    · rw [Function.update_of_ne same, if_neg fun both => same both.1, kept]
  · next found =>
    rw [kept, if_neg fun both => found both.2]

/-- Who is there after a client was unsubscribed from a property. -/
theorem mem_registered_unsubscribe :
    other ∈ (ledger.unsubscribe clientId propId).registered ↔
      other ∈ ledger.registered ∧
        (other = clientId →
          ∃ kept, other ∈
            (ledger.unsubscribe clientId propId).subscribers kept) := by
  have released (left : Ledger Rate) :
      (left.releaseIfLost propId).registered = left.registered := by
    rw [Ledger.releaseIfLost]
    split <;> rfl
  rw [Ledger.unsubscribe, released, subscribers_releaseIfLost,
    subscribers_forgetIfIdle, Ledger.forgetIfIdle]
  split
  · next busy =>
    constructor
    · intro isThere
      refine ⟨isThere, ?_⟩
      rintro rfl
      exact busy
    · exact And.left
  · next idle =>
    rw [Ledger.forget]
    dsimp only
    rw [Set.mem_sdiff, Set.mem_singleton_iff]
    constructor
    · rintro ⟨isThere, different⟩
      exact ⟨isThere, fun same => absurd same different⟩
    · rintro ⟨isThere, busy⟩
      refine ⟨isThere, ?_⟩
      rintro rfl
      exact idle (busy rfl)

/-- What clients want after one was unsubscribed from a property. -/
theorem wanted_unsubscribe_of_busy
    (busy : other = clientId →
      ∃ kept, other ∈ (ledger.unsubscribe clientId propId).subscribers kept) :
    (ledger.unsubscribe clientId propId).wanted other =
      ledger.wanted other := by
  have released (left : Ledger Rate) :
      (left.releaseIfLost propId).wanted = left.wanted := by
    rw [Ledger.releaseIfLost]
    split <;> rfl
  rw [Ledger.unsubscribe, subscribers_releaseIfLost,
    subscribers_forgetIfIdle] at busy
  rw [Ledger.unsubscribe, released, Ledger.forgetIfIdle]
  split
  · rfl
  · next idle =>
    rw [Ledger.forget]
    dsimp only
    rw [Function.update_of_ne]
    · rfl
    · rintro rfl
      exact idle (busy rfl)

/-- What the vehicle is told after a client was unsubscribed. -/
theorem notices_unsubscribe :
    ((ledger.unsubscribe clientId propId).subscribers propId = ∅ ∧
        (ledger.unsubscribe clientId propId).notices =
          ledger.notices ++ [.unsubscribed propId]) ∨
      (((ledger.unsubscribe clientId propId).subscribers propId).Nonempty ∧
        (ledger.unsubscribe clientId propId).notices = ledger.notices) := by
  have kept : ((ledger.take clientId propId).forgetIfIdle clientId).notices =
      ledger.notices := by
    rw [Ledger.forgetIfIdle]
    split <;> rfl
  rw [Ledger.unsubscribe, subscribers_releaseIfLost, Ledger.releaseIfLost]
  split
  · next lost =>
    left
    rw [Ledger.release, kept]
    exact ⟨lost, rfl⟩
  · next found => exact Or.inr ⟨Set.nonempty_iff_ne_empty.mpr found, kept⟩

variable [Preorder Rate] [DecidableLT Rate] {opts : SubscribeOptions Rate}

theorem mem_subscribers_want :
    other ∈ (ledger.want clientId opts).subscribers about ↔
      (about = opts.propId ∧ other = clientId) ∨
        other ∈ ledger.subscribers about := by
  rw [Ledger.want]
  dsimp only
  by_cases same : about = opts.propId
  · subst same
    rw [Function.update_self, Set.mem_insert_iff]
    simp
  · rw [Function.update_of_ne same]
    simp [same]

/-- Who has a property after a client asked for one. -/
theorem mem_subscribers_subscribeTo :
    other ∈ (ledger.subscribeTo clientId opts).subscribers about ↔
      (about = opts.propId ∧ other = clientId) ∨
        other ∈ ledger.subscribers about := by
  rw [Ledger.subscribeTo]
  split
  · rw [Ledger.demand]
    exact mem_subscribers_want
  · exact mem_subscribers_want

theorem wanted_want :
    (ledger.want clientId opts).wanted other about =
      if other = clientId ∧ about = opts.propId then
        some (ask (ledger.wanted clientId opts.propId) opts)
      else ledger.wanted other about := by
  rw [Ledger.want]
  dsimp only
  by_cases sameClient : other = clientId
  · subst sameClient
    rw [Function.update_self]
    by_cases same : about = opts.propId
    · subst same
      rw [Function.update_self, if_pos ⟨rfl, rfl⟩]
    · rw [Function.update_of_ne same, if_neg fun both => same both.2]
  · rw [Function.update_of_ne sameClient,
      if_neg fun both => sameClient both.1]

theorem demanded_demand :
    (ledger.demand opts).demanded about =
      if about = opts.propId then
        some (ask (ledger.demanded opts.propId) opts)
      else ledger.demanded about := by
  rw [Ledger.demand]
  dsimp only
  split
  · next same => rw [same, Function.update_self]
  · next different => rw [Function.update_of_ne different]

end

end Anbox.Vehicle.SubscriptionLedger
