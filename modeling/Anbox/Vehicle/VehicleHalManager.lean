import Anbox.Vehicle.ServedSubscriptions
import Mathlib.Algebra.Order.Ring.Nat

/-!
# Which rates the vehicle is asked for

Before a request gets to the subscription manager, each of its options is
checked against the configuration of its property and its rate is brought
between the bounds there.  If one of them is refused, none has an effect.
-/

namespace Anbox.Vehicle.VehicleHalManager

open Anbox.Foundation
open Anbox.Foundation.Runs
open Anbox.Vehicle.ClientSubscriptions
open Anbox.Vehicle.LedgerInvariants
open Anbox.Vehicle.ServedSubscriptions
open Anbox.Vehicle.SubscriptionLedger
open Anbox.Vehicle.SubscriptionRefinement
open Std

universe u v

/-! ## Configurations -/

/-- Bits of `VehiclePropertyAccess`. -/
def accessRead : BitVec 32 := 1

/-- Values of `VehiclePropertyChangeMode`. -/
def changeModeStatic : BitVec 32 := 0

def changeModeOnChange : BitVec 32 := 1

def changeModeContinuous : BitVec 32 := 2

structure VehiclePropConfig (Rate : Type v) where
  prop : Int
  access : BitVec 32
  changeMode : BitVec 32
  minSampleRate : Rate
  maxSampleRate : Rate
deriving DecidableEq, Repr

/-- A `VehiclePropConfigIndex`; of two entries for a property it has the last. -/
abbrev VehiclePropConfigIndex (Rate : Type v) :=
  TreeMap Int (VehiclePropConfig Rate)

def VehiclePropConfigIndex.new {Rate : Type v}
    (properties : List (VehiclePropConfig Rate)) :
    VehiclePropConfigIndex Rate :=
  properties.foldl (fun index config => index.insert config.prop config) ∅

variable {Callback : Type u} {Rate : Type v}

def isSampleRateFixed (mode : BitVec 32) : Bool :=
  mode &&& changeModeOnChange ≠ 0

def checkSampleRate [Preorder Rate] [DecidableLT Rate] [Zero Rate]
    (config : VehiclePropConfig Rate) (sampleRate : Rate) : Rate :=
  if isSampleRateFixed config.changeMode then 0
  else if config.maxSampleRate < sampleRate then config.maxSampleRate
  else if sampleRate < config.minSampleRate then config.minSampleRate
  else sampleRate

def isSubscribable (config : VehiclePropConfig Rate)
    (flags : SubscribeFlags) : Bool :=
  let isReadable := config.access &&& accessRead ≠ 0
  if ¬isReadable ∧ eventsFromCar &&& flags ≠ 0 then false
  else config.changeMode ≠ changeModeStatic

/-! ## Calls -/

section

variable [Preorder Rate] [DecidableLT Rate] [Zero Rate]

/-- One turn of the loop in `subscribe`, unless the options are refused. -/
def verifyOption (configs : VehiclePropConfigIndex Rate)
    (ops : SubscribeOptions Rate) : Option (SubscribeOptions Rate) := do
  let config ← configs[ops.propId]?
  if ops.flags = undefinedFlags then none
  else if isSubscribable config ops.flags then
    some { ops with sampleRate := checkSampleRate config ops.sampleRate }
  else none

/-- The loop: all options are verified, or the call is refused. -/
def verifyOptions (configs : VehiclePropConfigIndex Rate) :
    List (SubscribeOptions Rate) → Option (List (SubscribeOptions Rate))
  | [] => some []
  | ops :: options => do
      let verified ← verifyOption configs ops
      let others ← verifyOptions configs options
      return verified :: others

/-- A call as it gets to the subscription manager, if it does. -/
def verify (configs : VehiclePropConfigIndex Rate) :
    Request Callback Rate → Option (Request Callback Rate)
  | .subscribe clientId callback linked address options =>
      (verifyOptions configs options).map fun verifiedOptions =>
        .subscribe clientId callback linked address verifiedOptions
  | .unsubscribe clientId propId => some (.unsubscribe clientId propId)

/-- The manager after a call; a call that is refused has no effect. -/
def callStep (configs : VehiclePropConfigIndex Rate)
    (service : Service Callback Rate) (call : Request Callback Rate) :
    Service Callback Rate :=
  match verify configs call with
  | some request => step service request
  | none => service

/-- The requests that get to the manager. -/
def verifiedCalls (configs : VehiclePropConfigIndex Rate)
    (calls : List (Request Callback Rate)) : List (Request Callback Rate) :=
  calls.filterMap (verify configs)

theorem runFrom_callStep (configs : VehiclePropConfigIndex Rate)
    (service : Service Callback Rate) (calls : List (Request Callback Rate)) :
    runFrom (callStep configs) service calls =
      runFrom step service (verifiedCalls configs calls) := by
  induction calls generalizing service with
  | nil => rfl
  | cons call calls inductionHypothesis =>
      rw [runFrom_cons, inductionHypothesis, verifiedCalls, verifiedCalls,
        List.filterMap_cons, callStep]
      cases verify configs call with
      | none => rfl
      | some request => rfl

/-! ## Rates within the bounds -/

/--
The vehicle can be asked for these options: the property is configured, it can
be read and changes, and its rate passes the check of its configuration.
-/
def Allowed (configs : VehiclePropConfigIndex Rate)
    (opts : SubscribeOptions Rate) : Prop :=
  ∃ config, configs[opts.propId]? = some config ∧
    config.access &&& accessRead ≠ 0 ∧
      config.changeMode ≠ changeModeStatic ∧
        checkSampleRate config opts.sampleRate = opts.sampleRate

/-- No configuration has a largest rate below its smallest. -/
def Ordered (configs : VehiclePropConfigIndex Rate) : Prop :=
  ∀ (propId : Int) (config : VehiclePropConfig Rate),
    configs[propId]? = some config →
      ¬config.maxSampleRate < config.minSampleRate

/-- A checked rate is zero where rates are fixed, or between the bounds. -/
theorem checkSampleRate_spec {config : VehiclePropConfig Rate}
    (ordered : ¬config.maxSampleRate < config.minSampleRate)
    (sampleRate : Rate) :
    let checked := checkSampleRate config sampleRate
    if isSampleRateFixed config.changeMode then checked = 0
    else ¬config.maxSampleRate < checked ∧ ¬checked < config.minSampleRate := by
  dsimp only
  rw [checkSampleRate]
  by_cases isFixed : isSampleRateFixed config.changeMode = true
  · rw [if_pos isFixed, if_pos isFixed]
  · rw [if_neg isFixed, if_neg isFixed]
    split
    · exact ⟨lt_irrefl _, ordered⟩
    · next notAbove =>
      split
      · exact ⟨ordered, lt_irrefl _⟩
      · next notBelow => exact ⟨notAbove, notBelow⟩

/-- A rate that has been checked passes the check. -/
theorem checkSampleRate_idem {config : VehiclePropConfig Rate}
    (ordered : ¬config.maxSampleRate < config.minSampleRate)
    (sampleRate : Rate) :
    checkSampleRate config (checkSampleRate config sampleRate) =
      checkSampleRate config sampleRate := by
  have inside := checkSampleRate_spec ordered sampleRate
  dsimp only at inside
  generalize checkSampleRate config sampleRate = checked at inside ⊢
  rw [checkSampleRate]
  by_cases isFixed : isSampleRateFixed config.changeMode = true
  · rw [if_pos isFixed] at inside ⊢
    exact inside.symm
  · rw [if_neg isFixed] at inside ⊢
    rw [if_neg inside.1, if_neg inside.2]

theorem allowed_of_verifyOption {configs : VehiclePropConfigIndex Rate}
    (ordered : Ordered configs) {ops verified : SubscribeOptions Rate}
    (isVerified : verifyOption configs ops = some verified)
    (wantsCar : verified.wantsCar = true) : Allowed configs verified := by
  rw [verifyOption] at isVerified
  rcases Option.bind_eq_some_iff.mp isVerified with
    ⟨config, isConfig, checked⟩
  split at checked
  · cases checked
  · split at checked
    · next subscribable =>
      obtain rfl := Option.some.inj checked
      refine ⟨config, isConfig, ?_⟩
      rw [isSubscribable] at subscribable
      split at subscribable
      · cases subscribable
      · next readable =>
        refine ⟨?_, of_decide_eq_true subscribable,
          checkSampleRate_idem (ordered _ _ isConfig) _⟩
        intro notReadable
        apply readable
        refine ⟨?_, of_decide_eq_true wantsCar⟩
        exact fun isReadable => isReadable notReadable
    · cases checked

/-- Merged options are allowed if both of them are. -/
theorem allowed_ask {configs : VehiclePropConfigIndex Rate}
    {old : Option (SubscribeOptions Rate)} {opts : SubscribeOptions Rate}
    (isAllowed : Allowed configs opts)
    (oldAllowed : ∀ oldOpts, old = some oldOpts →
      oldOpts.propId = opts.propId ∧ Allowed configs oldOpts) :
    Allowed configs (ask old opts) := by
  cases old with
  | none => exact isAllowed
  | some oldOpts =>
      rcases oldAllowed oldOpts rfl with ⟨sameProp, config, isConfig,
        readable, changes, passes⟩
      rcases isAllowed with ⟨newConfig, isNewConfig, -, -, newPasses⟩
      rw [sameProp] at isConfig
      obtain rfl := Option.some.inj (isConfig.symm.trans isNewConfig)
      rw [ask_some]
      refine ⟨config, by rw [sameProp, isConfig], readable, changes, ?_⟩
      dsimp only [maxRate]
      split
      · exact newPasses
      · exact passes

/-- All that is demanded is allowed, and all that was told. -/
structure AllAllowed (configs : VehiclePropConfigIndex Rate)
    (ledger : Ledger Rate) : Prop where
  sound : Sound ledger
  demanded : ∀ propId opts, ledger.demanded propId = some opts →
    Allowed configs opts
  told : ∀ opts, .updated opts ∈ ledger.notices → Allowed configs opts

theorem AllAllowed.want {configs : VehiclePropConfigIndex Rate}
    {ledger : Ledger Rate} (allAllowed : AllAllowed configs ledger)
    {clientId : Nat} (isRegistered : clientId ∈ ledger.registered)
    (opts : SubscribeOptions Rate) :
    AllAllowed configs (ledger.want clientId opts) :=
  ⟨allAllowed.sound.want isRegistered, allAllowed.demanded, allAllowed.told⟩

theorem AllAllowed.demand {configs : VehiclePropConfigIndex Rate}
    {ledger : Ledger Rate} (allAllowed : AllAllowed configs ledger)
    {opts : SubscribeOptions Rate} (isAllowed : Allowed configs opts)
    (isSubscribed : (ledger.subscribers opts.propId).Nonempty) :
    AllAllowed configs (ledger.demand opts) := by
  have askAllowed : Allowed configs (ask (ledger.demanded opts.propId) opts) :=
    allowed_ask isAllowed fun oldOpts isDemanded =>
      ⟨allAllowed.sound.own isDemanded, allAllowed.demanded _ _ isDemanded⟩
  refine ⟨allAllowed.sound.demand isSubscribed, ?_, ?_⟩
  · intro propId known isDemanded
    rw [demanded_demand] at isDemanded
    split at isDemanded
    · rwa [← Option.some.inj isDemanded]
    · exact allAllowed.demanded propId known isDemanded
  · intro known isTold
    rcases List.mem_append.mp isTold with before | isNew
    · exact allAllowed.told known before
    · rcases Option.map_eq_some_iff.mp (Option.mem_toList.mp isNew) with
        ⟨updated, isChanged, same⟩
      obtain rfl := Notice.updated.inj same
      rwa [changed_eq_some isChanged]

theorem AllAllowed.subscribeTo {configs : VehiclePropConfigIndex Rate}
    {ledger : Ledger Rate} (allAllowed : AllAllowed configs ledger)
    {clientId : Nat} (isRegistered : clientId ∈ ledger.registered)
    {opts : SubscribeOptions Rate}
    (isAllowed : opts.wantsCar = true → Allowed configs opts) :
    AllAllowed configs (ledger.subscribeTo clientId opts) := by
  rw [Ledger.subscribeTo]
  split
  · next wantsCar =>
    exact (allAllowed.want isRegistered opts).demand (isAllowed wantsCar)
      ⟨clientId, mem_subscribers_want.mpr (.inl ⟨rfl, rfl⟩)⟩
  · exact allAllowed.want isRegistered opts

theorem allAllowed_subscribeAll {configs : VehiclePropConfigIndex Rate}
    {ledger : Ledger Rate} (allAllowed : AllAllowed configs ledger)
    {clientId : Nat} (isRegistered : clientId ∈ ledger.registered)
    {optionList : List (SubscribeOptions Rate)}
    (areAllowed : ∀ opts ∈ optionList, opts.wantsCar = true →
      Allowed configs opts) :
    AllAllowed configs (optionList.foldl
      (fun ledger opts => ledger.subscribeTo clientId opts) ledger) := by
  induction optionList generalizing ledger with
  | nil => exact allAllowed
  | cons opts optionList inductionHypothesis =>
      rw [List.forall_mem_cons] at areAllowed
      refine inductionHypothesis
        (allAllowed.subscribeTo isRegistered areAllowed.1) ?_ areAllowed.2
      rwa [registered_subscribeTo]

theorem AllAllowed.unsubscribe {configs : VehiclePropConfigIndex Rate}
    {ledger : Ledger Rate} (allAllowed : AllAllowed configs ledger)
    (clientId : Nat) (propId : Int) :
    AllAllowed configs (ledger.unsubscribe clientId propId) := by
  refine ⟨allAllowed.sound.unsubscribe clientId propId, ?_, ?_⟩
  · intro about opts isDemanded
    rw [demanded_unsubscribe] at isDemanded
    split at isDemanded
    · cases isDemanded
    · exact allAllowed.demanded about opts isDemanded
  · intro opts isTold
    rcases notices_unsubscribe with ⟨-, told⟩ | ⟨-, told⟩
    · rw [told] at isTold
      rcases List.mem_append.mp isTold with before | isNew
      · exact allAllowed.told opts before
      · cases List.mem_singleton.mp isNew
    · rw [told] at isTold
      exact allAllowed.told opts isTold

theorem allowed_of_verifyOptions {configs : VehiclePropConfigIndex Rate}
    (ordered : Ordered configs)
    {options verified : List (SubscribeOptions Rate)}
    (areVerified : verifyOptions configs options = some verified) :
    ∀ opts ∈ verified, opts.wantsCar = true → Allowed configs opts := by
  induction options generalizing verified with
  | nil =>
      cases areVerified
      exact List.forall_mem_nil _
  | cons ops options inductionHypothesis =>
      rw [verifyOptions] at areVerified
      rcases Option.bind_eq_some_iff.mp areVerified with
        ⟨first, isFirst, rest⟩
      rcases Option.bind_eq_some_iff.mp rest with ⟨others, areOthers, same⟩
      cases same
      rw [List.forall_mem_cons]
      exact ⟨allowed_of_verifyOption ordered isFirst,
        inductionHypothesis areOthers⟩

/-- A call that has been verified asks for what is allowed only. -/
theorem allAllowed_step {configs : VehiclePropConfigIndex Rate}
    (ordered : Ordered configs) {ledger : Ledger Rate}
    (allAllowed : AllAllowed configs ledger)
    {call request : Request Callback Rate}
    (isVerified : verify configs call = some request) :
    AllAllowed configs (ledger.step request) := by
  cases call with
  | subscribe clientId callback linked address options =>
      rcases Option.map_eq_some_iff.mp isVerified with
        ⟨verified, areVerified, rfl⟩
      rw [Ledger.step, Ledger.subscribe]
      split
      · refine allAllowed_subscribeAll ?_ (Set.mem_insert _ _)
          (allowed_of_verifyOptions ordered areVerified)
        exact ⟨allAllowed.sound.register clientId, allAllowed.demanded,
          allAllowed.told⟩
      · exact allAllowed
  | unsubscribe clientId propId =>
      cases isVerified
      exact allAllowed.unsubscribe clientId propId

theorem allAllowed_run {configs : VehiclePropConfigIndex Rate}
    (ordered : Ordered configs) {ledger : Ledger Rate}
    (allAllowed : AllAllowed configs ledger)
    (calls : List (Request Callback Rate)) :
    AllAllowed configs
      (runFrom Ledger.step ledger (verifiedCalls configs calls)) := by
  induction calls generalizing ledger with
  | nil => exact allAllowed
  | cons call calls inductionHypothesis =>
      rw [verifiedCalls, List.filterMap_cons]
      split
      · exact inductionHypothesis allAllowed
      · next request isVerified =>
        exact inductionHypothesis
          (allAllowed_step ordered allAllowed isVerified)

/--
Whatever clients ask for, the vehicle is asked only for properties that it has,
that can be read and that change, each at a rate that its configuration allows
and that no check would change.
-/
theorem rates_within_bounds {configs : VehiclePropConfigIndex Rate}
    (ordered : Ordered configs) {calls : List (Request Callback Rate)}
    (admitted : Admitted step admits Service.new
      (verifiedCalls configs calls)) :
    let service := runFrom (callStep configs) Service.new calls
    (∀ opts, .updated opts ∈ service.notices → Allowed configs opts) ∧
      ∀ (propId : Int) (opts : SubscribeOptions Rate),
        service.manager.halEventSubscribeOptions[propId]? = some opts →
          Allowed configs opts := by
  have empty : AllAllowed configs (Ledger.empty : Ledger Rate) := by
    refine ⟨sound_empty, ?_, fun _ isTold => absurd isTold List.not_mem_nil⟩
    intro propId opts isDemanded
    cases isDemanded
  have allAllowed := allAllowed_run ordered empty calls
  have same := ledgerOf_run admitted
  rw [ledgerAfter] at same
  rw [← same] at allAllowed
  dsimp only
  rw [runFrom_callStep]
  exact ⟨allAllowed.told, allAllowed.demanded⟩

/-- The speed of the car, which is sampled, and its gear, which is not. -/
def twoConfigs : VehiclePropConfigIndex Nat :=
  VehiclePropConfigIndex.new
    [⟨5, accessRead, changeModeContinuous, 1, 50⟩,
      ⟨6, accessRead, changeModeOnChange, 0, 0⟩]

/-- A rate that is too high, one for a property without rates, and a refusal. -/
def threeCalls : List (Request Unit Nat) :=
  [.subscribe 7 () true 100
      [⟨5, 200, eventsFromCar⟩, ⟨6, 3, eventsFromCar⟩],
    .subscribe 8 () true 200 [⟨5, 1, eventsFromCar⟩, ⟨9, 1, eventsFromCar⟩]]

theorem rates_within_bounds_twoConfigs :
    let service := runFrom (callStep twoConfigs) Service.new threeCalls
    service.notices =
        [.updated ⟨5, 50, eventsFromCar⟩, .updated ⟨6, 0, eventsFromCar⟩] ∧
      ∀ opts, .updated opts ∈ service.notices → Allowed twoConfigs opts := by
  have ordered : Ordered twoConfigs := by
    intro propId config isConfig
    have isOne := TreeMap.mem_toList_iff_getElem?_eq_some.mpr isConfig
    have all : ∀ entry ∈ twoConfigs.toList,
        ¬entry.2.maxSampleRate < entry.2.minSampleRate := by decide
    exact all (propId, config) isOne
  exact ⟨by decide, (rates_within_bounds ordered (by decide)).1⟩

end

end Anbox.Vehicle.VehicleHalManager
