import Anbox.Vehicle.SubscriptionLedger

/-!
# What the subscription ledger keeps

The vehicle has to provide events only for a property that somebody has, and
the notices for the vehicle say what that is.  What a client has asked for is
provided until it is unsubscribed.
-/

namespace Anbox.Vehicle.LedgerInvariants

open Anbox.Foundation.Runs
open Anbox.Vehicle.ClientSubscriptions
open Anbox.Vehicle.SubscriptionLedger

universe u v

variable {Callback : Type u} {Rate : Type v}

/-! ## Reading the notices -/

/-- What is known of a property after one more notice. -/
def heed (propId : Int) (known : Option (SubscribeOptions Rate)) :
    Notice Rate → Option (SubscribeOptions Rate)
  | .updated opts => if opts.propId = propId then some opts else known
  | .unsubscribed lost => if lost = propId then none else known

/-- The last options of a property, unless it was unsubscribed since. -/
def heeded (notices : List (Notice Rate)) (propId : Int) :
    Option (SubscribeOptions Rate) :=
  notices.foldl (heed propId) none

theorem heeded_concat (notices : List (Notice Rate)) (notice : Notice Rate)
    (propId : Int) :
    heeded (notices ++ [notice]) propId =
      heed propId (heeded notices propId) notice := by
  rw [heeded, List.foldl_append]
  rfl

/--
New options for a property that is not unsubscribed ask for all that the last
ones did, and for more.
-/
def Grows [LT Rate] (notices : List (Notice Rate)) : Prop :=
  ∀ earlier opts, earlier ++ [.updated opts] <+: notices →
    ∀ known, heeded earlier opts.propId = some known →
      Serves opts known ∧ opts ≠ known

theorem grows_nil [LT Rate] : Grows ([] : List (Notice Rate)) := by
  intro earlier opts isPrefix
  simp at isPrefix

theorem Grows.unsubscribed [LT Rate] {notices : List (Notice Rate)}
    (grows : Grows notices) (propId : Int) :
    Grows (notices ++ [.unsubscribed propId]) := by
  intro earlier opts isPrefix
  rcases List.prefix_concat_iff.mp isPrefix with same | before
  · cases (List.append_inj' same rfl).2
  · exact grows earlier opts before

theorem Grows.updated [LT Rate] {notices : List (Notice Rate)}
    {opts : SubscribeOptions Rate} (grows : Grows notices)
    (more : ∀ known, heeded notices opts.propId = some known →
      Serves opts known ∧ opts ≠ known) :
    Grows (notices ++ [.updated opts]) := by
  intro earlier later isPrefix
  rcases List.prefix_concat_iff.mp isPrefix with same | before
  · rcases List.append_inj' same rfl with ⟨rfl, isLast⟩
    obtain rfl := Notice.updated.inj (List.cons.inj isLast).1
    exact more
  · exact grows earlier later before

/-! ## The invariant -/

structure Sound [LT Rate] (ledger : Ledger Rate) : Prop where
  registered : ∀ {clientId propId}, clientId ∈ ledger.subscribers propId →
    clientId ∈ ledger.registered
  wanted : ∀ {clientId propId}, clientId ∈ ledger.subscribers propId →
    ∃ opts, ledger.wanted clientId propId = some opts
  provided : ∀ {propId opts}, ledger.demanded propId = some opts →
    (ledger.subscribers propId).Nonempty
  own : ∀ {propId opts}, ledger.demanded propId = some opts →
    opts.propId = propId
  heeded : ∀ propId, heeded ledger.notices propId = ledger.demanded propId
  grows : Grows ledger.notices

theorem sound_empty [LT Rate] : Sound (Ledger.empty : Ledger Rate) where
  registered := fun isSubscribed => False.elim isSubscribed
  wanted := fun isSubscribed => False.elim isSubscribed
  provided := by
    intro propId opts isDemanded
    cases isDemanded
  own := by
    intro propId opts isDemanded
    cases isDemanded
  heeded := fun _ => rfl
  grows := grows_nil

section

variable {ledger : Ledger Rate} {clientId : Nat}
  {opts : SubscribeOptions Rate}

theorem Sound.register [LT Rate] (sound : Sound ledger) (clientId : Nat) :
    Sound (ledger.register clientId) :=
  { sound with
    registered := fun isSubscribed =>
      Set.mem_insert_of_mem _ (sound.registered isSubscribed) }

theorem Sound.unsubscribe [LT Rate] (sound : Sound ledger) (clientId : Nat)
    (propId : Int) : Sound (ledger.unsubscribe clientId propId) where
  registered := by
    intro other about isSubscribed
    have before := (mem_subscribers_unsubscribe.mp isSubscribed).1
    exact mem_registered_unsubscribe.mpr
      ⟨sound.registered before, fun _ => ⟨about, isSubscribed⟩⟩
  wanted := by
    intro other about isSubscribed
    rw [wanted_unsubscribe_of_busy fun _ => ⟨about, isSubscribed⟩]
    exact sound.wanted (mem_subscribers_unsubscribe.mp isSubscribed).1
  provided := by
    intro about opts isDemanded
    rw [demanded_unsubscribe] at isDemanded
    split at isDemanded
    · cases isDemanded
    · next found =>
      by_cases same : about = propId
      · rw [same]
        exact Set.nonempty_iff_ne_empty.mpr fun lost => found ⟨same, lost⟩
      · rcases sound.provided isDemanded with ⟨other, before⟩
        exact ⟨other, mem_subscribers_unsubscribe.mpr
          ⟨before, fun both => same both.1⟩⟩
  own := by
    intro about opts isDemanded
    rw [demanded_unsubscribe] at isDemanded
    split at isDemanded
    · cases isDemanded
    · exact sound.own isDemanded
  heeded := by
    intro about
    rw [demanded_unsubscribe]
    rcases notices_unsubscribe with ⟨lost, told⟩ | ⟨found, told⟩
    · rw [told, heeded_concat, heed, sound.heeded]
      simp only [lost, and_true, eq_comm]
    · rw [told, sound.heeded, if_neg]
      exact fun both => found.ne_empty both.2
  grows := by
    rcases notices_unsubscribe with ⟨-, told⟩ | ⟨-, told⟩
    · rw [told]
      exact sound.grows.unsubscribed propId
    · rw [told]
      exact sound.grows

variable [Preorder Rate] [DecidableLT Rate]

theorem Sound.want (sound : Sound ledger)
    (isRegistered : clientId ∈ ledger.registered) :
    Sound (ledger.want clientId opts) where
  registered := by
    intro other propId isSubscribed
    rcases mem_subscribers_want.mp isSubscribed with ⟨-, rfl⟩ | before
    · exact isRegistered
    · exact sound.registered before
  wanted := by
    intro other propId isSubscribed
    rw [wanted_want]
    split
    · exact ⟨_, rfl⟩
    · next different =>
      rcases mem_subscribers_want.mp isSubscribed with both | before
      · exact absurd both.symm different
      · exact sound.wanted before
  provided := by
    intro propId known isDemanded
    rcases sound.provided isDemanded with ⟨other, before⟩
    exact ⟨other, mem_subscribers_want.mpr (.inr before)⟩
  own := sound.own
  heeded := sound.heeded
  grows := sound.grows

/-- Options that have changed ask for all that the old ones did, and more. -/
theorem changed_grows {known updated : SubscribeOptions Rate}
    (isChanged : changed (some known) opts = some updated) :
    Serves updated known ∧ updated ≠ known := by
  have asked := changed_eq_some isChanged
  refine ⟨asked ▸ (Serves.refl known).ask opts, ?_⟩
  rintro rfl
  simp only [changed, mergeSubscribeOptions] at isChanged
  split at isChanged
  · next more =>
    have same := Option.some.inj isChanged
    rcases more with raised | added
    · have sameRate := congrArg SubscribeOptions.sampleRate same
      exact raised.ne' sameRate
    · exact added (congrArg SubscribeOptions.flags same)
  · cases isChanged

theorem Sound.demand (sound : Sound ledger)
    (isSubscribed : (ledger.subscribers opts.propId).Nonempty) :
    Sound (ledger.demand opts) := by
  have ownAsk : (ask (ledger.demanded opts.propId) opts).propId =
      opts.propId := ask_propId fun _ isDemanded => sound.own isDemanded
  refine ⟨sound.registered, sound.wanted, ?_, ?_, ?_, ?_⟩
  · intro propId known isDemanded
    rw [demanded_demand] at isDemanded
    split at isDemanded
    · next same => exact same ▸ isSubscribed
    · exact sound.provided isDemanded
  · intro propId known isDemanded
    rw [demanded_demand] at isDemanded
    split at isDemanded
    · next same => rw [same, ← Option.some.inj isDemanded, ownAsk]
    · exact sound.own isDemanded
  · intro propId
    rw [demanded_demand, Ledger.demand]
    dsimp only
    cases isChanged : changed (ledger.demanded opts.propId) opts with
    | none =>
        rw [Option.map_none, Option.toList_none, List.append_nil,
          sound.heeded]
        split
        · next same => rw [same, ← changed_eq_none isChanged]
        · rfl
    | some updated =>
        rw [Option.map_some, Option.toList_some, heeded_concat, heed,
          changed_eq_some isChanged, ownAsk, sound.heeded]
        simp only [eq_comm]
  · rw [Ledger.demand]
    dsimp only
    cases isChanged : changed (ledger.demanded opts.propId) opts with
    | none =>
        rw [Option.map_none, Option.toList_none, List.append_nil]
        exact sound.grows
    | some updated =>
        refine sound.grows.updated ?_
        intro known isKnown
        rw [changed_eq_some isChanged, ownAsk, sound.heeded] at isKnown
        rw [isKnown] at isChanged
        exact changed_grows isChanged

theorem Sound.subscribeTo (sound : Sound ledger)
    (isRegistered : clientId ∈ ledger.registered) :
    Sound (ledger.subscribeTo clientId opts) := by
  rw [Ledger.subscribeTo]
  split
  · exact (sound.want isRegistered).demand
      ⟨clientId, mem_subscribers_want.mpr (.inl ⟨rfl, rfl⟩)⟩
  · exact sound.want isRegistered

theorem registered_subscribeTo :
    (ledger.subscribeTo clientId opts).registered = ledger.registered := by
  rw [Ledger.subscribeTo]
  split <;> rfl

theorem sound_subscribeAll (sound : Sound ledger)
    (isRegistered : clientId ∈ ledger.registered)
    (optionList : List (SubscribeOptions Rate)) :
    Sound (optionList.foldl
      (fun ledger opts => ledger.subscribeTo clientId opts) ledger) := by
  induction optionList generalizing ledger with
  | nil => exact sound
  | cons opts optionList inductionHypothesis =>
      refine inductionHypothesis (sound.subscribeTo isRegistered) ?_
      rwa [registered_subscribeTo]

theorem sound_step (sound : Sound ledger) (request : Request Callback Rate) :
    Sound (ledger.step request) := by
  cases request with
  | subscribe clientId callback linked address optionList =>
      rw [Ledger.step, Ledger.subscribe]
      split
      · exact sound_subscribeAll (sound.register clientId)
          (Set.mem_insert _ _) optionList
      · exact sound
  | unsubscribe clientId propId => exact sound.unsubscribe clientId propId

theorem sound_run (sound : Sound ledger)
    (requests : List (Request Callback Rate)) :
    Sound (runFrom Ledger.step ledger requests) :=
  @run_invariant _ _ Ledger.step Sound
    (fun _ request sound => sound_step sound request) _ sound requests

/-! ## What a client has asked for is provided -/

/--
A client has a property, and has asked for at least these options; if events
of the car are needed, the vehicle has to provide them as well.
-/
structure Provided [LT Rate] (ledger : Ledger Rate) (clientId : Nat)
    (opts : SubscribeOptions Rate) (fromCar : Prop) : Prop where
  subscribed : clientId ∈ ledger.subscribers opts.propId
  wanted : ∃ known, ledger.wanted clientId opts.propId = some known ∧
    Serves known opts
  demanded : fromCar →
    ∃ known, ledger.demanded opts.propId = some known ∧ Serves known opts

theorem wanted_subscribeTo :
    (ledger.subscribeTo clientId opts).wanted =
      (ledger.want clientId opts).wanted := by
  rw [Ledger.subscribeTo]
  split <;> rfl

theorem demanded_subscribeTo {propId : Int} :
    (ledger.subscribeTo clientId opts).demanded propId =
      if opts.wantsCar = true ∧ propId = opts.propId then
        some (ask (ledger.demanded opts.propId) opts)
      else ledger.demanded propId := by
  rw [Ledger.subscribeTo]
  split
  · next wantsCar =>
    simp only [demanded_demand, wantsCar, true_and]
    rfl
  · next other =>
    rw [if_neg fun both => other both.1]
    rfl

theorem provided_subscribeTo :
    Provided (ledger.subscribeTo clientId opts) clientId opts
      (opts.wantsCar = true) where
  subscribed := mem_subscribers_subscribeTo.mpr (.inl ⟨rfl, rfl⟩)
  wanted := by
    rw [wanted_subscribeTo, wanted_want, if_pos ⟨rfl, rfl⟩]
    exact ⟨_, rfl, serves_ask _ _⟩
  demanded := by
    intro wantsCar
    rw [demanded_subscribeTo, if_pos ⟨wantsCar, rfl⟩]
    exact ⟨_, rfl, serves_ask _ _⟩

variable {fromCar : Prop}

/-- Another request takes nothing away. -/
theorem Provided.subscribeTo
    (provided : Provided ledger clientId opts fromCar) (other : Nat)
    (later : SubscribeOptions Rate) :
    Provided (ledger.subscribeTo other later) clientId opts fromCar where
  subscribed := mem_subscribers_subscribeTo.mpr (.inr provided.subscribed)
  wanted := by
    rcases provided.wanted with ⟨known, isWanted, serves⟩
    rw [wanted_subscribeTo, wanted_want]
    split
    · next same =>
      rw [← same.1, ← same.2, isWanted]
      exact ⟨_, rfl, serves.ask later⟩
    · exact ⟨known, isWanted, serves⟩
  demanded := by
    intro needed
    rcases provided.demanded needed with ⟨known, isDemanded, serves⟩
    rw [demanded_subscribeTo]
    split
    · next same =>
      rw [← same.2, isDemanded]
      exact ⟨_, rfl, serves.ask later⟩
    · exact ⟨known, isDemanded, serves⟩

theorem Provided.subscribeAll
    (provided : Provided ledger clientId opts fromCar) (other : Nat)
    (optionList : List (SubscribeOptions Rate)) :
    Provided (optionList.foldl
      (fun ledger later => ledger.subscribeTo other later) ledger)
      clientId opts fromCar := by
  induction optionList generalizing ledger with
  | nil => exact provided
  | cons later optionList inductionHypothesis =>
      exact inductionHypothesis (provided.subscribeTo other later)

/-- All that a request asks for is provided after it. -/
theorem provided_subscribeAll {optionList : List (SubscribeOptions Rate)}
    (isAsked : opts ∈ optionList) :
    Provided (optionList.foldl
      (fun ledger later => ledger.subscribeTo clientId later) ledger)
      clientId opts (opts.wantsCar = true) := by
  rcases List.append_of_mem isAsked with ⟨earlier, later, rfl⟩
  rw [List.foldl_append, List.foldl_cons]
  exact provided_subscribeTo.subscribeAll clientId later

omit [DecidableLT Rate] in
theorem Provided.unsubscribe
    (provided : Provided ledger clientId opts fromCar) {other : Nat} {propId : Int}
    (different : ¬(opts.propId = propId ∧ clientId = other)) :
    Provided (ledger.unsubscribe other propId) clientId opts fromCar := by
  have subscribed : clientId ∈
      (ledger.unsubscribe other propId).subscribers opts.propId :=
    mem_subscribers_unsubscribe.mpr ⟨provided.subscribed, different⟩
  refine ⟨subscribed, ?_, ?_⟩
  · rw [wanted_unsubscribe_of_busy fun _ => ⟨_, subscribed⟩]
    exact provided.wanted
  · intro needed
    rw [demanded_unsubscribe, if_neg]
    · exact provided.demanded needed
    · rintro ⟨rfl, lost⟩
      exact Set.notMem_empty clientId (lost ▸ subscribed)

theorem Provided.step (provided : Provided ledger clientId opts fromCar)
    {request : Request Callback Rate}
    (stays : request ≠ .unsubscribe clientId opts.propId) :
    Provided (ledger.step request) clientId opts fromCar := by
  cases request with
  | subscribe other callback linked address optionList =>
      rw [Ledger.step, Ledger.subscribe]
      split
      · have registered :
            Provided (ledger.register other) clientId opts fromCar :=
          ⟨provided.subscribed, provided.wanted, provided.demanded⟩
        exact registered.subscribeAll other optionList
      · exact provided
  | unsubscribe other propId =>
      refine provided.unsubscribe ?_
      rintro ⟨rfl, rfl⟩
      exact stays rfl

/-- It is provided until the client is unsubscribed. -/
theorem Provided.run (provided : Provided ledger clientId opts fromCar)
    {requests : List (Request Callback Rate)}
    (stays : .unsubscribe clientId opts.propId ∉ requests) :
    Provided (runFrom Ledger.step ledger requests) clientId opts fromCar := by
  induction requests generalizing ledger with
  | nil => exact provided
  | cons request requests inductionHypothesis =>
      rw [List.mem_cons, not_or] at stays
      exact inductionHypothesis
        (provided.step (Ne.symm stays.1)) stays.2

/-! ## A client that is unsubscribed from all its properties -/

/-- A client asks for properties. -/
def Subscribes (clientId : Nat) : Request Callback Rate → Prop
  | .subscribe other _ _ _ _ => other = clientId
  | .unsubscribe _ _ => False

/-- Who has a property after a client asked for some. -/
theorem mem_subscribers_subscribeAll {other : Nat}
    (optionList : List (SubscribeOptions Rate)) {propId : Int} :
    clientId ∈ (optionList.foldl
        (fun ledger opts => ledger.subscribeTo other opts)
          ledger).subscribers propId ↔
      (clientId = other ∧ ∃ opts ∈ optionList, propId = opts.propId) ∨
        clientId ∈ ledger.subscribers propId := by
  induction optionList generalizing ledger with
  | nil => simp
  | cons opts optionList inductionHypothesis =>
      rw [List.foldl_cons, inductionHypothesis, mem_subscribers_subscribeTo]
      simp only [List.mem_cons, exists_eq_or_imp]
      rw [and_or_left, ← or_assoc, @and_comm (propId = opts.propId)]
      exact or_congr_left or_comm

theorem registered_subscribeAll
    (optionList : List (SubscribeOptions Rate)) :
    (optionList.foldl
        (fun ledger opts => ledger.subscribeTo clientId opts)
          ledger).registered = ledger.registered := by
  induction optionList generalizing ledger with
  | nil => rfl
  | cons opts optionList inductionHypothesis =>
      rw [List.foldl_cons, inductionHypothesis, registered_subscribeTo]

/-- A client that does not ask has a property until it is unsubscribed. -/
theorem mem_subscribers_step {request : Request Callback Rate} {propId : Int}
    (silent : ¬Subscribes clientId request) :
    clientId ∈ (ledger.step request).subscribers propId ↔
      clientId ∈ ledger.subscribers propId ∧
        request ≠ .unsubscribe clientId propId := by
  cases request with
  | subscribe other callback linked address optionList =>
      have different : clientId ≠ other := Ne.symm silent
      rw [Ledger.step, Ledger.subscribe]
      split
      · rw [mem_subscribers_subscribeAll,
          or_iff_right fun both => different both.1]
        exact (and_iff_left (by intro same; cases same)).symm
      · exact (and_iff_left (by intro same; cases same)).symm
  | unsubscribe other about =>
      rw [Ledger.step, mem_subscribers_unsubscribe]
      refine and_congr_right fun _ => not_congr ?_
      constructor
      · rintro ⟨rfl, rfl⟩
        rfl
      · intro same
        cases same
        exact ⟨rfl, rfl⟩

theorem mem_subscribers_run {requests : List (Request Callback Rate)}
    {propId : Int}
    (silent : ∀ request ∈ requests, ¬Subscribes clientId request) :
    clientId ∈ (runFrom Ledger.step ledger requests).subscribers propId ↔
      clientId ∈ ledger.subscribers propId ∧
        .unsubscribe clientId propId ∉ requests := by
  induction requests generalizing ledger with
  | nil => exact (and_iff_left List.not_mem_nil).symm
  | cons request requests inductionHypothesis =>
      rw [List.forall_mem_cons] at silent
      rw [runFrom_cons, inductionHypothesis silent.2,
        mem_subscribers_step silent.1, and_assoc, List.mem_cons, not_or,
        ne_comm]

/-- Whatever is asked for, a client has a property until it is unsubscribed. -/
theorem mem_subscribers_stays {requests : List (Request Callback Rate)}
    {propId : Int} (isSubscribed : clientId ∈ ledger.subscribers propId)
    (stays : .unsubscribe clientId propId ∉ requests) :
    clientId ∈ (runFrom Ledger.step ledger requests).subscribers propId := by
  induction requests generalizing ledger with
  | nil => exact isSubscribed
  | cons request requests inductionHypothesis =>
      rw [List.mem_cons, not_or] at stays
      refine inductionHypothesis ?_ stays.2
      cases request with
      | subscribe other callback linked address optionList =>
          rw [Ledger.step, Ledger.subscribe]
          split
          · exact (mem_subscribers_subscribeAll _).mpr (.inr isSubscribed)
          · exact isSubscribed
      | unsubscribe other about =>
          refine mem_subscribers_unsubscribe.mpr ⟨isSubscribed, ?_⟩
          rintro ⟨rfl, rfl⟩
          exact stays.1 rfl

/-- A client without properties is not registered. -/
def Dropped (clientId : Nat) (ledger : Ledger Rate) : Prop :=
  clientId ∈ ledger.registered →
    ∃ propId, clientId ∈ ledger.subscribers propId

omit [Preorder Rate] [DecidableLT Rate] in
theorem dropped_unsubscribe (propId : Int) :
    Dropped clientId (ledger.unsubscribe clientId propId) := by
  intro isRegistered
  exact (mem_registered_unsubscribe.mp isRegistered).2 rfl

theorem dropped_step (dropped : Dropped clientId ledger)
    {request : Request Callback Rate}
    (silent : ¬Subscribes clientId request) :
    Dropped clientId (ledger.step request) := by
  cases request with
  | subscribe other callback linked address optionList =>
      have different : clientId ≠ other := Ne.symm silent
      rw [Ledger.step, Ledger.subscribe]
      split
      · intro isRegistered
        rw [registered_subscribeAll] at isRegistered
        rcases isRegistered with same | before
        · exact absurd same different
        · rcases dropped before with ⟨propId, isSubscribed⟩
          exact ⟨propId,
            (mem_subscribers_subscribeAll _).mpr (.inr isSubscribed)⟩
      · exact dropped
  | unsubscribe other propId =>
      intro isRegistered
      rcases mem_registered_unsubscribe.mp isRegistered with ⟨before, busy⟩
      by_cases same : clientId = other
      · exact busy same
      · rcases dropped before with ⟨about, isSubscribed⟩
        exact ⟨about, mem_subscribers_unsubscribe.mpr
          ⟨isSubscribed, fun both => same both.2⟩⟩

theorem dropped_run (dropped : Dropped clientId ledger)
    {requests : List (Request Callback Rate)}
    (silent : ∀ request ∈ requests, ¬Subscribes clientId request) :
    Dropped clientId (runFrom Ledger.step ledger requests) := by
  induction requests generalizing ledger with
  | nil => exact dropped
  | cons request requests inductionHypothesis =>
      rw [List.forall_mem_cons] at silent
      exact inductionHypothesis (dropped_step dropped silent.1) silent.2

/-- A client that was unsubscribed and asks no more may be dropped. -/
theorem dropped_of_mem (ledger : Ledger Rate)
    {requests : List (Request Callback Rate)}
    (silent : ∀ request ∈ requests, ¬Subscribes clientId request)
    {propId : Int} (isTaken : .unsubscribe clientId propId ∈ requests) :
    Dropped clientId (runFrom Ledger.step ledger requests) := by
  rcases List.append_of_mem isTaken with ⟨earlier, later, rfl⟩
  rw [runFrom_append, runFrom_cons]
  exact dropped_run (dropped_unsubscribe propId) fun request member =>
    silent request
      (List.mem_append_right _ (List.mem_cons_of_mem _ member))

end

end Anbox.Vehicle.LedgerInvariants
