import Mathlib.Data.List.Nodup
import Anbox.Vis.VisClient

/-!
# Text frames that the VIS client survives

`handleMessage` runs inside the hub, which catches nothing.  A frame that makes
it throw or abort ends the process: the root of the document, the member
`action`, the identifiers that the handler of the action reads and the observer
of a subscription can each do so.  This module determines the frames that are
survived, and shows that a survived frame changes nothing unless it has all
fields its handler requires.
-/

namespace Anbox.Vis.FrameSurvival

open Anbox.Foundation.Fallible
open Anbox.Vis.Messages
open Anbox.Vis.VisClient

/-! ## Calling the observers -/

/-- What an observer that a caller has registered does with a notification. -/
abbrev CommandHandler := Ticket → CommandResult → Except Fault Unit

/-- Call the observers that are notified, in turn. -/
def callObservers (handler : CommandHandler) :
    List Effect → Except Fault Unit
  | [] => .ok ()
  | .notified observer result :: effects => do
      handler observer result
      callObservers handler effects
  | _ :: effects => callObservers handler effects

/--
`handleMessage` for a text frame that was parsed to this value.  The observer
of a subscription is called at the end of its handler, so what it throws leaves
`handleMessage` as well.
-/
def handleMessageCalling (handler : CommandHandler) (client : Client)
    (value : Json) : Except Fault (Client × List Effect) := do
  let (next, effects) ← handleMessage client (.text (some value))
  callObservers handler effects
  return (next, effects)

/-- Effects without a notification. -/
def Quiet (effects : List Effect) : Prop :=
  ∀ observer result, Effect.notified observer result ∉ effects

theorem callObservers_of_quiet (handler : CommandHandler) :
    ∀ effects, Quiet effects → callObservers handler effects = .ok () := by
  intro effects quiet
  induction effects with
  | nil => rfl
  | cons effect effects inductionHypothesis =>
      have quietRest : Quiet effects := fun observer result member =>
        quiet observer result (List.mem_cons_of_mem effect member)
      cases effect with
      | notified observer result =>
          exact absurd List.mem_cons_self (quiet observer result)
      | _ => exact inductionHypothesis quietRest

/-! ## Flattening the root -/

/-- A value that is neither null nor a container. -/
def IsScalar : Json → Prop
  | .boolean _ | .number _ | .string _ => True
  | .null | .array _ | .object _ => False

theorem not_isScalar_of_isObject {value : Json}
    (container : value.isObject = true) : ¬ IsScalar value := by
  cases value with
  | object members => exact id
  | _ => cases container

theorem not_isScalar_of_container {value : Json}
    (container : (value.isObject || value.isArray) = true) :
    ¬ IsScalar value := by
  cases value with
  | object members => exact id
  | array elements => exact id
  | _ => cases container

mutual

/-- Only a scalar root aborts: the calls below the root are for containers. -/
theorem parseJsonToStrings_returns (rootKey : String)
    (result : CommandResult) :
    (value : Json) → ¬ IsScalar value →
      ∃ parsed, parseJsonToStrings rootKey result value = .ok parsed
  | .null, _ => ⟨_, rfl⟩
  | .object members, _ => parseMembers_returns result members
  | .array elements, _ => by
      rcases parseElements_returns rootKey result elements with
        ⟨parsed, flattened⟩
      simp [parseJsonToStrings, flattened, bind, Except.bind, pure,
        Except.pure]
  | .boolean _, container => absurd trivial container
  | .number _, container => absurd trivial container
  | .string _, container => absurd trivial container
termination_by structural value => value

theorem parseMembers_returns (result : CommandResult) :
    (members : List (String × Json)) →
      ∃ parsed, parseMembers result members = .ok parsed
  | [] => ⟨result, rfl⟩
  | (name, value) :: members => by
      unfold parseMembers
      split
      · rename_i container
        rcases parseJsonToStrings_returns name result value
            (not_isScalar_of_container container) with ⟨parsed, flattened⟩
        rw [flattened]
        exact parseMembers_returns (parsed.insert name value) members
      · exact parseMembers_returns (result.insert name value) members
termination_by structural members => members

theorem parseElements_returns (rootKey : String) (result : CommandResult) :
    (elements : List Json) →
      ∃ parsed, parseElements rootKey result elements = .ok parsed
  | [] => ⟨result, rfl⟩
  | element :: elements => by
      unfold parseElements
      split
      · rename_i container
        rcases parseJsonToStrings_returns rootKey result element
            (not_isScalar_of_isObject container) with ⟨parsed, flattened⟩
        rw [flattened]
        exact parseElements_returns rootKey parsed elements
      · exact parseElements_returns rootKey result elements
termination_by structural elements => elements

end

theorem parseJsonToStrings_returns_iff (rootKey : String)
    (result : CommandResult) (value : Json) :
    (∃ parsed, parseJsonToStrings rootKey result value = .ok parsed) ↔
      ¬ IsScalar value := by
  constructor
  · rintro ⟨parsed, flattened⟩ scalar
    cases value with
    | boolean value => simp [parseJsonToStrings] at flattened
    | number text => simp [parseJsonToStrings] at flattened
    | string text => simp [parseJsonToStrings] at flattened
    | null => exact scalar
    | array elements => exact scalar
    | object members => exact scalar
  · exact parseJsonToStrings_returns rootKey result value

/-! ## Reading an identifier -/

/-- A field that `std::stoi` accepts if it is there. -/
def Legible (result : CommandResult) (tag : String) : Prop :=
  ∀ value, result[tag]? = some value →
    ∃ text id, value = .string text ∧ stoi (cString text) = .ok id

theorem findId_of_missing {result : CommandResult} {tag : String}
    (missing : result[tag]? = none) : findId result tag = .ok none := by
  simp only [findId, missing]

theorem findId_of_string {result : CommandResult} {tag text : String}
    (found : result[tag]? = some (.string text)) :
    findId result tag = (stoi (cString text)).map some := by
  simp only [findId, found, asCString]
  rfl

theorem findId_returns_iff (result : CommandResult) (tag : String) :
    (∃ id?, findId result tag = .ok id?) ↔ Legible result tag := by
  cases found : result[tag]? with
  | none =>
      refine iff_of_true ⟨none, findId_of_missing found⟩ ?_
      intro value present
      rw [found] at present
      cases present
  | some value =>
      unfold Legible
      rw [found]
      constructor
      · rintro ⟨id?, returned⟩ other ⟨⟩
        simp only [findId, found] at returned
        rcases ok_of_bind returned with ⟨characters, read, continued⟩
        rcases ok_of_bind continued with ⟨id, accepted, -⟩
        cases value with
        | string text =>
            cases read
            exact ⟨text, id, rfl, accepted⟩
        | _ => cases read
      · intro legible
        rcases legible value rfl with ⟨text, id, rfl, accepted⟩
        refine ⟨some id, ?_⟩
        rw [findId_of_string found, accepted]
        rfl

/-- What is read is an identifier exactly if the field is there. -/
theorem isSome_of_findId {result : CommandResult} {tag : String}
    (id? : Option Int) (read : findId result tag = .ok id?) :
    id?.isSome = result.contains tag := by
  rw [Std.TreeMap.contains_eq_isSome_getElem?]
  cases found : result[tag]? with
  | none =>
      rw [findId_of_missing found] at read
      cases read
      rfl
  | some value =>
      simp only [findId, found] at read
      rcases ok_of_bind read with ⟨characters, -, continued⟩
      rcases ok_of_bind continued with ⟨id, -, returned⟩
      cases returned
      rfl

/-! ## Fields of a response -/

/--
The fields a handler requires of the response to an action.  A failed `get`,
`set` or `subscribe` is settled before the fields of its success are looked
for.
-/
def requiredFields (failed : Bool) : List (String × List String) :=
  [(kActionGetTag,
      kRequestIdTag :: if failed then [] else [kValueTag, kTimestampTag]),
    (kActionSetTag,
      kRequestIdTag :: if failed then [] else [kTimestampTag]),
    (kActionSubscribeTag,
      kRequestIdTag ::
        if failed then [] else [kSubscriptionIdTag, kTimestampTag]),
    (kActionUnsubscribeTag,
      [kRequestIdTag, kSubscriptionIdTag, kTimestampTag]),
    (kActionUnsubscribeAllTag, [kRequestIdTag, kTimestampTag]),
    (kActionSubscriptionTag,
      [kSubscriptionIdTag, kValueTag, kTimestampTag])]

/-- The response has an action and all fields that the action requires. -/
def Complete (result : CommandResult) : Prop :=
  ∃ entry ∈ requiredFields (result.contains kErrorTag),
    HasAction result entry.1 ∧
      ∀ tag ∈ entry.2, result.contains tag = true

/--
The response has an action, and the identifiers that its handler comes to read
are strings with a number.
-/
structure Readable (result : CommandResult) : Prop where
  action :
    ∃ value,
      result[kActionTag]? = some value ∧
        value.isArray = false ∧ value.isObject = false
  request :
    (HasAction result kActionGetTag ∨ HasAction result kActionSetTag ∨
        HasAction result kActionSubscribeTag ∨
        HasAction result kActionUnsubscribeTag ∨
        HasAction result kActionUnsubscribeAllTag) →
      Legible result kRequestIdTag
  subscription :
    (HasAction result kActionSubscriptionTag ∨
        HasAction result kActionUnsubscribeTag ∧
          result.contains kRequestIdTag = true ∨
        HasAction result kActionSubscribeTag ∧
          result.contains kRequestIdTag = true ∧
          result.contains kErrorTag = false) →
      Legible result kSubscriptionIdTag

/-- The observer that a response is passed to. -/
def Notifies (client : Client) (result : CommandResult)
    (observer : Ticket) : Prop :=
  HasAction result kActionSubscriptionTag ∧
    result.contains kValueTag = true ∧
    result.contains kTimestampTag = true ∧
    ∃ subscriptionId request,
      findId result kSubscriptionIdTag = .ok (some subscriptionId) ∧
        client.observers[subscriptionId]? = some request ∧
        request.handler = observer

theorem asString_returns_iff (value : Json) :
    (∃ text, asString value = .ok text) ↔
      value.isArray = false ∧ value.isObject = false := by
  cases value with
  | array elements => simp [asString, Json.isArray]
  | object members => simp [asString, Json.isObject]
  | _ => simp [asString, Json.isArray, Json.isObject]

theorem cString_of_hasAction {result : CommandResult} {value : Json}
    {text action : String} (found : result[kActionTag]? = some value)
    (read : asString value = .ok text) (named : HasAction result action) :
    cString text = action.toList := by
  rcases named with ⟨value', text', found', read', equal⟩
  rw [found, Option.some.injEq] at found'
  rw [← found', read, Except.ok.injEq] at read'
  rw [read']
  exact equal

/-- The action of a response is unique. -/
theorem hasAction_iff {result : CommandResult} {action : String}
    (named : HasAction result action) (other : String) :
    HasAction result other ↔ other = action := by
  rcases named with ⟨value, text, found, read, equal⟩
  constructor
  · intro also
    have same := cString_of_hasAction found read also
    exact String.toList_inj.mp (same.symm.trans equal)
  · rintro rfl
    exact ⟨value, text, found, read, equal⟩

theorem readable_iff {result : CommandResult} {action : String}
    (named : HasAction result action) :
    Readable result ↔
      ((kActionGetTag = action ∨ kActionSetTag = action ∨
          kActionSubscribeTag = action ∨ kActionUnsubscribeTag = action ∨
          kActionUnsubscribeAllTag = action) →
        Legible result kRequestIdTag) ∧
      ((kActionSubscriptionTag = action ∨
          kActionUnsubscribeTag = action ∧
            result.contains kRequestIdTag = true ∨
          kActionSubscribeTag = action ∧
            result.contains kRequestIdTag = true ∧
            result.contains kErrorTag = false) →
        Legible result kSubscriptionIdTag) := by
  have given :
      ∃ value,
        result[kActionTag]? = some value ∧
          value.isArray = false ∧ value.isObject = false := by
    rcases named with ⟨value, text, found, read, -⟩
    exact ⟨value, found, (asString_returns_iff value).mp ⟨text, read⟩⟩
  constructor
  · intro readable
    have request := readable.request
    have subscription := readable.subscription
    simp only [hasAction_iff named] at request subscription
    exact ⟨request, subscription⟩
  · rintro ⟨request, subscription⟩
    refine ⟨given, ?_, ?_⟩
    · simpa only [hasAction_iff named] using request
    · simpa only [hasAction_iff named] using subscription

theorem requiredFields_nodup (failed : Bool) :
    ((requiredFields failed).map Prod.fst).Nodup := by
  cases failed with
  | false => decide
  | true => decide

theorem complete_iff {result : CommandResult} {action : String}
    {fields : List String} (named : HasAction result action)
    (listed :
      (action, fields) ∈ requiredFields (result.contains kErrorTag)) :
    Complete result ↔ ∀ tag ∈ fields, result.contains tag = true := by
  constructor
  · rintro ⟨entry, member, also, present⟩
    have same : entry = (action, fields) :=
      List.inj_on_of_nodup_map (requiredFields_nodup _) member listed
        ((hasAction_iff named entry.1).mp also)
    rw [same] at present
    exact present
  · intro present
    exact ⟨(action, fields), listed, named, present⟩

theorem forall_mem_cons_unless {failed : Bool} {tag : String}
    {fields : List String} {Present : String → Prop} :
    (∀ field ∈ tag :: (if failed then [] else fields), Present field) ↔
      Present tag ∧ (failed = true ∨ ∀ field ∈ fields, Present field) := by
  cases failed with
  | false => simp
  | true => simp

/-! ## What a handler survives -/

theorem quiet_nil : Quiet [] := fun _ _ => List.not_mem_nil

theorem setValue_quiet (client : Client) (requestId : Int)
    (result : WMessageResult) : Quiet (setValue client requestId result).2 := by
  intro observer response
  unfold setValue
  split
  · exact quiet_nil observer response
  · simp

section

variable (client : Client) (result : CommandResult)

-- each of these follows the statements of its handler, and the last two
-- steps compare what they ask for with the fields of the action

theorem handleVisResponceGet_survives
    (named : HasAction result kActionGetTag) :
    Survives Quiet client (Readable result) (Complete result)
      (handleVisResponceGet client result) := by
  refine Survives.congr
    (Survives.read isSome_of_findId rfl quiet_nil fun requestId =>
      Survives.orFailure (result.contains kErrorTag) (setValue_quiet _ _ _)
        (Survives.required (result.contains kValueTag) quiet_nil
          (Survives.required (result.contains kTimestampTag) quiet_nil
            (Survives.answered (setValue_quiet _ _ _))))) ?_ ?_
  · rw [readable_iff named]
    simp +decide [findId_returns_iff]
  · rw [complete_iff named (.head _), forall_mem_cons_unless]
    simp

theorem handleVisResponceSet_survives
    (named : HasAction result kActionSetTag) :
    Survives Quiet client (Readable result) (Complete result)
      (handleVisResponceSet client result) := by
  refine Survives.congr
    (Survives.read isSome_of_findId rfl quiet_nil fun requestId =>
      Survives.orFailure (result.contains kErrorTag) (setValue_quiet _ _ _)
        (Survives.required (result.contains kTimestampTag) quiet_nil
          (Survives.answered (setValue_quiet _ _ _)))) ?_ ?_
  · rw [readable_iff named]
    simp +decide [findId_returns_iff]
  · rw [complete_iff named (.tail _ (.head _)), forall_mem_cons_unless]
    simp

theorem handleVisResponceSubscribe_survives
    (named : HasAction result kActionSubscribeTag) :
    Survives Quiet client (Readable result) (Complete result)
      (handleVisResponceSubscribe client result) := by
  refine Survives.congr
    (Survives.read isSome_of_findId rfl quiet_nil fun requestId =>
      Survives.orFailure (result.contains kErrorTag) (setValue_quiet _ _ _)
        (Survives.read isSome_of_findId rfl quiet_nil fun subscriptionId =>
          Survives.required (result.contains kTimestampTag) quiet_nil
            (?settled : Survives Quiet client True True _))) ?_ ?_
  case settled =>
    split
    · exact Survives.answered (setValue_quiet _ _ _)
    · split
      · exact Survives.answered quiet_nil
      · exact Survives.answered fun _ _ => by simp
  · rw [readable_iff named]
    simp +decide [findId_returns_iff]
  · rw [complete_iff named (.tail _ (.tail _ (.head _))),
      forall_mem_cons_unless]
    simp

theorem handleVisResponceUnsubscribe_survives
    (named : HasAction result kActionUnsubscribeTag) :
    Survives Quiet client (Readable result) (Complete result)
      (handleVisResponceUnsubscribe client result) := by
  refine Survives.congr
    (Survives.read isSome_of_findId rfl quiet_nil fun requestId =>
      Survives.read isSome_of_findId rfl quiet_nil fun subscriptionId =>
        Survives.required (result.contains kTimestampTag) quiet_nil
          (Survives.orFailure (result.contains kErrorTag) (setValue_quiet _ _ _)
            (?settled : Survives Quiet client True True _))) ?_ ?_
  case settled =>
    split
    · exact Survives.answered quiet_nil
    · exact Survives.answered fun _ _ => by simp
  · rw [readable_iff named]
    simp +decide [findId_returns_iff]
  · rw [complete_iff named (.tail _ (.tail _ (.tail _ (.head _))))]
    simp

theorem handleVisResponceUnsubscribeAll_survives
    (named : HasAction result kActionUnsubscribeAllTag) :
    Survives Quiet client (Readable result) (Complete result)
      (handleVisResponceUnsubscribeAll client result) := by
  refine Survives.congr
    (Survives.read isSome_of_findId rfl quiet_nil fun requestId =>
      Survives.required (result.contains kTimestampTag) quiet_nil
        (Survives.orFailure (result.contains kErrorTag) (setValue_quiet _ _ _)
          (?settled : Survives Quiet client True True _))) ?_ ?_
  case settled =>
    split
    · exact Survives.answered quiet_nil
    · exact Survives.answered fun _ _ => by simp
  · rw [readable_iff named]
    simp +decide [findId_returns_iff]
  · rw [complete_iff named (.tail _ (.tail _ (.tail _ (.tail _ (.head _)))))]
    simp

/-- A notification leaves the client alone and goes to its observer. -/
theorem handleVisResponceSubscription_calls {id? : Option Int}
    (named : HasAction result kActionSubscriptionTag)
    (found : findId result kSubscriptionIdTag = .ok id?) :
    ∃ effects,
      handleVisResponceSubscription client result = .ok (client, effects) ∧
        ∀ handler, callObservers handler effects = .ok () ↔
          ∀ observer, Notifies client result observer →
            handler observer result = .ok () := by
  simp only [handleVisResponceSubscription, Notifies, found, named]
  cases id? with
  | none => exact ⟨[], rfl, by simp [callObservers]⟩
  | some subscriptionId =>
      cases valued : result.contains kValueTag with
      | false => exact ⟨[], rfl, by simp [callObservers]⟩
      | true =>
          cases timed : result.contains kTimestampTag with
          | false => exact ⟨[], rfl, by simp [callObservers]⟩
          | true =>
              cases observing : client.observers[subscriptionId]? with
              | none =>
                  refine ⟨[], ?_, by simp [callObservers, observing]⟩
                  simp [bind, Except.bind, pure, Except.pure, observing]
              | some request =>
                  refine ⟨[.notified request.handler result], ?_, ?_⟩
                  · simp [bind, Except.bind, pure, Except.pure, observing]
                  · intro handler
                    simp only [callObservers, bind, Except.bind]
                    cases answered : handler request.handler result with
                    | error fault => simp [observing, answered]
                    | ok answer => simp [observing, answered]

/-- The same of a notification for which the handler has returned. -/
theorem calls_of_handleVisResponceSubscription {next : Client}
    {effects : List Effect}
    (named : HasAction result kActionSubscriptionTag)
    (returned :
      handleVisResponceSubscription client result = .ok (next, effects)) :
    next = client ∧
      (∃ id?, findId result kSubscriptionIdTag = .ok id?) ∧
      ∀ handler, callObservers handler effects = .ok () ↔
        ∀ observer, Notifies client result observer →
          handler observer result = .ok () := by
  rcases ok_of_bind returned with ⟨id?, found, -⟩
  rcases handleVisResponceSubscription_calls client result named found with
    ⟨effects', returned', calls⟩
  rw [returned] at returned'
  cases returned'
  exact ⟨rfl, ⟨id?, found⟩, calls⟩

/-! ## What a response survives -/

theorem handleVisResponce_of_subscription
    (named : HasAction result kActionSubscriptionTag) :
    handleVisResponce client result =
      handleVisResponceSubscription client result := by
  rcases named with ⟨value, text, found, read, equal⟩
  simp only [handleVisResponce, found, read, bind, Except.bind, equal]
  rfl

/-- Without one of the actions the response is ignored. -/
theorem ignored_survives
    (given :
      ∃ value,
        result[kActionTag]? = some value ∧
          value.isArray = false ∧ value.isObject = false)
    (unknown : ∀ failed, ∀ entry ∈ requiredFields failed,
      ¬ HasAction result entry.1) :
    Survives Quiet client (Readable result) (Complete result)
      (.ok (client, []) : Except Fault (Client × List Effect)) := by
  have notNamed := unknown false
  simp only [requiredFields, List.forall_mem_cons] at notNamed
  rcases notNamed with
    ⟨get, set, subscribe, unsubscribe, unsubscribeAll, subscription, -⟩
  refine (Survives.ignored quiet_nil).congr (iff_of_true trivial ⟨given, ?_, ?_⟩)
    (iff_of_false id ?_)
  · simp [get, set, subscribe, unsubscribe, unsubscribeAll]
  · simp [subscription, subscribe, unsubscribe]
  · rintro ⟨entry, member, named, -⟩
    exact unknown _ entry member named

/-- Without an action that can be read as a text, an exception is thrown. -/
theorem handleVisResponce_throws
    (missing :
      ¬ ∃ value,
        result[kActionTag]? = some value ∧
          value.isArray = false ∧ value.isObject = false) :
    ∃ fault, handleVisResponce client result = .error fault := by
  unfold handleVisResponce
  split
  · exact ⟨.exception, rfl⟩
  · rename_i value found
    cases read : asString value with
    | error fault => exact ⟨fault, rfl⟩
    | ok text =>
        exact absurd
          ⟨value, found, (asString_returns_iff value).mp ⟨text, read⟩⟩ missing

/-- Responses other than notifications go to a handler without observers. -/
theorem handleVisResponce_survives
    (notNotified : ¬ HasAction result kActionSubscriptionTag) :
    Survives Quiet client (Readable result) (Complete result)
      (handleVisResponce client result) := by
  by_cases given :
    ∃ value,
      result[kActionTag]? = some value ∧
        value.isArray = false ∧ value.isObject = false
  · rcases given with ⟨value, found, notContainer⟩
    rcases (asString_returns_iff value).mpr notContainer with ⟨text, read⟩
    have named {action : String} (equal : cString text = action.toList) :
        HasAction result action :=
      ⟨value, text, found, read, equal⟩
    simp only [handleVisResponce, found, read, bind, Except.bind]
    split
    · rename_i get
      exact handleVisResponceGet_survives client result (named get)
    rename_i notGet
    split
    · rename_i subscribe
      exact handleVisResponceSubscribe_survives client result
        (named subscribe)
    rename_i notSubscribe
    split
    · rename_i subscription
      exact absurd (named subscription) notNotified
    rename_i notSubscription
    split
    · rename_i unsubscribe
      exact handleVisResponceUnsubscribe_survives client result
        (named unsubscribe)
    rename_i notUnsubscribe
    split
    · rename_i unsubscribeAll
      exact handleVisResponceUnsubscribeAll_survives client result
        (named unsubscribeAll)
    rename_i notUnsubscribeAll
    split
    · rename_i set
      exact handleVisResponceSet_survives client result (named set)
    rename_i notSet
    refine ignored_survives client result ⟨value, found, notContainer⟩ ?_
    intro failed entry member also
    have equal := cString_of_hasAction found read also
    simp only [requiredFields, List.mem_cons, List.not_mem_nil,
      or_false] at member
    rcases member with rfl | rfl | rfl | rfl | rfl | rfl
    · exact notGet equal
    · exact notSet equal
    · exact notSubscribe equal
    · exact notUnsubscribe equal
    · exact notUnsubscribeAll equal
    · exact notSubscription equal
  · rcases handleVisResponce_throws client result given with ⟨fault, thrown⟩
    rw [thrown]
    exact (Survives.failed fault).congr
      (iff_of_false id fun readable => given readable.action) Iff.rfl

/-- A response is survived together with the observer it is passed to. -/
theorem handleVisResponce_survived_iff (handler : CommandHandler) :
    (∃ next effects,
      handleVisResponce client result = .ok (next, effects) ∧
        callObservers handler effects = .ok ()) ↔
      Readable result ∧
        ∀ observer, Notifies client result observer →
          handler observer result = .ok () := by
  by_cases named : HasAction result kActionSubscriptionTag
  · have legible :
        Readable result ↔ Legible result kSubscriptionIdTag := by
      rw [readable_iff named]
      simp +decide
    rw [handleVisResponce_of_subscription client result named, legible,
      ← findId_returns_iff]
    constructor
    · rintro ⟨next, effects, returned, called⟩
      rcases calls_of_handleVisResponceSubscription client result named
          returned with ⟨-, found, calls⟩
      exact ⟨found, (calls handler).mp called⟩
    · rintro ⟨⟨id?, found⟩, accepted⟩
      rcases handleVisResponceSubscription_calls client result named found with
        ⟨effects, returned, calls⟩
      exact ⟨client, effects, returned, (calls handler).mpr accepted⟩
  · have survives := handleVisResponce_survives client result named
    constructor
    · rintro ⟨next, effects, returned, -⟩
      exact ⟨survives.returns.mp ⟨_, returned⟩,
        fun observer notifies => absurd notifies.1 named⟩
    · rintro ⟨readable, -⟩
      rcases survives.returns.mpr readable with ⟨⟨next, effects⟩, returned⟩
      exact ⟨next, effects, returned,
        callObservers_of_quiet handler effects (survives.quiet returned)⟩

theorem handleVisResponce_unchanged {next : Client} {effects : List Effect}
    (returned : handleVisResponce client result = .ok (next, effects))
    (incomplete : ¬ Complete result) : next = client := by
  by_cases named : HasAction result kActionSubscriptionTag
  · rw [handleVisResponce_of_subscription client result named] at returned
    exact (calls_of_handleVisResponceSubscription client result named
      returned).1
  · exact (handleVisResponce_survives client result named).unchanged returned
      incomplete

end

/-! ## Text frames -/

/--
A text frame is survived, and leaves the promises and the observers alone if a
required field is missing, exactly when its root is no scalar, its action and
the identifiers its handler reads are legible, and the observer it is passed to
takes it.
-/
theorem frame_survived_iff_readable (handler : CommandHandler)
    (client : Client) (value : Json) :
    (∃ next effects,
      handleMessageCalling handler client value = .ok (next, effects) ∧
        ∀ result, parseJsonToStrings kAllTag ∅ value = .ok result →
          ¬ Complete result →
            next.promised = client.promised ∧
              next.observers = client.observers ∧
              next.subscriptionObservers = client.subscriptionObservers) ↔
      ¬ IsScalar value ∧
        ∀ result, parseJsonToStrings kAllTag ∅ value = .ok result →
          Readable result ∧
            ∀ observer, Notifies client result observer →
              handler observer result = .ok () := by
  constructor
  · rintro ⟨next, effects, returned, -⟩
    rcases ok_of_bind returned with ⟨⟨next', effects'⟩, handled, continued⟩
    rcases ok_of_bind handled with ⟨result, flattened, answered⟩
    rcases ok_of_bind continued with ⟨_, called, -⟩
    refine ⟨(parseJsonToStrings_returns_iff _ _ _).mp ⟨result, flattened⟩, ?_⟩
    intro result' flattened'
    rw [flattened] at flattened'
    cases flattened'
    exact (handleVisResponce_survived_iff client result handler).mp
      ⟨next', effects', answered, called⟩
  · rintro ⟨container, readable⟩
    rcases (parseJsonToStrings_returns_iff kAllTag ∅ value).mpr container with
      ⟨result, flattened⟩
    rcases (handleVisResponce_survived_iff client result handler).mpr
        (readable result flattened) with ⟨next, effects, returned, called⟩
    refine ⟨next, effects, ?_, ?_⟩
    · simp only [handleMessageCalling, handleMessage, flattened, returned,
        called, bind, Except.bind]
      rfl
    · intro result' flattened' incomplete
      rw [flattened] at flattened'
      cases flattened'
      rw [handleVisResponce_unchanged client result returned incomplete]
      exact ⟨rfl, rfl, rfl⟩

/--
A number at the root aborts, and a missing action and a request identifier that
is no string throw.
-/
theorem malformed_frames_not_survived :
    handleMessageCalling (fun _ _ => .ok ()) Client.initial (.number "5") =
        .error .parsingFailed ∧
      handleMessageCalling (fun _ _ => .ok ()) Client.initial (.object []) =
        .error .exception ∧
      handleMessageCalling (fun _ _ => .ok ()) Client.initial
          (.object
            [("action", .string "get"), ("requestId", .number "1")]) =
        .error .exception :=
  ⟨rfl, rfl, rfl⟩

end Anbox.Vis.FrameSurvival
