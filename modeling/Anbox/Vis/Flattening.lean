import Mathlib.Data.List.Induction
import Anbox.Vis.Completion

/-!
# Nested members and the protocol fields

Flattening puts the members of all levels into one map, and a later member of
a name replaces an earlier one.  A nested member comes right before the member
that contains it.  So it replaces the message's own member of its name if the
own member stands before the one that contains it, and takes its place if the
message has none.
-/

namespace Anbox.Vis.Flattening

open Anbox.Foundation.OrderedMap
open Anbox.Vis.Completion
open Anbox.Vis.FrameSurvival
open Anbox.Vis.Messages
open Anbox.Vis.VisClient

/-! ## The members of all levels -/

mutual

/-- The members of the objects within a value. -/
def nestedMembers : Json → List (String × Json)
  | .object members => membersWithin members
  | .array elements => elementsWithin elements
  | .null | .boolean _ | .number _ | .string _ => []
termination_by structural value => value

/-- These members, each after the members nested in it. -/
def membersWithin : List (String × Json) → List (String × Json)
  | [] => []
  | (name, value) :: members =>
      nestedMembers value ++ (name, value) :: membersWithin members
termination_by structural members => members

/-- Arrays that are elements of an array are not looked into. -/
def elementsWithin : List Json → List (String × Json)
  | [] => []
  | element :: elements =>
      (if element.isObject then nestedMembers element else []) ++
        elementsWithin elements
termination_by structural elements => elements

end

theorem nestedMembers_of_scalar {value : Json}
    (scalar : ¬ (value.isObject || value.isArray) = true) :
    nestedMembers value = [] := by
  cases value with
  | object members => exact absurd rfl scalar
  | array elements => exact absurd rfl scalar
  | _ => rfl

theorem membersWithin_append (first second : List (String × Json)) :
    membersWithin (first ++ second) =
      membersWithin first ++ membersWithin second := by
  induction first with
  | nil => rfl
  | cons member first inductionHypothesis =>
      simp [membersWithin, inductionHypothesis]

/-! ## What flattening stores -/

/-- A member is stored after what is nested in it. -/
theorem stores_member {name : String} {value : Json}
    {members : List (String × Json)}
    {result before flattened : CommandResult}
    (storedValue :
      ∀ key, key ≠ name →
        before[key]? =
          (lastValue key (nestedMembers value)).or result[key]?)
    (stored :
      ∀ key,
        flattened[key]? =
          (lastValue key (membersWithin members)).or
            (before.insert name value)[key]?)
    (key : String) :
    flattened[key]? =
      (lastValue key (membersWithin ((name, value) :: members))).or
        result[key]? := by
  rw [stored key, getElem?_insert_eq, membersWithin, lastValue_append,
    lastValue]
  by_cases same : key = name
  · simp [same]
  · simp [same, Ne.symm same, storedValue key same, Option.or_assoc]

mutual

/--
An array of plain values is also stored under the key of the array itself, but
there its member follows.
-/
theorem parseJsonToStrings_stores (rootKey : String)
    (result : CommandResult) :
    (value : Json) → (value.isObject || value.isArray) = true →
      ∃ flattened,
        parseJsonToStrings rootKey result value = .ok flattened ∧
          ∀ key, value.isObject = true ∨ key ≠ rootKey →
            flattened[key]? =
              (lastValue key (nestedMembers value)).or result[key]?
  | .object members, _ => by
      rcases parseMembers_stores result members with
        ⟨flattened, parsed, stored⟩
      exact ⟨flattened, parsed, fun key _ => stored key⟩
  | .array elements, _ => by
      rcases parseElements_stores rootKey result elements with
        ⟨flattened, parsed, stored⟩
      simp only [parseJsonToStrings, parsed]
      refine ⟨_, rfl, fun key other => ?_⟩
      have different : key ≠ rootKey :=
        other.resolve_left Bool.false_ne_true
      split
      · rw [getElem?_insert_eq, if_neg different]
        exact stored key
      · exact stored key
  | .null, container => by cases container
  | .boolean _, container => by cases container
  | .number _, container => by cases container
  | .string _, container => by cases container
termination_by structural value => value

theorem parseMembers_stores (result : CommandResult) :
    (members : List (String × Json)) →
      ∃ flattened,
        parseMembers result members = .ok flattened ∧
          ∀ key,
            flattened[key]? =
              (lastValue key (membersWithin members)).or result[key]?
  | [] => ⟨result, rfl, fun _ => rfl⟩
  | (name, value) :: members => by
      unfold parseMembers
      split
      · next container =>
        rcases parseJsonToStrings_stores name result value container with
          ⟨before, parsedValue, storedValue⟩
        rcases parseMembers_stores (before.insert name value) members with
          ⟨flattened, parsed, stored⟩
        rw [parsedValue]
        refine ⟨flattened, parsed, stores_member ?_ stored⟩
        exact fun key other => storedValue key (Or.inr other)
      · next scalar =>
        rcases parseMembers_stores (result.insert name value) members with
          ⟨flattened, parsed, stored⟩
        refine ⟨flattened, parsed, stores_member ?_ stored⟩
        intro key _
        rw [nestedMembers_of_scalar scalar]
        rfl
termination_by structural members => members

theorem parseElements_stores (rootKey : String) (result : CommandResult) :
    (elements : List Json) →
      ∃ flattened,
        parseElements rootKey result elements = .ok flattened ∧
          ∀ key,
            flattened[key]? =
              (lastValue key (elementsWithin elements)).or result[key]?
  | [] => ⟨result, rfl, fun _ => rfl⟩
  | element :: elements => by
      unfold parseElements elementsWithin
      split
      · next container =>
        rcases parseJsonToStrings_stores rootKey result element
            (by simp [container]) with ⟨before, parsedElement, storedElement⟩
        rcases parseElements_stores rootKey before elements with
          ⟨flattened, parsed, stored⟩
        rw [parsedElement]
        refine ⟨flattened, parsed, fun key => ?_⟩
        rw [stored key, storedElement key (Or.inl container),
          lastValue_append, Option.or_assoc]
      · exact parseElements_stores rootKey result elements
termination_by structural elements => elements

end

/-! ## A message's own members -/

/-- The members after the last one with this name; all, if there is none. -/
def membersAfter (name : String) (members : List (String × Json)) :
    List (String × Json) :=
  (members.reverse.takeWhile fun member => member.1 ≠ name).reverse

/-- The members nested in these members, in the order of flattening. -/
def nestedIn (members : List (String × Json)) : List (String × Json) :=
  members.flatMap fun member => nestedMembers member.2

theorem membersAfter_append (name : String) (members : List (String × Json))
    (last : String × Json) :
    membersAfter name (members ++ [last]) =
      if last.1 = name then [] else membersAfter name members ++ [last] := by
  unfold membersAfter
  rw [List.reverse_append, List.reverse_singleton, List.singleton_append,
    List.takeWhile_cons]
  by_cases same : last.1 = name
  · simp [same]
  · simp [same]

/-- Of all members of a name, the last nested one after the own one wins. -/
theorem lastValue_membersWithin (name : String)
    (members : List (String × Json)) :
    lastValue name (membersWithin members) =
      (lastValue name (nestedIn (membersAfter name members))).or
        (lastValue name members) := by
  induction members using List.reverseRecOn with
  | nil => rfl
  | append_singleton members last inductionHypothesis =>
      rcases last with ⟨lastName, value⟩
      rw [membersWithin_append, lastValue_append, inductionHypothesis,
        membersAfter_append, lastValue_append]
      by_cases same : lastName = name
      · simp [membersWithin, nestedIn, lastValue, lastValue_append, same]
      · simp [membersWithin, nestedIn, lastValue, lastValue_append, same,
          Option.or_assoc]

/-! ## Protocol fields -/

/-- The fields by which a message is dispatched and answered. -/
def protocolFields : List String :=
  [kActionTag, kRequestIdTag, kSubscriptionIdTag, kTimestampTag, kErrorTag]

/-- The fields of a message without what is nested in them. -/
def ownFields (members : List (String × Json)) : CommandResult :=
  insertAll ∅ members

theorem getElem?_ownFields (members : List (String × Json)) (tag : String) :
    (ownFields members)[tag]? = lastValue tag members := by
  rw [ownFields, getElem?_insertAll]
  simp

/--
The protocol fields of a flattened message are its own members, so that these
alone select its handler and the promise it completes.
-/
structure HandledByOwnFields (members : List (String × Json))
    (flattened : CommandResult) : Prop where
  fields :
    ∀ tag ∈ protocolFields, flattened[tag]? = lastValue tag members
  handler :
    ∀ action,
      HasAction flattened action ↔ HasAction (ownFields members) action
  completed :
    ∀ (client : Client) next effects,
      handleVisResponce client flattened = .ok (next, effects) →
        ∀ promise id result, .fulfilled promise id result ∈ effects →
          findId (ownFields members) kRequestIdTag = .ok (some id)

theorem handledByOwnFields_iff {members : List (String × Json)}
    {flattened : CommandResult} :
    HandledByOwnFields members flattened ↔
      ∀ tag ∈ protocolFields, flattened[tag]? = lastValue tag members := by
  refine ⟨HandledByOwnFields.fields, fun fields => ?_⟩
  have same (tag : String) (listed : tag ∈ protocolFields) :
      flattened[tag]? = (ownFields members)[tag]? :=
    (fields tag listed).trans (getElem?_ownFields members tag).symm
  refine ⟨fields, fun action => ?_, ?_⟩
  · unfold HasAction
    rw [same kActionTag (by decide)]
  · intro client next effects handled promise id result member
    have request := (handleVisResponce_completes handled member).request
    unfold findId at request ⊢
    rwa [← same kRequestIdTag (by decide)]

/--
No member of the message that follows its own member of a protocol field
contains another member of that name with another value.
-/
def NothingOverrides (members : List (String × Json)) : Prop :=
  ∀ tag ∈ protocolFields, ∀ value,
    lastValue tag (nestedIn (membersAfter tag members)) = some value →
      lastValue tag members = some value

/-- What flattening an object stores under a name. -/
theorem flattened_object (members : List (String × Json)) :
    ∃ flattened,
      parseJsonToStrings kAllTag ∅ (.object members) = .ok flattened ∧
        ∀ name,
          flattened[name]? =
            (lastValue name (nestedIn (membersAfter name members))).or
              (lastValue name members) := by
  rcases parseMembers_stores ∅ members with ⟨flattened, parsed, stored⟩
  refine ⟨flattened, parsed, fun name => ?_⟩
  rw [stored name, ← lastValue_membersWithin]
  simp

/-- A message is handled by its own fields unless a nested one follows. -/
theorem own_fields_decide_iff (members : List (String × Json)) :
    (∃ flattened,
        parseJsonToStrings kAllTag ∅ (.object members) = .ok flattened ∧
          HandledByOwnFields members flattened) ↔
      NothingOverrides members := by
  rcases flattened_object members with ⟨flattened, parsed, stored⟩
  constructor
  · rintro ⟨other, same, handled⟩ tag listed value nested
    obtain rfl : flattened = other := by simpa [parsed] using same
    have own := handled.fields tag listed
    rw [stored tag, nested] at own
    exact own.symm
  · intro nothing
    refine ⟨flattened, parsed, handledByOwnFields_iff.mpr ?_⟩
    intro tag listed
    rw [stored tag]
    cases nested :
        lastValue tag (nestedIn (membersAfter tag members)) with
    | none => rfl
    | some value => exact (nothing tag listed value nested).symm

/-- A notification whose payload has a member named after the action. -/
def notificationWithAction : List (String × Json) :=
  [(kActionTag, .string kActionSubscriptionTag),
    (kValueTag, .object [(kActionTag, .string kActionGetTag)])]

/-- The notification is handled as the answer to a `get`. -/
theorem payload_selects_handler :
    ¬ ∃ flattened,
        parseJsonToStrings kAllTag ∅ (.object notificationWithAction) =
            .ok flattened ∧
          HandledByOwnFields notificationWithAction flattened := by
  rintro ⟨flattened, parsed, handled⟩
  rcases flattened_object notificationWithAction with
    ⟨other, same, stored⟩
  obtain rfl : flattened = other := by simpa [parsed] using same
  have own := handled.fields kActionTag (by decide)
  rw [stored kActionTag] at own
  have nested : Json.string kActionGetTag = .string kActionSubscriptionTag :=
    Option.some.inj own
  exact absurd (Json.string.inj nested) (by decide)

end Anbox.Vis.Flattening
