import Anbox.Vis.FrameSurvival

/-!
# The promise that a response completes

A response completes at most one promise, the one under the request number
that it carries.  What else it changes depends on whether it has an error and
on its action, which need not be the action of the request.
-/

namespace Anbox.Vis.Completion

open Anbox.Foundation.Fallible
open Anbox.Vis.FrameSurvival
open Anbox.Vis.Messages
open Anbox.Vis.VisClient

/-- The client without the promise under a number. -/
abbrev withoutPromise (client : Client) (id : Int) : Client :=
  { client with promised := client.promised.erase id }

/-- What a response that completes the promise under a number changes. -/
inductive Completed (client : Client) (response : CommandResult)
    (id : Int) : Client → Prop where
  | failed (error : response.contains kErrorTag = true) :
      Completed client response id (withoutPromise client id)
  | answered {action : String} (plain : action ∈ [kActionGetTag, kActionSetTag])
      (named : HasAction response action) :
      Completed client response id (withoutPromise client id)
  /-- The answer to a subscription whose observer is gone. -/
  | unclaimed {subscriptionId : Int}
      (answer : SubscribeAnswer response id subscriptionId)
      (missing : client.subscriptionObservers[id]? = none) :
      Completed client response id (withoutPromise client id)
  | subscribed {subscriptionId : Int} {request : SubscriptionRequest}
      (answer : SubscribeAnswer response id subscriptionId)
      (waiting : client.subscriptionObservers[id]? = some request) :
      Completed client response id
        { client with
          observers := client.observers.insertIfNew subscriptionId request
          subscriptionObservers := client.subscriptionObservers.erase id
          promised := client.promised.erase id }
  | unsubscribed {subscriptionId : Int}
      (answer : UnsubscribeAnswer response id subscriptionId) :
      Completed client response id
        { client with
          subscriptionObservers := client.subscriptionObservers.erase id
          observers := client.observers.erase subscriptionId
          promised := client.promised.erase id }
  | unsubscribedAll
      (named : HasAction response kActionUnsubscribeAllTag)
      (noError : response.contains kErrorTag = false) :
      Completed client response id
        { client with
          observers := ∅
          promised := client.promised.erase id }

/-- A response with this number completes the promise under it. -/
structure Completes (client : Client) (response : CommandResult)
    (promise : Promise) (id : Int) (next : Client) : Prop where
  request : findId response kRequestIdTag = .ok (some id)
  found : client.promised[id]? = some promise
  changed : Completed client response id next

section

variable {client next : Client} {response : CommandResult}
  {promise : Promise} {id : Int} {result : WMessageResult}
  {effects : List Effect}

theorem not_fulfilled_of_ignored
    (returned :
      (pure (client, []) : Except Fault (Client × List Effect)) =
        .ok (next, effects))
    (member : .fulfilled promise id result ∈ effects) :
    Completes client response promise id next := by
  cases returned
  cases member

theorem completes_of_setValue {requestId : Int} {value : WMessageResult}
    (request : findId response kRequestIdTag = .ok (some requestId))
    (changed :
      Completed client response requestId (withoutPromise client requestId))
    (returned :
      (pure (setValue client requestId value) : Except Fault _) =
        .ok (next, effects))
    (member : .fulfilled promise id result ∈ effects) :
    Completes client response promise id next := by
  unfold setValue at returned
  split at returned
  · exact not_fulfilled_of_ignored returned member
  · next found =>
    cases returned
    cases List.mem_singleton.mp member
    exact ⟨request, found, changed⟩

theorem handleVisResponceGet_completes
    (named : HasAction response kActionGetTag)
    (returned : handleVisResponceGet client response = .ok (next, effects))
    (member : .fulfilled promise id result ∈ effects) :
    Completes client response promise id next := by
  rcases ok_of_bind returned with ⟨found, request, continued⟩
  split at continued
  · exact not_fulfilled_of_ignored continued member
  · split at continued
    · next error =>
      exact completes_of_setValue request (.failed error) continued member
    · split at continued
      · exact not_fulfilled_of_ignored continued member
      · split at continued
        · exact not_fulfilled_of_ignored continued member
        · exact completes_of_setValue request
            (.answered List.mem_cons_self named) continued member

theorem handleVisResponceSet_completes
    (named : HasAction response kActionSetTag)
    (returned : handleVisResponceSet client response = .ok (next, effects))
    (member : .fulfilled promise id result ∈ effects) :
    Completes client response promise id next := by
  rcases ok_of_bind returned with ⟨found, request, continued⟩
  split at continued
  · exact not_fulfilled_of_ignored continued member
  · split at continued
    · next error =>
      exact completes_of_setValue request (.failed error) continued member
    · split at continued
      · exact not_fulfilled_of_ignored continued member
      · exact completes_of_setValue request
          (.answered (by simp) named) continued member

theorem handleVisResponceSubscribe_completes
    (named : HasAction response kActionSubscribeTag)
    (returned :
      handleVisResponceSubscribe client response = .ok (next, effects))
    (member : .fulfilled promise id result ∈ effects) :
    Completes client response promise id next := by
  rcases ok_of_bind returned with ⟨found, request, continued⟩
  split at continued
  · exact not_fulfilled_of_ignored continued member
  · split at continued
    · next error =>
      exact completes_of_setValue request (.failed error) continued member
    · next noError =>
      rcases ok_of_bind continued with ⟨found, subscription, continued⟩
      split at continued
      · exact not_fulfilled_of_ignored continued member
      · split at continued
        · exact not_fulfilled_of_ignored continued member
        · next timestamp =>
          have answer : SubscribeAnswer response _ _ :=
            ⟨named, request, Bool.eq_false_iff.mpr noError, subscription,
              by simpa using timestamp⟩
          split at continued
          · next missing =>
            exact completes_of_setValue request (.unclaimed answer missing)
              continued member
          · next waiting =>
            split at continued
            · exact not_fulfilled_of_ignored continued member
            · next found =>
              cases continued
              simp only [List.mem_cons, reduceCtorEq, Effect.fulfilled.injEq,
                List.not_mem_nil, or_false, false_or] at member
              rcases member with ⟨rfl, rfl, -⟩
              exact ⟨request, found, .subscribed answer waiting⟩

theorem handleVisResponceUnsubscribe_completes
    (named : HasAction response kActionUnsubscribeTag)
    (returned :
      handleVisResponceUnsubscribe client response = .ok (next, effects))
    (member : .fulfilled promise id result ∈ effects) :
    Completes client response promise id next := by
  rcases ok_of_bind returned with ⟨found, request, continued⟩
  split at continued
  · exact not_fulfilled_of_ignored continued member
  · rcases ok_of_bind continued with ⟨found, subscription, continued⟩
    split at continued
    · exact not_fulfilled_of_ignored continued member
    · split at continued
      · exact not_fulfilled_of_ignored continued member
      · next timestamp =>
        split at continued
        · next error =>
          exact completes_of_setValue request (.failed error) continued member
        · next noError =>
          split at continued
          · exact not_fulfilled_of_ignored continued member
          · next found =>
            have answer : UnsubscribeAnswer response _ _ :=
              ⟨named, request, subscription, by simpa using timestamp,
                Bool.eq_false_iff.mpr noError⟩
            cases continued
            simp only [List.mem_append, Option.mem_toList,
              Option.map_eq_some_iff, reduceCtorEq, and_false, exists_false,
              List.mem_cons, Effect.fulfilled.injEq, List.not_mem_nil,
              or_false, false_or] at member
            rcases member with ⟨rfl, rfl, -⟩
            exact ⟨request, found, .unsubscribed answer⟩

theorem handleVisResponceUnsubscribeAll_completes
    (named : HasAction response kActionUnsubscribeAllTag)
    (returned :
      handleVisResponceUnsubscribeAll client response =
        .ok (next, effects))
    (member : .fulfilled promise id result ∈ effects) :
    Completes client response promise id next := by
  rcases ok_of_bind returned with ⟨found, request, continued⟩
  split at continued
  · exact not_fulfilled_of_ignored continued member
  · split at continued
    · exact not_fulfilled_of_ignored continued member
    · split at continued
      · next error =>
        exact completes_of_setValue request (.failed error) continued member
      · next noError =>
        split at continued
        · exact not_fulfilled_of_ignored continued member
        · next found =>
          cases continued
          simp only [List.mem_cons, reduceCtorEq, Effect.fulfilled.injEq,
            List.not_mem_nil, or_false, false_or] at member
          rcases member with ⟨rfl, rfl, -⟩
          exact ⟨request, found,
            .unsubscribedAll named (Bool.eq_false_iff.mpr noError)⟩

theorem handleVisResponceSubscription_completes
    (returned :
      handleVisResponceSubscription client response = .ok (next, effects))
    (member : .fulfilled promise id result ∈ effects) :
    Completes client response promise id next := by
  rcases ok_of_bind returned with ⟨found, -, continued⟩
  split at continued
  · exact not_fulfilled_of_ignored continued member
  · split at continued
    · exact not_fulfilled_of_ignored continued member
    · split at continued
      · exact not_fulfilled_of_ignored continued member
      · split at continued
        · exact not_fulfilled_of_ignored continued member
        · cases continued
          simp at member

/-- The promise that a response completes is the one under its number. -/
theorem handleVisResponce_completes
    (returned : handleVisResponce client response = .ok (next, effects))
    (member : .fulfilled promise id result ∈ effects) :
    Completes client response promise id next := by
  unfold handleVisResponce at returned
  split at returned
  · cases returned
  · next value found =>
    rcases ok_of_bind returned with ⟨text, read, continued⟩
    have named {action : String} (equal : cString text = action.toList) :
        HasAction response action :=
      ⟨value, text, found, read, equal⟩
    simp only at continued
    split at continued
    · next get =>
      exact handleVisResponceGet_completes (named get) continued member
    · split at continued
      · next subscribe =>
        exact handleVisResponceSubscribe_completes (named subscribe)
          continued member
      · split at continued
        · exact handleVisResponceSubscription_completes continued member
        · split at continued
          · next unsubscribe =>
            exact handleVisResponceUnsubscribe_completes (named unsubscribe)
              continued member
          · split at continued
            · next unsubscribeAll =>
              exact handleVisResponceUnsubscribeAll_completes
                (named unsubscribeAll) continued member
            · split at continued
              · next set =>
                exact handleVisResponceSet_completes (named set) continued
                  member
              · exact not_fulfilled_of_ignored continued member

end

end Anbox.Vis.Completion
