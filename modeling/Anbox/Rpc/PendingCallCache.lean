import Anbox.Foundation.OrderedMap

/-!
# The cache of pending calls

`PendingCallCache` maps the id of every call that has not been answered to the
response object the caller supplied and to the closure that tells the caller.
Each operation is one critical section of the code's mutex.  What is done with
a closure outside the critical section is left to the callers of this module:
`completeResponse` and `forceCompletion` return the closures to be run.
-/

namespace Anbox.Rpc.PendingCallCache

open Std
open Anbox.Foundation.OrderedMap

/-- The address of a response object. -/
abbrev MessagePtr := Nat

/-- The address of a completion closure. -/
abbrev ClosurePtr := Nat

/-- What the caller of a pending call is waiting with. -/
structure PendingCall where
  response : MessagePtr
  complete : ClosurePtr
deriving DecidableEq, Repr

/-- The map `pending_calls_`. -/
abbrev PendingCalls := TreeMap Int32 PendingCall

/-- Ids are unsigned in the messages and `int` keys in the map. -/
def callKey (id : UInt32) : Int32 := id.toInt32

theorem callKey_injective : Function.Injective callKey := by
  intro left right equal
  have recovered := congrArg Int32.toUInt32 equal
  simpa [callKey] using recovered

/-- Remember a call under its id. -/
def saveCompletionDetails (pendingCalls : PendingCalls)
    (id : UInt32) (call : PendingCall) : PendingCalls :=
  pendingCalls.insert (callKey id) call

/-- The response object to be populated; `at` throws for an unknown id. -/
def populateMessageForResult (pendingCalls : PendingCalls)
    (id : UInt32) : Option MessagePtr :=
  pendingCalls[callKey id]?.map PendingCall.response

/-- Forget a call and return its closure, if the call is still pending. -/
def completeResponse (pendingCalls : PendingCalls)
    (id : UInt32) : PendingCalls × Option ClosurePtr :=
  match pendingCalls[callKey id]? with
  | some call => (pendingCalls.erase (callKey id), some call.complete)
  | none => (pendingCalls, none)

/-- Forget all calls and return their closures in key order. -/
def forceCompletion (pendingCalls : PendingCalls) :
    PendingCalls × List ClosurePtr :=
  (∅, pendingCalls.toList.map fun entry => entry.2.complete)

@[simp]
theorem getElem?_saveCompletionDetails (pendingCalls : PendingCalls)
    (id other : UInt32) (call : PendingCall) :
    (saveCompletionDetails pendingCalls id call)[callKey other]? =
      if id = other then some call else pendingCalls[callKey other]? := by
  simp [saveCompletionDetails, TreeMap.getElem?_insert,
    callKey_injective.eq_iff]

/-- A completed call is the only one that leaves the cache. -/
theorem getElem?_completeResponse (pendingCalls : PendingCalls)
    (id other : UInt32) :
    (completeResponse pendingCalls id).1[callKey other]? =
      if id = other then none else pendingCalls[callKey other]? := by
  cases found : pendingCalls[callKey id]? with
  | none =>
      simp only [completeResponse, found]
      split
      · rename_i equal
        rw [← equal, found]
      · rfl
  | some call =>
      simp [completeResponse, found, TreeMap.getElem?_erase,
        callKey_injective.eq_iff]

/-! ## The closures of the pending calls -/

/-- The closures waiting in the cache, in the order they are forced. -/
def closures (pendingCalls : PendingCalls) : List ClosurePtr :=
  (forceCompletion pendingCalls).2

theorem mem_closures_iff {pendingCalls : PendingCalls}
    {closure : ClosurePtr} :
    closure ∈ closures pendingCalls ↔
      ∃ (key : Int32) (call : PendingCall),
        pendingCalls[key]? = some call ∧ call.complete = closure := by
  simp [closures, forceCompletion, TreeMap.mem_toList_iff_getElem?_eq_some]

/-- Saving a call under a new id adds its closure. -/
theorem count_closures_save {pendingCalls : PendingCalls} {id : UInt32}
    (absent : pendingCalls[callKey id]? = none) (call : PendingCall)
    (closure : ClosurePtr) :
    (closures (saveCompletionDetails pendingCalls id call)).count closure =
      (closures pendingCalls).count closure +
        if call.complete = closure then 1 else 0 := by
  have entries := (toList_insert_perm_cons absent call).map
    fun entry : Int32 × PendingCall => entry.2.complete
  rw [closures, saveCompletionDetails, forceCompletion,
    entries.count_eq closure]
  simp [closures, forceCompletion, List.count_cons]

/-- Completing a call takes its closure out of the cache. -/
theorem count_closures_complete (pendingCalls : PendingCalls) (id : UInt32)
    (closure : ClosurePtr) :
    (closures pendingCalls).count closure =
      (closures (completeResponse pendingCalls id).1).count closure +
        (completeResponse pendingCalls id).2.toList.count closure := by
  cases found : pendingCalls[callKey id]? with
  | none => simp [completeResponse, found]
  | some call =>
      have entries := (toList_perm_cons_erase found).map
        fun entry : Int32 × PendingCall => entry.2.complete
      rw [closures, forceCompletion, entries.count_eq closure]
      simp [completeResponse, found, closures, forceCompletion,
        List.count_cons]

@[simp]
theorem closures_empty : closures ∅ = [] :=
  rfl

end Anbox.Rpc.PendingCallCache
