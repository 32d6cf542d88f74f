import Anbox.Foundation.Runs

/-!
# Outgoing packets of a descriptor

An `FDHandler` keeps a queue of the packets that are to be written to its
descriptor.  A write may take any part of the first packet or fail, and the
descriptor is watched for `EPOLLOUT` only while something is queued.
-/

namespace Anbox.Qemud.OutgoingPackets

open Anbox.Foundation.Runs

/--
The writing half of an `FDHandler`: the queue from `out_first` on, whether
`EPOLLOUT` is in the mask of its hook, and what the descriptor has taken.
-/
structure FdHandler where
  closing : Bool
  outPos : Nat
  out : List (List UInt8)
  wantsOut : Bool
  taken : List UInt8
deriving DecidableEq, Repr

/-- The handler made by `fdhandler_new`. -/
def FdHandler.new : FdHandler where
  closing := false
  outPos := 0
  out := []
  wantsOut := false
  taken := []

/-- `fdhandler_enqueue`. -/
def fdhandlerEnqueue (handler : FdHandler) (data : List UInt8) : FdHandler :=
  match handler.out with
  | [] => { handler with out := [data], outPos := 0, wantsOut := true }
  | first :: rest => { handler with out := first :: rest ++ [data] }

/--
The part of `fdhandler_event` for `EPOLLOUT`, with what `fd_write` returns:
`none` is an error, and no more is written than there is.
-/
def fdhandlerWrite (handler : FdHandler) (returned : Option Nat) : FdHandler :=
  match handler.out with
  | [] => handler
  | first :: rest =>
      match returned with
      | none => handler
      | some count =>
          let len := min count (first.length - handler.outPos)
          let taken := handler.taken ++ (first.drop handler.outPos).take len
          if first.length ≤ handler.outPos + len then
            { handler with
              outPos := 0
              out := rest
              wantsOut := if rest = [] then false else handler.wantsOut
              taken := taken }
          else { handler with outPos := handler.outPos + len, taken := taken }

/-! ## What is still to be written -/

/-- The bytes that were queued and are not written yet. -/
def FdHandler.pending (handler : FdHandler) : List UInt8 :=
  handler.out.flatten.drop handler.outPos

/-- Everything that was ever queued. -/
def FdHandler.queued (handler : FdHandler) : List UInt8 :=
  handler.taken ++ handler.pending

/--
The position is inside the first packet, and the descriptor is watched exactly
while there is one.
-/
structure Coherent (handler : FdHandler) : Prop where
  position : ∀ first ∈ handler.out.head?, handler.outPos ≤ first.length
  idle : handler.out = [] → handler.outPos = 0
  watched : handler.wantsOut = true ↔ handler.out ≠ []

theorem coherent_new : Coherent FdHandler.new where
  position := nofun
  idle := fun _ => rfl
  watched := by simp [FdHandler.new]

theorem Coherent.enqueue {handler : FdHandler} (coherent : Coherent handler)
    (data : List UInt8) : Coherent (fdhandlerEnqueue handler data) := by
  rcases handler with ⟨closing, outPos, out, wantsOut, taken⟩
  cases out with
  | nil =>
      constructor
      case position => simp [fdhandlerEnqueue]
      case idle => simp [fdhandlerEnqueue]
      case watched => simp [fdhandlerEnqueue]
  | cons first rest =>
      constructor
      case position =>
        simpa [fdhandlerEnqueue] using coherent.position first rfl
      case idle => simp [fdhandlerEnqueue]
      case watched => simpa [fdhandlerEnqueue] using coherent.watched

/-- A packet is queued behind everything else. -/
theorem Coherent.queued_enqueue {handler : FdHandler}
    (coherent : Coherent handler) (data : List UInt8) :
    (fdhandlerEnqueue handler data).queued = handler.queued ++ data := by
  rcases handler with ⟨closing, outPos, out, wantsOut, taken⟩
  cases out with
  | nil =>
      have start : outPos = 0 := coherent.idle rfl
      simp [fdhandlerEnqueue, FdHandler.queued, FdHandler.pending]
  | cons first rest =>
      have inside : outPos ≤ first.length := coherent.position first rfl
      have within : outPos ≤ (first :: rest).flatten.length := by
        rw [List.flatten_cons, List.length_append]
        omega
      simp only [fdhandlerEnqueue, FdHandler.queued, FdHandler.pending]
      rw [List.flatten_append, List.drop_append_of_le_length within,
        List.append_assoc]
      simp

theorem Coherent.write {handler : FdHandler} (coherent : Coherent handler)
    (returned : Option Nat) : Coherent (fdhandlerWrite handler returned) := by
  rcases handler with ⟨closing, outPos, out, wantsOut, taken⟩
  cases out with
  | nil => exact coherent
  | cons first rest =>
      cases returned with
      | none => exact coherent
      | some count =>
          have watched : wantsOut = true := coherent.watched.mpr nofun
          simp only [fdhandlerWrite]
          split
          · constructor
            case position => exact fun _ _ => Nat.zero_le _
            case idle => exact fun _ => rfl
            case watched => simp [watched]
          · next unfinished =>
            constructor
            case position =>
              intro packet isFirst
              obtain rfl : first = packet := by simpa using isFirst
              dsimp only
              omega
            case idle => exact nofun
            case watched => exact coherent.watched

/-- Writing moves bytes to the descriptor and does nothing else to them. -/
theorem Coherent.queued_write {handler : FdHandler}
    (coherent : Coherent handler) (returned : Option Nat) :
    (fdhandlerWrite handler returned).queued = handler.queued := by
  rcases handler with ⟨closing, outPos, out, wantsOut, taken⟩
  cases out with
  | nil => rfl
  | cons first rest =>
      cases returned with
      | none => rfl
      | some count =>
          have inside : outPos ≤ first.length := coherent.position first rfl
          simp only [fdhandlerWrite]
          split
          · next whole =>
            have all : (first.drop outPos).take
                (min count (first.length - outPos)) = first.drop outPos := by
              apply List.take_of_length_le
              rw [List.length_drop]
              omega
            simp only [FdHandler.queued, FdHandler.pending, all,
              List.drop_zero, List.flatten_cons]
            rw [List.drop_append_of_le_length inside, List.append_assoc]
          · next unfinished =>
            simp only [FdHandler.queued, FdHandler.pending,
              List.flatten_cons]
            rw [List.drop_append_of_le_length inside,
              List.drop_append_of_le_length (by omega), ← List.drop_drop,
              List.append_assoc, ← List.append_assoc (List.take _ _),
              List.take_append_drop]

/-! ## Runs of a handler -/

/-- What happens to a handler. -/
inductive Operation where
  | enqueue (data : List UInt8)
  | write (returned : Option Nat)
deriving DecidableEq, Repr

def operate (handler : FdHandler) : Operation → FdHandler
  | .enqueue data => fdhandlerEnqueue handler data
  | .write returned => fdhandlerWrite handler returned

/-- The bytes that an operation queues. -/
def Operation.queues : Operation → List UInt8
  | .enqueue data => data
  | .write _ => []

theorem coherent_operate (handler : FdHandler) (operation : Operation)
    (coherent : Coherent handler) : Coherent (operate handler operation) := by
  cases operation with
  | enqueue data => exact coherent.enqueue data
  | write returned => exact coherent.write returned

/--
However packets are queued and however much each write takes, the descriptor
has taken a part of what was queued, in order, and the rest is still there.
It is watched if and only if a packet is waiting.
-/
theorem taken_append_pending (operations : List Operation) :
    let handler := runFrom operate FdHandler.new operations
    handler.taken ++ handler.pending =
        operations.flatMap Operation.queues ∧
      (handler.wantsOut = true ↔ handler.out ≠ []) := by
  have both := @run_history _ _ operate FdHandler.new
    (fun operations handler =>
      Coherent handler ∧
        handler.queued = operations.flatMap Operation.queues)
    ⟨coherent_new, rfl⟩
    (by
      rintro operations operation ⟨coherent, queued⟩
      refine ⟨coherent_operate _ operation coherent, ?_⟩
      rw [List.flatMap_append, ← queued, List.flatMap_singleton]
      cases operation with
      | enqueue data => exact coherent.queued_enqueue data
      | write returned =>
          rw [Operation.queues, List.append_nil]
          exact coherent.queued_write returned)
    operations
  exact ⟨both.2, both.1.watched⟩

end Anbox.Qemud.OutgoingPackets
