import Anbox.Evs.CaptureBuffers
import Anbox.Foundation.Counting
import Mathlib.Algebra.Order.Ring.Nat

/-!
# The count of buffers is kept

The counters of the camera say how many records hold a buffer and how many are
in use, each buffer that is allocated has one record, and a buffer in use
stays in its record until it is returned.

To ask for fewer buffers can leave more than were asked for, since buffers in
use stay.  To ask for more can fail, and then the camera goes back to the old
number, unless not even one buffer was allocated: the loop that releases
buffers does not see that it has none to release.
-/

namespace Anbox.Evs.BufferAccounting

open Anbox.Evs.CaptureBuffers
open Anbox.Foundation
open Anbox.Foundation.Runs
open Anbox.Foundation.SlotTable

variable {camera next : EvsV4lCamera}

/-- The record holds a buffer. -/
def full (record : BufferRecord) : Bool :=
  record.handle.isSome

/-- What is true of the camera between any two steps. -/
structure Accounted (camera : EvsV4lCamera) : Prop where
  managed : (bank camera).Managed
  covered : (bank camera).Covered
  used : ∀ record ∈ camera.buffers, record.inUse = true → full record = true
  allowed :
    camera.isOpen = true →
      camera.buffers.countP full = camera.framesAllowed
  inUse :
    camera.isOpen = true →
      camera.buffers.countP BufferRecord.inUse = camera.framesInUse
  limit : camera.framesAllowed ≤ maxBuffersInFlight
  closed :
    camera.isOpen = false →
      camera.buffers = [] ∧ camera.streaming = false ∧ camera.filling = none

theorem accounted_new (isOpen : Bool) :
    Accounted (EvsV4lCamera.new isOpen) where
  managed :=
    ⟨fun _ _ refers => (nomatch refers),
      fun _ _ _ refers => (nomatch refers), Store.balanced_empty⟩
  covered := Bank.covered_of_nothing fun _ live => nomatch live
  used := fun _ member => nomatch member
  allowed := fun _ => rfl
  inUse := fun _ => rfl
  limit := Nat.zero_le _
  closed := fun _ => ⟨rfl, rfl, rfl⟩

/-- Nothing changes for the buffers if their handles stay where they are. -/
theorem Accounted.sameBank (accounted : Accounted camera)
    (sameHandles : handles next.buffers = handles camera.buffers)
    (sameAllocator : next.allocator = camera.allocator) :
    (bank next).Managed ∧ (bank next).Covered := by
  rw [bank, sameHandles, sameAllocator]
  exact ⟨accounted.managed, accounted.covered⟩

/-- At most as many records are in use as hold a buffer. -/
theorem Accounted.inUse_le (accounted : Accounted camera)
    (isOpen : camera.isOpen = true) :
    camera.framesInUse ≤ camera.framesAllowed := by
  rw [← accounted.inUse isOpen, ← accounted.allowed isOpen]
  exact List.countP_mono_left accounted.used

/-- What changes when the camera gets more or fewer buffers. -/
structure Resized (camera next : EvsV4lCamera) : Prop where
  isOpen : next.isOpen = camera.isOpen
  streaming : next.streaming = camera.streaming
  filling : next.filling = camera.filling
  framesInUse : next.framesInUse = camera.framesInUse
  kept :
    ∀ (index : Nat) record, camera.buffers[index]? = some record →
      record.inUse = true → next.buffers[index]? = some record

theorem Resized.refl (camera : EvsV4lCamera) : Resized camera camera :=
  ⟨rfl, rfl, rfl, rfl, fun _ _ found _ => found⟩

theorem Resized.trans {last : EvsV4lCamera} (first : Resized camera next)
    (second : Resized next last) : Resized camera last where
  isOpen := second.isOpen.trans first.isOpen
  streaming := second.streaming.trans first.streaming
  filling := second.filling.trans first.filling
  framesInUse := second.framesInUse.trans first.framesInUse
  kept := fun index record found used =>
    second.kept index record (first.kept index record found used) used

/-! ## Records -/

theorem exists_of_findIdx? {buffers : List BufferRecord}
    {accepts : BufferRecord → Bool} {index : Nat}
    (found : buffers.findIdx? accepts = some index) :
    ∃ record, buffers[index]? = some record ∧ accepts record = true := by
  rcases List.findIdx?_eq_some_iff_getElem.mp found with
    ⟨inside, accepted, -⟩
  exact ⟨buffers[index], List.getElem?_eq_getElem inside, accepted⟩

theorem getElem?_modify_self {buffers : List BufferRecord} {index : Nat}
    {record : BufferRecord} (found : buffers[index]? = some record)
    (change : BufferRecord → BufferRecord) :
    (buffers.modify index change)[index]? = some (change record) := by
  rw [List.getElem?_modify_eq, found]
  rfl

/-- A record after a change of one is the changed one or an old one. -/
theorem mem_modify {buffers : List BufferRecord} {index : Nat}
    {record changed : BufferRecord} (found : buffers[index]? = some record)
    {change : BufferRecord → BufferRecord}
    (member : changed ∈ buffers.modify index change) :
    changed = change record ∨ changed ∈ buffers := by
  rcases List.mem_iff_getElem?.mp member with ⟨other, atOther⟩
  by_cases same : index = other
  · subst same
    rw [getElem?_modify_self found] at atOther
    exact .inl (Option.some.inj atOther).symm
  · rw [List.getElem?_modify_ne _ _ same] at atOther
    exact .inr (List.mem_of_getElem? atOther)

theorem handles_modify {buffers : List BufferRecord} {index : Nat}
    {record : BufferRecord} (found : buffers[index]? = some record)
    (change : BufferRecord → BufferRecord) :
    handles (buffers.modify index change) =
      Function.update (handles buffers) index (change record).handle := by
  funext other
  by_cases same : index = other
  · subst same
    rw [handles, getElem?_modify_self found, Function.update_self]
    rfl
  · rw [handles, List.getElem?_modify_ne _ _ same,
      Function.update_of_ne (Ne.symm same)]
    rfl

/-- A record is in use, or no longer. -/
def setInUse (inUse : Bool) (record : BufferRecord) : BufferRecord :=
  { record with inUse := inUse }

theorem handles_setInUse (buffers : List BufferRecord) (index : Nat)
    (inUse : Bool) :
    handles (buffers.modify index (setInUse inUse)) = handles buffers := by
  funext other
  rw [handles, handles, List.getElem?_modify]
  cases buffers[other]? with
  | none => rfl
  | some record =>
      simp only [Option.map_eq_map, Option.map_some, Option.bind_some]
      split
      · rfl
      · rfl

/-! ## One buffer more -/

/-- A buffer is stored in a record that held none and was not in use. -/
theorem storeBuffer_spec (accounted : Accounted camera) (memHandle : Nat) :
    ∃ slot, handles camera.buffers slot = none ∧
      handles (storeBuffer camera.buffers memHandle) =
        Function.update (handles camera.buffers) slot (some memHandle) ∧
      (storeBuffer camera.buffers memHandle).countP full =
        camera.buffers.countP full + 1 ∧
      (storeBuffer camera.buffers memHandle).countP BufferRecord.inUse =
        camera.buffers.countP BufferRecord.inUse ∧
      (∀ record ∈ storeBuffer camera.buffers memHandle,
        record = ⟨some memHandle, false⟩ ∨ record ∈ camera.buffers) ∧
      ∀ (index : Nat) record, camera.buffers[index]? = some record →
        record.inUse = true →
          (storeBuffer camera.buffers memHandle)[index]? = some record := by
  unfold storeBuffer
  split
  · next slot found =>
    rcases exists_of_findIdx? found with ⟨record, atSlot, empty⟩
    have noHandle : record.handle = none := Option.isNone_iff_eq_none.mp empty
    have notFull : full record = false := by rw [full, noHandle]; rfl
    have unused : record.inUse = false := by
      by_contra used
      have isFull := accounted.used record (List.mem_of_getElem? atSlot)
        (by simpa using used)
      rw [notFull] at isFull
      cases isFull
    refine ⟨slot, ?_, handles_modify atSlot _, ?_, ?_, ?_, ?_⟩
    · rw [handles, atSlot]
      exact noHandle
    · have counted := Counting.countP_modify atSlot
        (fun _ => ⟨some memHandle, false⟩) full
      rw [notFull] at counted
      exact counted
    · have counted := Counting.countP_modify atSlot
        (fun _ => ⟨some memHandle, false⟩) BufferRecord.inUse
      rw [unused] at counted
      exact counted
    · exact fun changed member => mem_modify atSlot member
    · intro index other atIndex used
      have differs : slot ≠ index := by
        rintro rfl
        rw [atSlot] at atIndex
        rw [← Option.some.inj atIndex, unused] at used
        cases used
      rw [List.getElem?_modify_ne _ _ differs]
      exact atIndex
  · refine ⟨camera.buffers.length, ?_, ?_, ?_, ?_, ?_, ?_⟩
    · rw [handles, List.getElem?_eq_none (Nat.le_refl _)]
      rfl
    · funext index
      rcases Nat.lt_trichotomy index camera.buffers.length with
        low | rfl | high
      · rw [handles, List.getElem?_append_left low,
          Function.update_of_ne (Nat.ne_of_lt low)]
        rfl
      · rw [handles, List.getElem?_append_right (Nat.le_refl _),
          Function.update_self, Nat.sub_self]
        rfl
      · rw [Function.update_of_ne (Nat.ne_of_gt high), handles, handles,
          List.getElem?_eq_none (Nat.le_of_lt high),
          List.getElem?_eq_none]
        rw [List.length_append, List.length_singleton]
        omega
    · rw [List.countP_append]
      rfl
    · rw [List.countP_append]
      rfl
    · intro record member
      rcases List.mem_append.mp member with old | new
      · exact .inr old
      · exact .inl (List.mem_singleton.mp new)
    · intro index record atIndex _
      rw [List.getElem?_append_left]
      · exact atIndex
      · exact (List.getElem?_eq_some_iff.mp atIndex).1

theorem Accounted.store (accounted : Accounted camera)
    (isOpen : camera.isOpen = true)
    (room : camera.framesAllowed < maxBuffersInFlight) {memHandle : Nat}
    (fresh : memHandle ∉ camera.allocator.created) :
    let stored : EvsV4lCamera :=
      { camera with
        buffers := storeBuffer camera.buffers memHandle
        framesAllowed := camera.framesAllowed + 1
        allocator := camera.allocator.create memHandle () }
    Accounted stored ∧ Resized camera stored := by
  rcases storeBuffer_spec accounted memHandle with
    ⟨slot, free, table, moreFull, sameUse, records, kept⟩
  intro stored
  have placed : bank stored = (bank camera).place slot memHandle () :=
    congrArg
      (fun table : Nat → Option Nat =>
        (⟨table, stored.allocator⟩ : Bank Nat Nat Unit)) table
  refine ⟨⟨?_, ?_, ?_, ?_, ?_, room, ?_⟩, ⟨rfl, rfl, rfl, rfl, kept⟩⟩
  · rw [placed]
    exact accounted.managed.place fresh ()
  · rw [placed]
    exact accounted.covered.place free memHandle ()
  · intro record member used
    rcases records record member with rfl | old
    · rfl
    · exact accounted.used record old used
  · intro _
    rw [moreFull, accounted.allowed isOpen]
  · intro _
    rw [sameUse, accounted.inUse isOpen]
  · intro closed
    rw [isOpen] at closed
    cases closed

/-- How many of the allocations succeed before the first that fails. -/
def granted (allocations : List (Option Nat)) : Nat :=
  (allocations.takeWhile Option.isSome).length

/-- The camera gets as many buffers as it needs, or as there are. -/
theorem increaseAvailableFrames_spec {allocations : List (Option Nat)}
    {numToAdd : Nat} (accounted : Accounted camera)
    (isOpen : camera.isOpen = true) (fresh : Fresh camera allocations)
    (room : camera.framesAllowed + numToAdd ≤ maxBuffersInFlight) :
    let increased := increaseAvailableFrames camera allocations numToAdd
    Accounted increased.1 ∧ Resized camera increased.1 ∧
      increased.1.framesAllowed = camera.framesAllowed + increased.2 ∧
      increased.2 = min numToAdd (granted allocations) := by
  induction numToAdd generalizing camera allocations with
  | zero =>
      rw [increaseAvailableFrames]
      exact ⟨accounted, Resized.refl camera, rfl, (Nat.zero_min _).symm⟩
  | succ numToAdd inductionHypothesis =>
      cases allocations with
      | nil => exact ⟨accounted, Resized.refl camera, rfl, rfl⟩
      | cons allocation allocations =>
          cases allocation with
          | none => exact ⟨accounted, Resized.refl camera, rfl, rfl⟩
          | some memHandle =>
              have distinct : (memHandle :: allocations.reduceOption).Nodup :=
                fresh.1
              have isNew := fresh.2 memHandle List.mem_cons_self
              rcases accounted.store isOpen (by omega) isNew with
                ⟨stored, resized⟩
              rcases List.nodup_cons.mp distinct with ⟨notLater, later⟩
              have rest := @inductionHypothesis _ allocations stored isOpen
                ⟨later, by
                  intro other member created
                  rcases List.mem_append.mp created with old | new
                  · exact fresh.2 other (List.mem_cons_of_mem _ member) old
                  · rw [List.mem_singleton.mp new] at member
                    exact notLater member⟩
                (by
                  dsimp only
                  omega)
              rcases rest with ⟨last, changed, count, added⟩
              refine ⟨last, resized.trans changed, ?_, ?_⟩
              · rw [increaseAvailableFrames, count]
                dsimp only
                omega
              · rw [increaseAvailableFrames]
                dsimp only
                rw [added, granted, granted, List.takeWhile_cons_of_pos rfl,
                  List.length_cons]
                omega

/-! ## One buffer fewer -/

/-- The buffer of a record that is not in use can be released. -/
theorem Accounted.release (accounted : Accounted camera)
    (isOpen : camera.isOpen = true) {index memHandle : Nat}
    (found : camera.buffers[index]? = some ⟨some memHandle, false⟩) :
    Accounted (releaseBuffer camera index memHandle) ∧
      Resized camera (releaseBuffer camera index memHandle) ∧
      (releaseBuffer camera index memHandle).framesAllowed + 1 =
        camera.framesAllowed := by
  have refers : (bank camera).table index = some memHandle :=
    congrArg (fun record => record.bind BufferRecord.handle) found
  have released : bank (releaseBuffer camera index memHandle) =
      (bank camera).destroyAt index := by
    rw [Bank.destroyAt, refers]
    exact congrArg
      (fun table : Nat → Option Nat =>
        (⟨table, camera.allocator.destroy memHandle⟩ : Bank Nat Nat Unit))
      (handles_modify found _)
  have counted := Counting.countP_modify found
    (fun record => { record with handle := none }) full
  have sameUse := Counting.countP_modify found
    (fun record => { record with handle := none }) BufferRecord.inUse
  have fewer :
      (releaseBuffer camera index memHandle).buffers.countP full + 1 =
        camera.framesAllowed := by
    rw [← accounted.allowed isOpen]
    exact counted
  have limit := accounted.limit
  have less : (releaseBuffer camera index memHandle).framesAllowed + 1 =
      camera.framesAllowed := by
    change decrement camera.framesAllowed + 1 = camera.framesAllowed
    rw [← fewer]
    rfl
  refine ⟨⟨?_, ?_, ?_, ?_, ?_, ?_, ?_⟩, ⟨rfl, rfl, rfl, rfl, ?_⟩, less⟩
  · rw [released]
    exact accounted.managed.destroyAt index
  · rw [released]
    exact accounted.covered.destroyAt index
  · intro record member used
    rcases mem_modify found member with rfl | old
    · cases used
    · exact accounted.used record old used
  · intro _
    omega
  · intro _
    exact sameUse.trans (accounted.inUse isOpen)
  · omega
  · intro closed
    rw [releaseBuffer] at closed
    exact absurd (isOpen.symm.trans closed) (by decide)
  · intro other record atOther used
    have differs : index ≠ other := by
      rintro rfl
      rw [found] at atOther
      rw [← Option.some.inj atOther] at used
      cases used
    rw [releaseBuffer, List.getElem?_modify_ne _ _ differs]
    exact atOther

/-- There is no buffer to release in a record. -/
def NotIdle (camera : EvsV4lCamera) (index : Nat) : Prop :=
  ∀ record, camera.buffers[index]? = some record → record.idle = false

theorem notIdle_releaseBuffer {index memHandle : Nat}
    (found : camera.buffers[index]? = some ⟨some memHandle, false⟩) :
    NotIdle (releaseBuffer camera index memHandle) index ∧
      ∀ other, NotIdle camera other →
        NotIdle (releaseBuffer camera index memHandle) other := by
  have here : NotIdle (releaseBuffer camera index memHandle) index := by
    intro record atIndex
    rw [releaseBuffer, getElem?_modify_self found] at atIndex
    rw [← Option.some.inj atIndex]
    rfl
  refine ⟨here, fun other notIdle => ?_⟩
  by_cases same : index = other
  · exact same ▸ here
  · intro record atOther
    rw [releaseBuffer, List.getElem?_modify_ne _ _ same] at atOther
    exact notIdle record atOther

/--
The loop stops at the number to remove or goes through all records; it stops
only after it has released a buffer.
-/
theorem releaseBuffers_spec {numToRemove removed : Nat} {indices : List Nat}
    (accounted : Accounted camera) (isOpen : camera.isOpen = true) :
    let released := releaseBuffers numToRemove indices camera removed
    Accounted released.1 ∧ Resized camera released.1 ∧
      released.1.framesAllowed + released.2 =
        camera.framesAllowed + removed ∧
      (removed < numToRemove → released.2 ≤ numToRemove) ∧
      (∀ index, NotIdle camera index → NotIdle released.1 index) ∧
      (removed < released.2 ∧ released.2 = numToRemove ∨
        ∀ index ∈ indices, NotIdle released.1 index) := by
  induction indices generalizing camera removed with
  | nil =>
      rw [releaseBuffers]
      exact ⟨accounted, Resized.refl camera, rfl, Nat.le_of_lt,
        fun _ notIdle => notIdle, .inr fun _ member => nomatch member⟩
  | cons index indices inductionHypothesis =>
      by_cases holds :
        ∃ memHandle, camera.buffers[index]? = some ⟨some memHandle, false⟩
      · rcases holds with ⟨memHandle, found⟩
        rcases accounted.release isOpen found with ⟨kept, resized, less⟩
        rcases notIdle_releaseBuffer found with ⟨here, others⟩
        rw [releaseBuffers, found]
        dsimp only
        by_cases enough : removed + 1 = numToRemove
        · rw [if_pos enough]
          refine ⟨kept, resized, ?_, fun _ => Nat.le_of_eq enough, others,
            .inl ⟨Nat.lt_succ_self removed, enough⟩⟩
          dsimp only
          omega
        · rw [if_neg enough]
          have rest := @inductionHypothesis _ (removed + 1) kept isOpen
          rcases rest with ⟨last, changed, sum, bound, still, outcome⟩
          refine ⟨last, resized.trans changed, by omega,
            fun low => bound (by omega),
            fun other notIdle => still other (others other notIdle), ?_⟩
          rcases outcome with ⟨more, full⟩ | none
          · exact .inl ⟨by omega, full⟩
          · refine .inr fun other member => ?_
            rcases List.mem_cons.mp member with rfl | later
            · exact still _ here
            · exact none other later
      · have notIdle : NotIdle camera index := by
          rintro ⟨memHandle, inUse⟩ atIndex
          cases memHandle with
          | none => exact Bool.and_false _
          | some memHandle =>
              cases inUse with
              | false => exact absurd ⟨memHandle, atIndex⟩ holds
              | true => rfl
        have skipped : releaseBuffers numToRemove (index :: indices) camera
            removed = releaseBuffers numToRemove indices camera removed := by
          rw [releaseBuffers]
          split
          · next memHandle found => exact absurd ⟨memHandle, found⟩ holds
          · rfl
        rw [skipped]
        rcases @inductionHypothesis _ removed accounted isOpen with
          ⟨last, changed, sum, bound, still, outcome⟩
        refine ⟨last, changed, sum, bound, still, outcome.imp_right ?_⟩
        intro none other member
        rcases List.mem_cons.mp member with rfl | later
        · exact still _ notIdle
        · exact none other later

/--
As many buffers are released as were to be, or all that are not in use; all of
those are if none was to be released.
-/
theorem decreaseAvailableFrames_spec (accounted : Accounted camera)
    (isOpen : camera.isOpen = true) (numToRemove : Nat) :
    let decreased := (decreaseAvailableFrames camera numToRemove).1
    Accounted decreased ∧ Resized camera decreased ∧
      decreased.framesAllowed =
        if numToRemove = 0 then camera.framesInUse
        else max (camera.framesAllowed - numToRemove) camera.framesInUse := by
  rcases @releaseBuffers_spec _ numToRemove 0
      (List.range camera.buffers.length) accounted isOpen with
    ⟨kept, resized, sum, bound, still, outcome⟩
  have nowOpen := resized.isOpen.trans isOpen
  have atLeast := kept.inUse_le nowOpen
  rw [resized.framesInUse] at atLeast
  refine ⟨kept, resized, ?_⟩
  rw [decreaseAvailableFrames]
  rcases outcome with ⟨some, reached⟩ | none
  · rw [if_neg (by omega)]
    omega
  · have all : ∀ record ∈ (releaseBuffers numToRemove
        (List.range camera.buffers.length) camera 0).1.buffers,
        full record = true ↔ record.inUse = true := by
      intro record member
      refine ⟨fun isFull => ?_, kept.used record member⟩
      rcases List.mem_iff_getElem?.mp member with ⟨index, atIndex⟩
      have notIdle : record.idle = false := by
        by_cases inside : index < camera.buffers.length
        · exact none index (List.mem_range.mpr inside) record atIndex
        · refine still index (fun other atOther => ?_) record atIndex
          rw [List.getElem?_eq_none (Nat.le_of_not_lt inside)] at atOther
          cases atOther
      rw [BufferRecord.idle] at notIdle
      rw [full] at isFull
      rw [isFull, Bool.and_true] at notIdle
      cases used : record.inUse with
      | true => rfl
      | false =>
          rw [used] at notIdle
          cases notIdle
    have same := List.countP_congr all
    rw [kept.allowed nowOpen, kept.inUse nowOpen, resized.framesInUse] at same
    split
    · exact same
    · have := bound (by omega)
      omega

/-! ## Another number of buffers -/

/-- The number asked for is one that can be set. -/
def Acceptable (bufferCount : Nat) : Prop :=
  0 < bufferCount ∧ bufferCount ≤ maxBuffersInFlight

instance (bufferCount : Nat) : Decidable (Acceptable bufferCount) :=
  inferInstanceAs (Decidable (_ ∧ _))

/-- How many buffers there are after `setAvailableFrames`. -/
def framesLeft (camera : EvsV4lCamera) (bufferCount : Nat)
    (allocations : List (Option Nat)) : Nat :=
  if Acceptable bufferCount then
    if bufferCount ≤ camera.framesAllowed + granted allocations then
      max bufferCount camera.framesInUse
    else if granted allocations = 0 then camera.framesInUse
    else camera.framesAllowed
  else camera.framesAllowed

theorem setAvailableFrames_spec (accounted : Accounted camera)
    (isOpen : camera.isOpen = true) {allocations : List (Option Nat)}
    (fresh : Fresh camera allocations) (bufferCount : Nat) :
    let set := setAvailableFrames camera bufferCount allocations
    Accounted set.1 ∧ Resized camera set.1 ∧
      (set.2 = true ↔
        Acceptable bufferCount ∧
          bufferCount ≤ camera.framesAllowed + granted allocations) ∧
      set.1.framesAllowed = framesLeft camera bufferCount allocations := by
  have atLeast := accounted.inUse_le isOpen
  unfold setAvailableFrames framesLeft
  by_cases acceptable : Acceptable bufferCount
  case neg =>
    have refused : bufferCount < 1 ∨ maxBuffersInFlight < bufferCount := by
      rw [Acceptable] at acceptable
      omega
    rcases refused with none | many
    · rw [if_pos none, if_neg acceptable]
      exact ⟨accounted, Resized.refl camera,
        ⟨fun same => (nomatch same), fun both => absurd both.1 acceptable⟩,
        rfl⟩
    · rw [if_neg (by omega), if_pos many, if_neg acceptable]
      exact ⟨accounted, Resized.refl camera,
        ⟨fun same => (nomatch same), fun both => absurd both.1 acceptable⟩,
        rfl⟩
  case pos =>
    have positive := acceptable.1
    have few := acceptable.2
    have some : ¬bufferCount < 1 := by omega
    have notMany : ¬maxBuffersInFlight < bufferCount := by omega
    rw [if_neg some, if_neg notMany, if_pos acceptable]
    by_cases more : camera.framesAllowed < bufferCount
    · rw [if_pos more]
      rcases @increaseAvailableFrames_spec _ allocations
          (bufferCount - camera.framesAllowed) accounted isOpen fresh
          (by omega) with ⟨increased, resized, count, added⟩
      dsimp only
      by_cases enough :
        bufferCount ≤ camera.framesAllowed + granted allocations
      · rw [if_neg (by omega), if_pos enough]
        refine ⟨increased, resized, ⟨fun _ => ⟨acceptable, enough⟩,
          fun _ => rfl⟩, ?_⟩
        dsimp only
        omega
      · rw [if_pos (by omega), if_neg enough]
        rcases decreaseAvailableFrames_spec increased
            (resized.isOpen.trans isOpen)
            (increaseAvailableFrames camera allocations
              (bufferCount - camera.framesAllowed)).2 with
          ⟨decreased, rolledBack, left⟩
        refine ⟨decreased, resized.trans rolledBack,
          ⟨fun same => (nomatch same), fun both => absurd both.2 enough⟩, ?_⟩
        dsimp only
        rw [left, resized.framesInUse]
        by_cases nothing : granted allocations = 0
        · rw [if_pos (by omega), if_pos nothing]
        · rw [if_neg (by omega), if_neg nothing]
          omega
    · rw [if_neg more, if_pos (Nat.le_add_right_of_le (by omega))]
      by_cases fewer : bufferCount < camera.framesAllowed
      · rw [if_pos fewer]
        rcases decreaseAvailableFrames_spec accounted isOpen
            (camera.framesAllowed - bufferCount) with
          ⟨decreased, resized, left⟩
        refine ⟨decreased, resized, ⟨fun _ => ⟨acceptable, by omega⟩,
          fun _ => rfl⟩, ?_⟩
        dsimp only
        rw [left, if_neg (by omega)]
        omega
      · rw [if_neg fewer]
        refine ⟨accounted, Resized.refl camera,
          ⟨fun _ => ⟨acceptable, by omega⟩, fun _ => rfl⟩, ?_⟩
        dsimp only
        omega

theorem setMaxFramesInFlight_spec (accounted : Accounted camera)
    {allocations : List (Option Nat)} (fresh : Fresh camera allocations)
    (bufferCount : Nat) :
    let set := setMaxFramesInFlight camera bufferCount allocations
    Accounted set.1 ∧ Resized camera set.1 ∧
      (camera.isOpen = true →
        (set.2 = .ok ↔
          Acceptable bufferCount ∧
            bufferCount ≤ camera.framesAllowed + granted allocations) ∧
        set.1.framesAllowed = framesLeft camera bufferCount allocations) := by
  unfold setMaxFramesInFlight
  by_cases closed : camera.isOpen = false
  · rw [if_pos closed]
    refine ⟨accounted, Resized.refl camera, fun isOpen => ?_⟩
    exact absurd (isOpen.symm.trans closed) (by decide)
  · have isOpen : camera.isOpen = true := Bool.not_eq_false _ ▸ closed
    rcases setAvailableFrames_spec accounted isOpen fresh bufferCount with
      ⟨kept, resized, result, left⟩
    rw [if_neg closed]
    by_cases none : bufferCount < 1
    · have notAcceptable : ¬Acceptable bufferCount := fun acceptable =>
        Nat.not_lt_of_le acceptable.1 none
      rw [if_pos none]
      refine ⟨accounted, Resized.refl camera, fun _ => ⟨?_, ?_⟩⟩
      · exact ⟨fun same => (nomatch same),
          fun both => absurd both.1 notAcceptable⟩
      · rw [framesLeft, if_neg notAcceptable]
    · rw [if_neg none]
      refine ⟨kept, resized, fun _ => ⟨?_, left⟩⟩
      rw [← result]
      generalize setAvailableFrames camera bufferCount allocations = set
      rcases set with ⟨changed, _ | _⟩
      · exact ⟨fun same => (nomatch same), fun same => (nomatch same)⟩
      · exact ⟨fun _ => rfl, fun _ => rfl⟩

/-! ## The stream -/

/-- Start or stop a stream of a camera that is open. -/
theorem Accounted.stream (accounted : Accounted camera)
    (isOpen : camera.isOpen = true) (streaming : Bool) :
    Accounted { camera with streaming := streaming } where
  managed := accounted.managed
  covered := accounted.covered
  used := accounted.used
  allowed := accounted.allowed
  inUse := accounted.inUse
  limit := accounted.limit
  closed := fun closed => absurd (isOpen.symm.trans closed) (by decide)

/-- What `startVideoStream` leaves, and when it succeeds. -/
theorem startVideoStream_spec (accounted : Accounted camera)
    {allocations : List (Option Nat)} (fresh : Fresh camera allocations)
    (started : Bool) :
    let start := startVideoStream camera allocations started
    Accounted start.1 ∧
      Resized camera { start.1 with streaming := camera.streaming } ∧
      (start.2 = .ok → camera.streaming = false) ∧
      start.1.streaming = (camera.streaming || start.2 = .ok) := by
  unfold startVideoStream
  by_cases closed : camera.isOpen = false
  · rw [if_pos closed]
    exact ⟨accounted, Resized.refl camera, fun same => (nomatch same),
      (Bool.or_false _).symm⟩
  rw [if_neg closed]
  by_cases streaming : camera.streaming = true
  · rw [if_pos streaming]
    exact ⟨accounted, Resized.refl camera, fun same => (nomatch same),
      (Bool.or_false _).symm⟩
  have isOpen : camera.isOpen = true := Bool.not_eq_false _ ▸ closed
  have notStreaming : camera.streaming = false :=
    Bool.not_eq_true _ ▸ streaming
  have prepared :
      let prepare :=
        if camera.framesAllowed < 1 then
          setAvailableFrames camera 1 allocations
        else (camera, true)
      Accounted prepare.1 ∧ Resized camera prepare.1 := by
    split
    · rcases setAvailableFrames_spec accounted isOpen fresh 1 with
        ⟨kept, resized, -⟩
      exact ⟨kept, resized⟩
    · exact ⟨accounted, Resized.refl camera⟩
  rw [if_neg streaming]
  generalize (if camera.framesAllowed < 1 then
      setAvailableFrames camera 1 allocations
    else (camera, true)) = prepare at prepared
  rcases prepare with ⟨first, result⟩
  rcases prepared with ⟨kept, resized⟩
  dsimp only at kept resized ⊢
  have nowOpen := resized.isOpen.trans isOpen
  have notYet := resized.streaming.trans notStreaming
  cases result with
  | false =>
      rw [if_pos rfl]
      refine ⟨kept, ?_, fun same => (nomatch same), ?_⟩
      · exact ⟨resized.isOpen, rfl, resized.filling, resized.framesInUse,
          resized.kept⟩
      · rw [notStreaming]
        exact notYet
  | true =>
      rw [if_neg (by decide)]
      cases started with
      | true =>
          rw [if_pos rfl]
          refine ⟨kept.stream nowOpen true, ?_, fun _ => notStreaming, ?_⟩
          · exact ⟨resized.isOpen, rfl, resized.filling, resized.framesInUse,
              resized.kept⟩
          · rw [notStreaming]
            rfl
      | false =>
          rw [if_neg (by decide)]
          refine ⟨kept.stream nowOpen false, ?_, fun same => (nomatch same),
            ?_⟩
          · exact ⟨resized.isOpen, rfl, resized.filling, resized.framesInUse,
              resized.kept⟩
          · rw [notStreaming]
            rfl

/-! ## Frames -/

theorem countP_full_setInUse {index : Nat} {record : BufferRecord}
    {buffers : List BufferRecord} (found : buffers[index]? = some record)
    (inUse : Bool) :
    (buffers.modify index (setInUse inUse)).countP full =
      buffers.countP full := by
  have counted := Counting.countP_modify found (setInUse inUse) full
  exact Nat.add_right_cancel counted

/-- One record is taken into use. -/
theorem Accounted.begin (accounted : Accounted camera)
    (isOpen : camera.isOpen = true) {index : Nat} {record : BufferRecord}
    (found : camera.buffers[index]? = some record)
    (idle : record.idle = true) :
    Accounted
      { camera with
        buffers := camera.buffers.modify index (setInUse true)
        framesInUse := camera.framesInUse + 1
        filling := some index } := by
  have both := Bool.and_eq_true_iff.mp idle
  have unused : record.inUse = false := by simpa using both.1
  refine ⟨?_, ?_, ?_, ?_, ?_, accounted.limit, ?_⟩
  · exact And.left
      (accounted.sameBank (handles_setInUse camera.buffers index true) rfl)
  · exact And.right
      (accounted.sameBank (handles_setInUse camera.buffers index true) rfl)
  · intro changed member used
    rcases mem_modify found member with rfl | old
    · exact both.2
    · exact accounted.used changed old used
  · intro _
    exact (countP_full_setInUse found true).trans (accounted.allowed isOpen)
  · intro _
    have counted := Counting.countP_modify found (setInUse true)
      BufferRecord.inUse
    rw [unused, accounted.inUse isOpen] at counted
    exact counted
  · intro closed
    exact absurd (isOpen.symm.trans closed) (by decide)

/-- One record is no longer in use. -/
theorem Accounted.unuse (accounted : Accounted camera)
    (isOpen : camera.isOpen = true) {index : Nat} {record : BufferRecord}
    (found : camera.buffers[index]? = some record)
    (used : record.inUse = true) (filling : Option Nat) :
    Accounted
      { camera with
        buffers := camera.buffers.modify index (setInUse false)
        framesInUse := decrement camera.framesInUse
        filling := filling } := by
  refine ⟨?_, ?_, ?_, ?_, ?_, accounted.limit, ?_⟩
  · exact And.left
      (accounted.sameBank (handles_setInUse camera.buffers index false) rfl)
  · exact And.right
      (accounted.sameBank (handles_setInUse camera.buffers index false) rfl)
  · intro changed member isUsed
    rcases mem_modify found member with rfl | old
    · cases isUsed
    · exact accounted.used changed old isUsed
  · intro _
    exact (countP_full_setInUse found false).trans (accounted.allowed isOpen)
  · intro _
    have counted := Counting.countP_modify found (setInUse false)
      BufferRecord.inUse
    rw [used, accounted.inUse isOpen] at counted
    change _ + 1 = camera.framesInUse at counted
    dsimp only
    rw [← counted]
    rfl
  · intro closed
    exact absurd (isOpen.symm.trans closed) (by decide)

end Anbox.Evs.BufferAccounting
