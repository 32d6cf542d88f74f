import Anbox.Evs.BufferAccounting

/-!
# The buffers of a camera in all its runs

Whatever the capture thread, the client and the allocator do, the counters are
right, no buffer is lost or released twice, and a buffer that a client holds
stays in its record.  A buffer that is returned to a high record moves to a
lower one, and there always is one that is empty.
-/

namespace Anbox.Evs.CaptureInvariants

open Anbox.Evs.BufferAccounting
open Anbox.Evs.CaptureBuffers
open Anbox.Foundation
open Anbox.Foundation.Runs
open Anbox.Foundation.SlotTable

variable {camera : EvsV4lCamera}

/-! ## Frames that begin and end -/

/-- A frame begins in a record that is idle, or not at all. -/
theorem beginFrame_cases (camera : EvsV4lCamera) :
    (∃ index record, camera.buffers[index]? = some record ∧
      record.idle = true ∧
      beginFrame camera =
        { camera with
          buffers := camera.buffers.modify index (setInUse true)
          framesInUse := camera.framesInUse + 1
          filling := some index }) ∨
      beginFrame camera = camera := by
  unfold beginFrame
  split
  · exact .inr rfl
  · split
    · exact .inr rfl
    · next index found =>
      rcases exists_of_findIdx? found with ⟨record, atIndex, idle⟩
      exact .inl ⟨index, record, atIndex, idle, rfl⟩

/-- A camera finds a buffer for a frame if not all of them are in use. -/
theorem beginFrame_filling (accounted : Accounted camera)
    (streaming : camera.streaming = true) (notYet : camera.filling = none) :
    (beginFrame camera).filling.isSome = true ↔
      camera.framesInUse < camera.framesAllowed := by
  have isOpen : camera.isOpen = true := by
    by_contra closed
    have notStreaming := (accounted.closed (by simpa using closed)).2.1
    rw [streaming] at notStreaming
    cases notStreaming
  unfold beginFrame
  split
  · next allUsed =>
    rw [notYet]
    exact ⟨fun same => (nomatch same),
      fun fewer => absurd allUsed (Nat.not_le_of_lt fewer)⟩
  · next notAll =>
    refine ⟨fun _ => Nat.lt_of_not_le notAll, fun fewer => ?_⟩
    split
    · next none =>
      have all : ∀ record ∈ camera.buffers,
          full record = true → record.inUse = true := by
        intro record member isFull
        have notIdle := List.findIdx?_eq_none_iff.mp none record member
        rw [BufferRecord.idle] at notIdle
        rw [full] at isFull
        simpa [isFull] using notIdle
      have le := List.countP_mono_left all
      rw [accounted.allowed isOpen, accounted.inUse isOpen] at le
      exact absurd le notAll
    · rfl

/-- A frame that has been sent, or that is taken back. -/
theorem endFrame_cases (camera : EvsV4lCamera) (delivered : Bool) :
    endFrame camera delivered = { camera with filling := none } ∨
      delivered = false ∧ ∃ index, camera.filling = some index ∧
        endFrame camera delivered =
          { camera with
            buffers := camera.buffers.modify index (setInUse false)
            framesInUse := decrement camera.framesInUse
            filling := none } := by
  unfold endFrame
  split
  · next none =>
    left
    rw [← none]
  · next index found =>
    cases delivered with
    | true => exact .inl rfl
    | false => exact .inr ⟨rfl, index, found, rfl⟩

/-! ## Buffers that are returned -/

/-- If there are no more buffers than `index`, a lower record has none. -/
theorem exists_empty_lower {buffers : List BufferRecord} {index : Nat}
    (few : buffers.countP full ≤ index) {record : BufferRecord}
    (found : buffers[index]? = some record) (isFull : full record = true) :
    ∃ empty, buffers.findIdx? (fun record => record.handle.isNone) =
        some empty ∧ empty < index := by
  have inside := (List.getElem?_eq_some_iff.mp found).1
  have exists_lower : ∃ lower other, lower < index ∧
      buffers[lower]? = some other ∧ other.handle.isNone = true := by
    by_contra none
    have all : ∀ other ∈ buffers.take (index + 1), full other = true := by
      intro other member
      rcases List.mem_iff_getElem?.mp member with ⟨lower, atLower⟩
      rw [List.getElem?_take] at atLower
      split at atLower
      · by_cases here : lower = index
        · rw [here, found] at atLower
          exact Option.some.inj atLower ▸ isFull
        · by_contra notFull
          exact none ⟨lower, other, by omega, atLower,
            by simpa [full] using notFull⟩
      · cases atLower
    have many := List.countP_eq_length.mpr all
    rw [List.length_take] at many
    have fewer :
        (buffers.take (index + 1)).countP full ≤ buffers.countP full :=
      (List.take_sublist (index + 1) buffers).countP_le
    omega
  rcases exists_lower with ⟨lower, other, low, atLower, isEmpty⟩
  cases search : buffers.findIdx? fun record => record.handle.isNone with
  | none =>
      have refused := List.findIdx?_eq_none_iff.mp search other
        (List.mem_of_getElem? atLower)
      rw [isEmpty] at refused
      cases refused
  | some empty =>
      refine ⟨empty, rfl, ?_⟩
      rcases List.findIdx?_eq_some_iff_getElem.mp search with ⟨_, -, before⟩
      by_contra notLower
      have refused := before lower (by omega)
      rw [(List.getElem?_eq_some_iff.mp atLower).2] at refused
      exact refused isEmpty

/-- What a move does to the records. -/
theorem moveDown_spec {buffers : List BufferRecord} {index empty : Nat}
    {memHandle : Nat}
    (found : buffers[index]? = some ⟨some memHandle, false⟩)
    (search : buffers.findIdx? (fun record => record.handle.isNone) =
      some empty)
    (used : ∀ record ∈ buffers, record.inUse = true → full record = true) :
    buffers[empty]? = some ⟨none, false⟩ ∧ empty ≠ index ∧
      moveDown buffers index =
        (buffers.modify empty fun record =>
            { record with handle := some memHandle }).modify index fun record =>
          { record with handle := none } := by
  rcases exists_of_findIdx? search with ⟨⟨handle, inUse⟩, atEmpty, isNone⟩
  have noHandle : handle = none := Option.isNone_iff_eq_none.mp isNone
  subst noHandle
  have unused : inUse = false := by
    cases inUse with
    | false => rfl
    | true => exact nomatch used _ (List.mem_of_getElem? atEmpty) rfl
  subst unused
  refine ⟨atEmpty, ?_, ?_⟩
  · rintro rfl
    rw [atEmpty] at found
    cases found
  · rw [moveDown, search]
    dsimp only
    rw [found]
    rfl

/-- A camera whose buffer moves down is still accounted for. -/
theorem accounted_moveDown (accounted : Accounted camera)
    (isOpen : camera.isOpen = true) {index memHandle : Nat}
    (found : camera.buffers[index]? = some ⟨some memHandle, false⟩) :
    Accounted { camera with buffers := moveDown camera.buffers index } := by
  cases search :
      camera.buffers.findIdx? fun record => record.handle.isNone with
  | none =>
      rw [moveDown, search]
      exact accounted
  | some empty =>
      rcases moveDown_spec found search accounted.used with
        ⟨atEmpty, differs, moved⟩
      have still : (camera.buffers.modify empty fun record =>
            { record with handle := some memHandle })[index]? =
          some ⟨some memHandle, false⟩ := by
        rw [List.getElem?_modify_ne _ _ differs]
        exact found
      have table : handles (moveDown camera.buffers index) =
          ((bank camera).move index empty).table := by
        have refers : handles camera.buffers index = some memHandle :=
          congrArg (fun record => record.bind BufferRecord.handle) found
        rw [moved, handles_modify still, handles_modify atEmpty, Bank.move,
          bank]
        dsimp only
        rw [refers]
      have banks :
          bank { camera with buffers := moveDown camera.buffers index } =
            (bank camera).move index empty :=
        congrArg
          (fun table : Nat → Option Nat =>
            (⟨table, camera.allocator⟩ : Bank Nat Nat Unit)) table
      have free : (bank camera).table empty = none :=
        congrArg (fun record => record.bind BufferRecord.handle) atEmpty
      have fullIn := Counting.countP_modify atEmpty
        (fun record => { record with handle := some memHandle }) full
      have fullOut := Counting.countP_modify still
        (fun record => { record with handle := none }) full
      have useIn := Counting.countP_modify atEmpty
        (fun record => { record with handle := some memHandle })
        BufferRecord.inUse
      have useOut := Counting.countP_modify still
        (fun record => { record with handle := none }) BufferRecord.inUse
      refine ⟨?_, ?_, ?_, ?_, ?_, accounted.limit, ?_⟩
      · rw [banks]
        exact accounted.managed.move index empty
      · rw [banks]
        exact accounted.covered.move free index
      · intro record member isUsed
        dsimp only at member
        rw [moved] at member
        rcases mem_modify still member with rfl | before
        · cases isUsed
        · rcases mem_modify atEmpty before with rfl | old
          · cases isUsed
          · exact accounted.used record old isUsed
      · intro _
        rw [← accounted.allowed isOpen]
        dsimp only
        rw [moved]
        exact Nat.succ.inj (fullOut.trans fullIn)
      · intro _
        rw [← accounted.inUse isOpen]
        dsimp only
        rw [moved]
        exact useOut.trans useIn
      · intro closed
        exact absurd (isOpen.symm.trans closed) (by decide)

/-- A buffer is returned to its record, or nothing happens. -/
theorem doneWithFrame_cases (camera : EvsV4lCamera) (buffer : BufferDesc) :
    doneWithFrame camera buffer = camera ∨
      camera.isOpen = true ∧ buffer.memHandle ≠ none ∧
        ∃ record, camera.buffers[buffer.bufferId]? = some record ∧
          record.inUse = true ∧
          doneWithFrame camera buffer =
            { camera with
              buffers :=
                if camera.framesAllowed ≤ buffer.bufferId then
                  moveDown
                    (camera.buffers.modify buffer.bufferId (setInUse false))
                    buffer.bufferId
                else camera.buffers.modify buffer.bufferId (setInUse false)
              framesInUse := decrement camera.framesInUse } := by
  unfold doneWithFrame
  split
  · exact .inl rfl
  · next isOpen =>
    split
    · exact .inl rfl
    · next handle =>
      split
      · exact .inl rfl
      · next record found =>
        split
        · exact .inl rfl
        · next used =>
          exact .inr ⟨by simpa using isOpen, handle, record, found,
            by simpa using used, rfl⟩

/-! ## Steps -/

theorem accounted_beginFrame (accounted : Accounted camera)
    (streaming : camera.streaming = true) :
    Accounted (beginFrame camera) := by
  rcases beginFrame_cases camera with
    ⟨index, record, found, idle, taken⟩ | same
  · rw [taken]
    refine accounted.begin ?_ found idle
    by_contra closed
    have notStreaming := (accounted.closed (by simpa using closed)).2.1
    rw [streaming] at notStreaming
    cases notStreaming
  · rw [same]
    exact accounted

theorem accounted_endFrame (accounted : Accounted camera) {delivered : Bool}
    (inUse : delivered = false → StillInUse camera) :
    Accounted (endFrame camera delivered) := by
  rcases endFrame_cases camera delivered with same | ⟨lost, index, isIt, same⟩
  · rw [same]
    exact ⟨accounted.managed, accounted.covered, accounted.used,
      accounted.allowed, accounted.inUse, accounted.limit,
      fun closed => ⟨(accounted.closed closed).1,
        (accounted.closed closed).2.1, rfl⟩⟩
  · rw [same]
    rcases Option.map_eq_some_iff.mp (inUse lost index isIt) with
      ⟨record, found, used⟩
    refine accounted.unuse ?_ found used none
    by_contra closed
    have nothing := (accounted.closed (by simpa using closed)).1
    rw [nothing] at found
    cases found

theorem accounted_doneWithFrame (accounted : Accounted camera)
    (buffer : BufferDesc) :
    Accounted (doneWithFrame camera buffer) := by
  rcases doneWithFrame_cases camera buffer with
    same | ⟨isOpen, -, record, found, used, same⟩
  · rw [same]
    exact accounted
  · have returned := accounted.unuse isOpen found used camera.filling
    rw [same]
    split
    · rcases Option.isSome_iff_exists.mp
        (accounted.used record (List.mem_of_getElem? found) used) with
        ⟨memHandle, holds⟩
      have nowFree :
          (camera.buffers.modify buffer.bufferId
              (setInUse false))[buffer.bufferId]? =
            some ⟨some memHandle, false⟩ := by
        rw [getElem?_modify_self found, setInUse, holds]
      exact accounted_moveDown returned isOpen nowFree
    · exact returned

theorem accounted_stopVideoStream (accounted : Accounted camera) :
    Accounted (stopVideoStream camera).1 :=
  ⟨accounted.managed, accounted.covered, accounted.used, accounted.allowed,
    accounted.inUse, accounted.limit,
    fun closed => ⟨(accounted.closed closed).1, rfl,
      (accounted.closed closed).2.2⟩⟩

theorem accounted_shutdown (accounted : Accounted camera)
    (waited : camera.filling = none) :
    Accounted (shutdown camera) := by
  have cleared : bank (shutdown camera) =
      (bank camera).destroyAll (List.range camera.buffers.length) := by
    have table : handles [] = ((bank camera).destroyAll
        (List.range camera.buffers.length)).table := by
      funext index
      rw [Bank.table_destroyAll]
      split
      · rfl
      · next outside =>
        have beyond : camera.buffers.length ≤ index :=
          Nat.le_of_not_lt fun inside =>
            outside (List.mem_range.mpr inside)
        rw [bank]
        dsimp only
        rw [handles, handles, List.getElem?_eq_none beyond]
        rfl
    exact congrArg
      (fun table : Nat → Option Nat =>
        (⟨table, ((bank camera).destroyAll
          (List.range camera.buffers.length)).store⟩ : Bank Nat Nat Unit))
      table
  refine ⟨?_, ?_, List.forall_mem_nil _,
    fun isOpen => Bool.noConfusion isOpen,
    fun isOpen => Bool.noConfusion isOpen, accounted.limit,
    fun _ => ⟨rfl, rfl, waited⟩⟩
  · rw [cleared]
    exact accounted.managed.destroyAll _
  · rw [cleared]
    exact accounted.covered.destroyAll _

theorem accounted_step (accounted : Accounted camera) {event : Event}
    (admitted : admits camera event) :
    Accounted (step camera event) := by
  cases event with
  | setMaxFramesInFlight bufferCount allocations =>
      exact (setMaxFramesInFlight_spec accounted admitted bufferCount).1
  | startVideoStream allocations started =>
      exact (startVideoStream_spec accounted admitted started).1
  | beginFrame => exact accounted_beginFrame accounted admitted.1
  | endFrame delivered => exact accounted_endFrame accounted admitted
  | doneWithFrame buffer => exact accounted_doneWithFrame accounted buffer
  | stopVideoStream => exact accounted_stopVideoStream accounted
  | shutdown => exact accounted_shutdown accounted admitted

theorem accounted_run {isOpen : Bool} {events : List Event}
    (admitted :
      Admitted step admits (EvsV4lCamera.new isOpen) events) :
    Accounted (run isOpen events) :=
  @Admitted.invariant _ _ step admits Accounted
    (fun _ _ accounted isAdmitted => accounted_step accounted isAdmitted)
    _ _ (accounted_new isOpen) admitted

/-! ## Results -/

/--
In every run the counters of an open camera are right, and at most 100 buffers
are allowed.  Every buffer that was allocated is in one record, or it has been
released once; after a shutdown none is left.  A frame is skipped only if all
buffers are in use.
-/
theorem buffers_accounted {isOpen : Bool} {events : List Event}
    (admitted :
      Admitted step admits (EvsV4lCamera.new isOpen) events) :
    let camera := run isOpen events
    (camera.isOpen = true →
        camera.buffers.countP full = camera.framesAllowed ∧
          camera.buffers.countP BufferRecord.inUse = camera.framesInUse ∧
          camera.framesInUse ≤ camera.framesAllowed) ∧
      camera.framesAllowed ≤ maxBuffersInFlight ∧
      (∀ memHandle ∈ camera.allocator.created,
        ((∃! index, handles camera.buffers index = some memHandle) ∧
            camera.allocator.destroyed.count memHandle = 0) ∨
          (∀ index, handles camera.buffers index ≠ some memHandle) ∧
            camera.allocator.destroyed.count memHandle = 1) ∧
      (camera.isOpen = false → camera.buffers = []) ∧
      (camera.streaming = true → camera.filling = none →
        ((beginFrame camera).filling.isSome = true ↔
          camera.framesInUse < camera.framesAllowed)) := by
  intro camera
  have accounted : Accounted camera := accounted_run admitted
  refine ⟨?_, accounted.limit, ?_,
    fun closed => (accounted.closed closed).1, beginFrame_filling accounted⟩
  · intro isOpen
    exact ⟨accounted.allowed isOpen, accounted.inUse isOpen,
      accounted.inUse_le isOpen⟩
  · intro memHandle created
    have once := accounted.managed.balanced.exactly_once created
    have unique :=
      accounted.managed.live_iff_existsUnique accounted.covered memHandle
    by_cases live : camera.allocator.Live memHandle
    · refine .inl ⟨unique.mp live, ?_⟩
      have one : (bank camera).store.Live memHandle := live
      rw [if_pos one] at once
      exact Nat.succ.inj once
    · refine .inr ⟨fun index refers => ?_, ?_⟩
      · exact live (accounted.managed.live index memHandle refers)
      · have gone : ¬(bank camera).store.Live memHandle := live
        rw [if_neg gone] at once
        exact once

/-- Two buffers are sent to the client. -/
def twoSent : List Event :=
  [.setMaxFramesInFlight 2 [some 7, some 8], .startVideoStream [] true,
    .beginFrame, .endFrame true, .beginFrame, .endFrame true]

/-- The two buffers are counted. -/
theorem buffers_accounted_twoSent :
    (run true twoSent).buffers.countP full = 2 ∧
      (run true twoSent).buffers.countP BufferRecord.inUse = 2 := by
  have admitted :
      Admitted step admits (EvsV4lCamera.new true) twoSent := by decide
  have counted := (buffers_accounted admitted).1 (by decide)
  exact ⟨counted.1, counted.2.1⟩

/--
What a camera has after another number of buffers was asked for, in every
state that it reaches.
-/
theorem setMaxFramesInFlight_framesAllowed {isOpen : Bool}
    {events : List Event}
    (admitted :
      Admitted step admits (EvsV4lCamera.new isOpen) events)
    (nowOpen : (run isOpen events).isOpen = true)
    {allocations : List (Option Nat)}
    (fresh : Fresh (run isOpen events) allocations) (bufferCount : Nat) :
    let camera := run isOpen events
    let set := setMaxFramesInFlight camera bufferCount allocations
    (set.2 = .ok ↔
        Acceptable bufferCount ∧
          bufferCount ≤ camera.framesAllowed + granted allocations) ∧
      (set.2 = .ok →
        set.1.framesAllowed = max bufferCount camera.framesInUse) ∧
      (set.2 ≠ .ok →
        set.1.framesAllowed =
          if Acceptable bufferCount ∧ granted allocations = 0 then
            camera.framesInUse
          else camera.framesAllowed) := by
  intro camera set
  have spec := setMaxFramesInFlight_spec (accounted_run admitted) fresh
    bufferCount
  rcases spec.2.2 nowOpen with ⟨result, left⟩
  refine ⟨result, fun isOk => ?_, fun failed => ?_⟩
  · rcases result.mp isOk with ⟨acceptable, enough⟩
    rw [left, framesLeft, if_pos acceptable, if_pos enough]
  · rw [left, framesLeft]
    by_cases acceptable : Acceptable bufferCount
    · have short : ¬bufferCount ≤ camera.framesAllowed + granted allocations :=
        fun enough => failed (result.mpr ⟨acceptable, enough⟩)
      rw [if_pos acceptable, if_neg short]
      by_cases nothing : granted allocations = 0
      · rw [if_pos nothing, if_pos ⟨acceptable, nothing⟩]
      · rw [if_neg nothing, if_neg fun both => nothing both.2]
    · rw [if_neg acceptable, if_neg fun both => acceptable both.1]

/-- One of the two buffers comes back. -/
def oneReturned : List Event :=
  [.doneWithFrame ⟨0, some 7⟩]

/-- Without memory for a third buffer, the one that came back is lost. -/
theorem setMaxFramesInFlight_framesAllowed_noMemory :
    (setMaxFramesInFlight (run true (twoSent ++ oneReturned)) 3
      [none]).1.framesAllowed = 1 := by
  have admitted : Admitted step admits (EvsV4lCamera.new true)
      (twoSent ++ oneReturned) := by decide
  have left := setMaxFramesInFlight_framesAllowed admitted (by decide)
    (by decide : Fresh (run true (twoSent ++ oneReturned)) [none]) 3
  exact left.2.2 (by decide)

/-- The event takes the buffer of a record back from the client. -/
def Releases (camera : EvsV4lCamera) (index : Nat) : Event → Prop
  | .doneWithFrame buffer =>
      buffer.bufferId = index ∧ buffer.memHandle ≠ none
  | .endFrame delivered => delivered = false ∧ camera.filling = some index
  | .shutdown => True
  | _ => False

instance (camera : EvsV4lCamera) (index : Nat) (event : Event) :
    Decidable (Releases camera index event) :=
  match event with
  | .setMaxFramesInFlight _ _ => isFalse id
  | .startVideoStream _ _ => isFalse id
  | .beginFrame => isFalse id
  | .endFrame _ => inferInstanceAs (Decidable (_ ∧ _))
  | .doneWithFrame _ => inferInstanceAs (Decidable (_ ∧ _))
  | .stopVideoStream => isFalse id
  | .shutdown => isTrue trivial

/-- One step leaves a buffer in use where it is. -/
theorem held_step (accounted : Accounted camera) {event : Event}
    (admitted : admits camera event) {index memHandle : Nat}
    (notReleased : ¬Releases camera index event)
    (held : camera.buffers[index]? = some ⟨some memHandle, true⟩) :
    (step camera event).buffers[index]? = some ⟨some memHandle, true⟩ := by
  cases event with
  | setMaxFramesInFlight bufferCount allocations =>
      have spec := setMaxFramesInFlight_spec accounted admitted bufferCount
      exact spec.2.1.kept index _ held rfl
  | startVideoStream allocations started =>
      have spec := startVideoStream_spec accounted admitted started
      exact spec.2.1.kept index _ held rfl
  | beginFrame =>
      rcases beginFrame_cases camera with
        ⟨other, record, found, idle, taken⟩ | same
      · have differs : other ≠ index := by
          rintro rfl
          rw [held] at found
          rw [← Option.some.inj found] at idle
          cases idle
        rw [step, taken, List.getElem?_modify_ne _ _ differs]
        exact held
      · rw [step, same]
        exact held
  | endFrame delivered =>
      rcases endFrame_cases camera delivered with
        same | ⟨lost, other, isIt, same⟩
      · rw [step, same]
        exact held
      · have differs : other ≠ index := by
          rintro rfl
          exact notReleased ⟨lost, isIt⟩
        rw [step, same, List.getElem?_modify_ne _ _ differs]
        exact held
  | doneWithFrame buffer =>
      rcases doneWithFrame_cases camera buffer with
        same | ⟨-, handle, record, found, used, same⟩
      · rw [step, same]
        exact held
      · have differs : buffer.bufferId ≠ index := fun isIt =>
          notReleased ⟨isIt, handle⟩
        have still : (camera.buffers.modify buffer.bufferId
            (setInUse false))[index]? = some ⟨some memHandle, true⟩ := by
          rw [List.getElem?_modify_ne _ _ differs]
          exact held
        rw [step, same]
        dsimp only
        split
        · unfold moveDown
          split
          · exact still
          · next empty search =>
            rcases exists_of_findIdx? search with ⟨other, atEmpty, isNone⟩
            have apart : empty ≠ index := by
              rintro rfl
              rw [still] at atEmpty
              rw [← Option.some.inj atEmpty] at isNone
              cases isNone
            rw [List.getElem?_modify_ne _ _ differs,
              List.getElem?_modify_ne _ _ apart]
            exact still
        · exact still
  | stopVideoStream => exact held
  | shutdown => exact absurd trivial notReleased

/--
A buffer in use stays in its record and is not released, whatever else is
returned and however many buffers are asked for.
-/
theorem held_buffer_stays {isOpen : Bool} {events later : List Event}
    (admitted :
      Admitted step admits (EvsV4lCamera.new isOpen) events)
    {index memHandle : Nat}
    (held :
      (run isOpen events).buffers[index]? = some ⟨some memHandle, true⟩)
    (kept :
      Admitted step
        (fun camera event =>
          admits camera event ∧ ¬Releases camera index event)
        (run isOpen events) later) :
    (run isOpen (events ++ later)).buffers[index]? =
        some ⟨some memHandle, true⟩ ∧
      (run isOpen (events ++ later)).allocator.Live memHandle := by
  have always := @Admitted.invariant _ _ step _
    (fun camera => Accounted camera ∧
      camera.buffers[index]? = some ⟨some memHandle, true⟩)
    (fun _ _ both admitted =>
      ⟨accounted_step both.1 admitted.1,
        held_step both.1 admitted.1 admitted.2 both.2⟩)
    _ _ ⟨accounted_run admitted, held⟩ kept
  rw [run, runFrom_append]
  refine ⟨always.2, ?_⟩
  apply always.1.managed.live index memHandle
  exact congrArg (fun record => record.bind BufferRecord.handle) always.2

/-- The number of buffers goes down to one. -/
def shrunk : List Event :=
  oneReturned ++ [.setMaxFramesInFlight 1 []]

/-- The buffer in the second record stays there. -/
theorem held_buffer_stays_shrunk :
    (run true (twoSent ++ shrunk)).buffers[1]? = some ⟨some 8, true⟩ ∧
      (run true (twoSent ++ shrunk)).allocator.Live 8 := by
  have admitted :
      Admitted step admits (EvsV4lCamera.new true) twoSent := by decide
  exact held_buffer_stays admitted (by decide) (by decide)

/--
A buffer that comes back to a record beyond the number allowed moves to a
lower one, which is empty until then.
-/
theorem returned_buffer_moves_down {isOpen : Bool} {events : List Event}
    (admitted :
      Admitted step admits (EvsV4lCamera.new isOpen) events)
    {index memHandle sent : Nat}
    (held :
      (run isOpen events).buffers[index]? = some ⟨some memHandle, true⟩)
    (high : (run isOpen events).framesAllowed ≤ index) :
    ∃ lower < index,
      (run isOpen events).buffers[lower]? = some ⟨none, false⟩ ∧
        let returned := doneWithFrame (run isOpen events) ⟨index, some sent⟩
        returned.buffers[lower]? = some ⟨some memHandle, false⟩ ∧
          returned.buffers[index]? = some ⟨none, false⟩ := by
  have accounted := accounted_run admitted
  generalize run isOpen events = camera at held high accounted
  have isOpen : camera.isOpen = true := by
    by_contra closed
    rw [(accounted.closed (by simpa using closed)).1] at held
    cases held
  have returned := accounted.unuse isOpen held rfl camera.filling
  have nowFree : (camera.buffers.modify index (setInUse false))[index]? =
      some ⟨some memHandle, false⟩ := getElem?_modify_self held _
  rcases exists_empty_lower
    (by
      rw [countP_full_setInUse held, accounted.allowed isOpen]
      exact high) nowFree rfl with ⟨empty, search, lower⟩
  rcases moveDown_spec nowFree search returned.used with
    ⟨atEmpty, differs, moved⟩
  have unchanged : camera.buffers[empty]? = some ⟨none, false⟩ := by
    rw [← atEmpty, List.getElem?_modify_ne _ _ differs.symm]
  refine ⟨empty, lower, unchanged, ?_⟩
  have result : (doneWithFrame camera ⟨index, some sent⟩).buffers =
      moveDown (camera.buffers.modify index (setInUse false)) index := by
    unfold doneWithFrame
    rw [if_neg (by rw [isOpen]; decide), if_neg (fun same => nomatch same),
      held]
    dsimp only
    rw [if_neg (by decide), if_pos high]
    rfl
  dsimp only
  rw [result, moved]
  constructor
  · rw [List.getElem?_modify_ne _ _ differs.symm,
      getElem?_modify_self atEmpty]
  · refine @getElem?_modify_self _ _ ⟨some memHandle, false⟩ ?_ _
    rw [List.getElem?_modify_ne _ _ differs]
    exact nowFree

/-- The last buffer in use moves from the second record to the first. -/
theorem returned_buffer_moves_down_shrunk :
    ∃ lower < 1,
      (run true (twoSent ++ shrunk)).buffers[lower]? = some ⟨none, false⟩ ∧
        let returned :=
          doneWithFrame (run true (twoSent ++ shrunk)) ⟨1, some 8⟩
        returned.buffers[lower]? = some ⟨some 8, false⟩ ∧
          returned.buffers[1]? = some ⟨none, false⟩ := by
  have admitted : Admitted step admits (EvsV4lCamera.new true)
      (twoSent ++ shrunk) := by decide
  exact returned_buffer_moves_down admitted (by decide) (by decide)

end Anbox.Evs.CaptureInvariants
