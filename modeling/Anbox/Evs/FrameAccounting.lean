import Anbox.Evs.FrameSharing
import Mathlib.Algebra.Order.Ring.Nat
import Mathlib.Algebra.Order.BigOperators.Group.List

/-!
# Every frame is returned once

While clients hold a frame, the count in its record is the number of their
shares and the hardware does not get it back; it does when the last share is
given back.

This is said of one frame id.  The empty frame that ends a stream has an id as
well and is recorded under it, so the id must not be that of an empty frame.
-/

namespace Anbox.Evs.FrameAccounting

open Anbox.Evs.CaptureBuffers (BufferDesc)
open Anbox.Evs.FrameSharing
open Anbox.Foundation.Runs

variable {frameId : Nat} {camera next : HalCamera}

/-! ## Records -/

/-- No record of the frame is in use. -/
def Unused (frameId : Nat) (frames : List FrameRecord) : Prop :=
  ∀ record ∈ frames, record.frameId = frameId → record.refCount = 0

/-- The first record of the frame has all the shares. -/
def Recorded (frameId share : Nat) : List FrameRecord → Prop
  | [] => share = 0
  | record :: frames =>
      if record.frameId = frameId then
        record.refCount = share ∧ Unused frameId frames
      else Recorded frameId share frames

theorem unused_cons {record : FrameRecord} {frames : List FrameRecord} :
    Unused frameId (record :: frames) ↔
      (record.frameId = frameId → record.refCount = 0) ∧
        Unused frameId frames :=
  List.forall_mem_cons

theorem recorded_zero {frames : List FrameRecord} :
    Recorded frameId 0 frames ↔ Unused frameId frames := by
  induction frames with
  | nil => exact ⟨fun _ _ member => (nomatch member), fun _ => rfl⟩
  | cons record frames inductionHypothesis =>
      rw [Recorded, unused_cons]
      split
      · next isIt => exact and_congr_left fun _ => (imp_iff_right isIt).symm
      · next isNot =>
        exact inductionHypothesis.trans
          (and_iff_right fun isIt => absurd isIt isNot).symm

theorem unused_recordFrame {other deliveries : Nat}
    {frames : List FrameRecord} (unused : Unused frameId frames)
    (differs : other ≠ frameId) :
    Unused frameId (recordFrame other deliveries frames) := by
  induction frames with
  | nil =>
      intro record member isIt
      rw [List.mem_singleton.mp member] at isIt
      exact absurd isIt differs
  | cons record frames inductionHypothesis =>
      rcases unused_cons.mp unused with ⟨first, rest⟩
      rw [recordFrame]
      split
      · exact unused_cons.mpr
          ⟨fun isIt => absurd isIt differs, rest⟩
      · exact unused_cons.mpr ⟨first, inductionHypothesis rest⟩

/-- A frame that has no shares is recorded with those it gets. -/
theorem recorded_recordFrame {deliveries : Nat} {frames : List FrameRecord}
    (unused : Unused frameId frames) :
    Recorded frameId deliveries (recordFrame frameId deliveries frames) := by
  induction frames with
  | nil =>
      rw [recordFrame, Recorded, if_pos rfl]
      exact ⟨rfl, fun _ member => nomatch member⟩
  | cons record frames inductionHypothesis =>
      rcases unused_cons.mp unused with ⟨first, rest⟩
      rw [recordFrame]
      split
      · rw [Recorded, if_pos rfl]
        exact ⟨rfl, rest⟩
      · next used =>
        rw [Recorded, if_neg fun isIt => used (first isIt)]
        exact inductionHypothesis rest

theorem recorded_recordFrame_other {share other deliveries : Nat}
    {frames : List FrameRecord} (recorded : Recorded frameId share frames)
    (differs : other ≠ frameId) :
    Recorded frameId share (recordFrame other deliveries frames) := by
  induction frames with
  | nil =>
      rw [recordFrame, Recorded, if_neg differs]
      exact recorded
  | cons record frames inductionHypothesis =>
      rw [Recorded] at recorded
      rw [recordFrame]
      split
      · next free =>
        rw [Recorded, if_neg differs]
        split at recorded
        · rw [← recorded.1, free]
          exact recorded_zero.mpr recorded.2
        · exact recorded
      · rw [Recorded]
        split at recorded
        · next isIt =>
          rw [if_pos isIt]
          exact ⟨recorded.1, unused_recordFrame recorded.2 differs⟩
        · next isNot =>
          rw [if_neg isNot]
          exact inductionHypothesis recorded

/-- One share is given back, and it is seen whether it was the last one. -/
theorem recorded_releaseRecord {share : Nat} {frames : List FrameRecord}
    (recorded : Recorded frameId (share + 1) frames) :
    Recorded frameId share (releaseRecord frameId frames).1 ∧
      (releaseRecord frameId frames).2 = decide (share = 0) := by
  induction frames with
  | nil => cases recorded
  | cons record frames inductionHypothesis =>
      rw [Recorded] at recorded
      rw [releaseRecord]
      split at recorded
      · next isIt =>
        rw [if_pos isIt, recorded.1]
        refine ⟨?_, rfl⟩
        rw [Recorded, if_pos isIt]
        exact ⟨rfl, recorded.2⟩
      · next isNot =>
        rw [if_neg isNot]
        rcases inductionHypothesis recorded with ⟨rest, last⟩
        refine ⟨?_, last⟩
        rw [Recorded, if_neg isNot]
        exact rest

theorem unused_releaseRecord {other : Nat} {frames : List FrameRecord}
    (unused : Unused frameId frames) (differs : other ≠ frameId) :
    Unused frameId (releaseRecord other frames).1 := by
  induction frames with
  | nil => exact unused
  | cons record frames inductionHypothesis =>
      rcases unused_cons.mp unused with ⟨first, rest⟩
      rw [releaseRecord]
      split
      · next isOther =>
        exact unused_cons.mpr
          ⟨fun isIt => absurd (isOther.symm.trans isIt) differs, rest⟩
      · exact unused_cons.mpr ⟨first, inductionHypothesis rest⟩

theorem recorded_releaseRecord_other {share other : Nat}
    {frames : List FrameRecord} (recorded : Recorded frameId share frames)
    (differs : other ≠ frameId) :
    Recorded frameId share (releaseRecord other frames).1 := by
  induction frames with
  | nil => exact recorded
  | cons record frames inductionHypothesis =>
      rw [Recorded] at recorded
      rw [releaseRecord]
      split
      · next isOther =>
        have isNot : ¬record.frameId = frameId := fun isIt =>
          differs (isOther.symm.trans isIt)
        rw [if_neg isNot] at recorded
        rw [Recorded, if_neg isNot]
        exact recorded
      · rw [Recorded]
        split at recorded
        · next isIt =>
          rw [if_pos isIt]
          exact ⟨recorded.1, unused_releaseRecord recorded.2 differs⟩
        · next isNot =>
          rw [if_neg isNot]
          exact inductionHypothesis recorded

/-- Records that are not in use can be dropped. -/
theorem recorded_compacted {share : Nat} {frames : List FrameRecord}
    (recorded : Recorded frameId share frames) :
    Recorded frameId share
      (frames.filter fun record => 0 < record.refCount) := by
  induction frames with
  | nil => exact recorded
  | cons record frames inductionHypothesis =>
      rw [Recorded] at recorded
      split at recorded
      · next isIt =>
        have rest : Unused frameId
            (frames.filter fun record => 0 < record.refCount) :=
          fun other member => recorded.2 other (List.mem_filter.mp member).1
        by_cases used : 0 < record.refCount
        · rw [List.filter_cons_of_pos (by simpa using used), Recorded,
            if_pos isIt]
          exact ⟨recorded.1, rest⟩
        · rw [List.filter_cons_of_neg (by simpa using used), ← recorded.1,
            Nat.eq_zero_of_not_pos used]
          exact recorded_zero.mpr rest
      · next isNot =>
        by_cases used : 0 < record.refCount
        · rw [List.filter_cons_of_pos (by simpa using used), Recorded,
            if_neg isNot]
          exact inductionHypothesis recorded
        · rw [List.filter_cons_of_neg (by simpa using used)]
          exact inductionHypothesis recorded

/-! ## Shares -/

def carries (frameId : Nat) (buffer : BufferDesc) : Bool :=
  buffer.bufferId = frameId

/-- How often a client holds the frame. -/
def held (frameId : Nat) (client : VirtualCamera) : Nat :=
  client.framesHeld.countP (carries frameId)

/-- How often clients hold the frame, or held it when they were gone. -/
def share (frameId : Nat) (camera : HalCamera) : Nat :=
  (camera.clients.map (held frameId)).sum +
    camera.gone.countP (carries frameId)

/-- The frame has a number of shares, and it is out if that is not zero. -/
structure Counted (frameId share : Nat) (camera : HalCamera) : Prop where
  recorded : Recorded frameId share camera.frames
  balance :
    camera.delivered.countP (carries frameId) =
      camera.returned.countP (carries frameId) + min 1 share

/-- The numbers of the clients are different and have been used. -/
structure Numbered (camera : HalCamera) : Prop where
  nodup : (camera.clients.map VirtualCamera.id).Nodup
  below : ∀ client ∈ camera.clients, client.id < camera.opened

/-- What is true of the camera between any two calls. -/
structure Shared (frameId : Nat) (camera : HalCamera) : Prop where
  numbered : Numbered camera
  counted : Counted frameId (share frameId camera) camera

theorem shared_new (frameId : Nat) : Shared frameId HalCamera.new :=
  ⟨⟨List.nodup_nil, fun _ member => nomatch member⟩, ⟨rfl, rfl⟩⟩

/-- `doneWithFrame` gives one share of its frame back. -/
theorem Counted.doneWithFrame {share : Nat} {buffer : BufferDesc}
    (counted :
      Counted frameId (share + if carries frameId buffer then 1 else 0)
        camera) :
    Counted frameId share (camera.doneWithFrame buffer) := by
  rw [HalCamera.doneWithFrame]
  by_cases isIt : buffer.bufferId = frameId
  · have carried : carries frameId buffer = true := decide_eq_true isIt
    rw [carried, if_pos rfl] at counted
    rcases recorded_releaseRecord counted.recorded with ⟨released, last⟩
    have balance := counted.balance
    rw [isIt]
    dsimp only
    refine ⟨released, ?_⟩
    dsimp only
    rw [last]
    by_cases none : share = 0
    · rw [if_pos (decide_eq_true none), List.countP_append,
        List.countP_singleton, if_pos carried]
      omega
    · rw [if_neg (by simpa using none)]
      omega
  · have notCarried : carries frameId buffer = false := decide_eq_false isIt
    rw [notCarried, if_neg (by decide), Nat.add_zero] at counted
    refine ⟨recorded_releaseRecord_other counted.recorded isIt, ?_⟩
    dsimp only
    rw [counted.balance]
    split
    · rw [List.countP_append, List.countP_singleton, notCarried]
      rfl
    · rfl

/-- All frames of a list are given back. -/
theorem Counted.doneWithFrames {share : Nat} {buffers : List BufferDesc}
    (counted :
      Counted frameId (share + buffers.countP (carries frameId)) camera) :
    Counted frameId share
      (buffers.foldl HalCamera.doneWithFrame camera) := by
  induction buffers generalizing camera with
  | nil => exact counted
  | cons buffer buffers inductionHypothesis =>
      apply inductionHypothesis
      apply Counted.doneWithFrame
      rw [List.countP_cons, ← Nat.add_assoc] at counted
      exact counted

/-- What `doneWithFrame` leaves alone. -/
theorem clients_doneWithFrames (buffers : List BufferDesc)
    (camera : HalCamera) :
    let done := buffers.foldl HalCamera.doneWithFrame camera
    done.clients = camera.clients ∧ done.gone = camera.gone ∧
      done.opened = camera.opened := by
  induction buffers generalizing camera with
  | nil => exact ⟨rfl, rfl, rfl⟩
  | cons buffer buffers inductionHypothesis =>
      exact inductionHypothesis (camera.doneWithFrame buffer)

theorem Counted.changeFramesInFlight {share : Nat}
    (counted : Counted frameId share camera) (granted : Bool) :
    Counted frameId share
      (FrameSharing.changeFramesInFlight camera granted) := by
  rw [FrameSharing.changeFramesInFlight]
  split
  · exact ⟨recorded_compacted counted.recorded, counted.balance⟩
  · exact counted

/-! ## Sums over clients -/

section

variable {clients : List VirtualCamera} {client : VirtualCamera} {id : Nat}

theorem id_of_find? (found : clients.find? (fun other => other.id = id) =
    some client) : client.id = id := by
  simpa using List.find?_some found

/-- Only one client changes. -/
theorem sum_modify (nodup : (clients.map VirtualCamera.id).Nodup)
    (found : clients.find? (fun other => other.id = id) = some client)
    (change : VirtualCamera → VirtualCamera) (count : VirtualCamera → Nat) :
    ((clients.map fun other =>
          if other.id = id then change other else other).map count).sum +
        count client =
      (clients.map count).sum + count (change client) := by
  induction clients with
  | nil => cases found
  | cons head tail inductionHypothesis =>
      rcases List.nodup_cons.mp nodup with ⟨notLater, later⟩
      by_cases isHead : head.id = id
      · rw [List.find?_cons_of_pos (by simpa using isHead)] at found
        obtain rfl := Option.some.inj found
        have others : (tail.map fun other =>
            if other.id = id then change other else other) = tail := by
          conv_rhs => rw [← List.map_id tail]
          apply List.map_congr_left
          intro other member
          rw [if_neg]
          · rfl
          · intro same
            exact notLater
              (isHead.trans same.symm ▸ List.mem_map_of_mem member)
        rw [List.map_cons, if_pos isHead, others, List.map_cons,
          List.sum_cons, List.map_cons, List.sum_cons]
        omega
      · rw [List.find?_cons_of_neg (by simpa using isHead)] at found
        have rest := inductionHypothesis later found
        rw [List.map_cons, if_neg isHead, List.map_cons, List.sum_cons,
          List.map_cons, List.sum_cons]
        omega

/-- Only one client is removed. -/
theorem sum_remove (nodup : (clients.map VirtualCamera.id).Nodup)
    (found : clients.find? (fun other => other.id = id) = some client)
    (count : VirtualCamera → Nat) :
    ((clients.filter fun other => other.id ≠ id).map count).sum +
        count client =
      (clients.map count).sum := by
  induction clients with
  | nil => cases found
  | cons head tail inductionHypothesis =>
      rcases List.nodup_cons.mp nodup with ⟨notLater, later⟩
      by_cases isHead : head.id = id
      · rw [List.find?_cons_of_pos (by simpa using isHead)] at found
        obtain rfl := Option.some.inj found
        have others : (tail.filter fun other => other.id ≠ id) = tail := by
          apply List.filter_eq_self.mpr
          intro other member
          rw [decide_eq_true_eq]
          intro same
          exact notLater (isHead.trans same.symm ▸ List.mem_map_of_mem member)
        rw [List.filter_cons_of_neg (by simpa using isHead), others,
          List.map_cons, List.sum_cons]
        omega
      · rw [List.find?_cons_of_neg (by simpa using isHead)] at found
        have rest := inductionHypothesis later found
        rw [List.filter_cons_of_pos (by simpa using isHead), List.map_cons,
          List.sum_cons, List.map_cons, List.sum_cons]
        omega

end

/-! ## Steps -/

/-- What a client does with a frame that is delivered. -/
theorem deliverFrame_client {client served : VirtualCamera}
    {buffer : BufferDesc} {took : Bool}
    (delivered : client.deliverFrame buffer = some (served, took)) :
    served.id = client.id ∧
      held frameId served =
        held frameId client +
          if buffer.memHandle ≠ none ∧ carries frameId buffer ∧ took then 1
          else 0 := by
  unfold VirtualCamera.deliverFrame at delivered
  split at delivered
  · next empty =>
    split at delivered
    · cases delivered
      rw [if_neg fun all => all.1 empty]
      exact ⟨rfl, rfl⟩
    · cases delivered
  · next handle =>
    split at delivered
    · cases delivered
      rw [if_neg fun all => nomatch all.2.2]
      exact ⟨rfl, rfl⟩
    · split at delivered
      · cases delivered
        rw [if_neg fun all => nomatch all.2.2]
        exact ⟨rfl, rfl⟩
      · split at delivered
        · cases delivered
          refine ⟨rfl, ?_⟩
          rw [held, List.countP_append, List.countP_singleton]
          congr 1
          by_cases carried : carries frameId buffer = true
          · rw [if_pos carried, if_pos ⟨handle, carried, rfl⟩]
          · rw [if_neg carried, if_neg fun all => carried all.2.1]
        · cases delivered

/-- All clients get the frame, and those that took it hold it. -/
theorem deliverToClients_spec {buffer : BufferDesc}
    {clients served : List VirtualCamera} {deliveries : Nat}
    (delivered :
      deliverToClients buffer clients = some (served, deliveries)) :
    served.map VirtualCamera.id = clients.map VirtualCamera.id ∧
      (served.map (held frameId)).sum =
        (clients.map (held frameId)).sum +
          if buffer.memHandle ≠ none ∧ carries frameId buffer then deliveries
          else 0 := by
  induction clients generalizing served deliveries with
  | nil =>
      cases delivered
      rw [ite_self]
      exact ⟨rfl, rfl⟩
  | cons client clients inductionHypothesis =>
      rcases Option.bind_eq_some_iff.mp delivered with
        ⟨⟨first, took⟩, firstServed, rest⟩
      rcases Option.bind_eq_some_iff.mp rest with
        ⟨⟨others, more⟩, othersServed, same⟩
      cases same
      rcases @deliverFrame_client frameId _ _ _ _ firstServed with
        ⟨sameId, more⟩
      rcases inductionHypothesis othersServed with ⟨sameIds, sum⟩
      refine ⟨?_, ?_⟩
      · rw [List.map_cons, List.map_cons, sameId, sameIds]
      · rw [List.map_cons, List.sum_cons, List.map_cons, List.sum_cons, sum,
          more]
        by_cases counts : buffer.memHandle ≠ none ∧ carries frameId buffer
        · rw [if_pos counts, if_pos counts]
          cases took with
          | true =>
              rw [if_pos ⟨counts.1, counts.2, rfl⟩, if_pos rfl]
              omega
          | false =>
              rw [if_neg fun all => (nomatch all.2.2), if_neg (by decide)]
              omega
        · rw [if_neg counts, if_neg counts,
            if_neg fun all => counts ⟨all.1, all.2.1⟩]
          omega

/-- The hardware does not have the frame out. -/
def NotOut (frameId : Nat) (camera : HalCamera) : Prop :=
  camera.delivered.countP (carries frameId) =
    camera.returned.countP (carries frameId)

/--
A hardware camera does not deliver a frame that it has out, and empty frames
have other ids.
-/
def admits (frameId : Nat) (camera : HalCamera) : Event → Prop
  | .deliverFrame buffer =>
      buffer.bufferId = frameId →
        buffer.memHandle ≠ none ∧ NotOut frameId camera
  | _ => True

theorem Shared.deliverFrame (shared : Shared frameId camera)
    {buffer : BufferDesc}
    (admitted : admits frameId camera (.deliverFrame buffer))
    (delivered : camera.deliverFrame buffer = some next) :
    Shared frameId next := by
  rcases Option.bind_eq_some_iff.mp delivered with
    ⟨⟨served, deliveries⟩, toClients, result⟩
  rcases @deliverToClients_spec frameId _ _ _ _ toClients with
    ⟨sameIds, sum⟩
  have numbered : Numbered { camera with clients := served } := by
    refine ⟨sameIds ▸ shared.numbered.nodup, fun client member => ?_⟩
    have isOne : client.id ∈ camera.clients.map VirtualCamera.id :=
      sameIds ▸ List.mem_map_of_mem member
    rcases List.mem_map.mp isOne with ⟨before, beforeMember, sameId⟩
    exact sameId ▸ shared.numbered.below before beforeMember
  have recorded := shared.counted.recorded
  have balance := shared.counted.balance
  by_cases isIt : buffer.bufferId = frameId
  · rcases admitted isIt with ⟨handle, notOut⟩
    have carried : carries frameId buffer = true := decide_eq_true isIt
    rw [if_pos ⟨handle, carried⟩] at sum
    rw [notOut] at balance
    have nothing : share frameId camera = 0 := by omega
    rw [nothing] at recorded
    have newShare : (served.map (held frameId)).sum +
        camera.gone.countP (carries frameId) = deliveries := by
      rw [share] at nothing
      omega
    dsimp only at result
    split at result
    · next none =>
      cases result
      refine ⟨⟨numbered.nodup, numbered.below⟩, ⟨?_, ?_⟩⟩
      · rw [share]
        dsimp only
        rw [newShare, Nat.lt_one_iff.mp none]
        exact recorded
      · rw [share]
        dsimp only
        rw [newShare, List.countP_append, List.countP_append, notOut,
          Nat.lt_one_iff.mp none]
        omega
    · next some =>
      cases result
      refine ⟨⟨numbered.nodup, numbered.below⟩, ⟨?_, ?_⟩⟩
      · rw [share]
        dsimp only
        rw [newShare, isIt]
        exact recorded_recordFrame (recorded_zero.mp recorded)
      · rw [share]
        dsimp only
        rw [newShare, List.countP_append, notOut, List.countP_singleton,
          if_pos carried]
        omega
  · have notCarried : carries frameId buffer = false := decide_eq_false isIt
    rw [if_neg fun both => isIt (by simpa [carries] using both.2)] at sum
    have sameShare : (served.map (held frameId)).sum +
        camera.gone.countP (carries frameId) = share frameId camera := by
      rw [sum, share, Nat.add_zero]
    dsimp only at result
    split at result
    · cases result
      refine ⟨⟨numbered.nodup, numbered.below⟩, ⟨?_, ?_⟩⟩
      · rw [share]
        dsimp only
        rw [sameShare]
        exact recorded
      · rw [share]
        dsimp only
        rw [sameShare, List.countP_append, List.countP_append,
          List.countP_singleton, notCarried, if_neg (by decide)]
        exact balance
    · cases result
      refine ⟨⟨numbered.nodup, numbered.below⟩, ⟨?_, ?_⟩⟩
      · rw [share]
        dsimp only
        rw [sameShare]
        exact recorded_recordFrame_other recorded isIt
      · rw [share]
        dsimp only
        rw [sameShare, List.countP_append, List.countP_singleton, notCarried,
          if_neg (by decide)]
        exact balance

/-- What keeps the shares keeps what is true between calls. -/
theorem shared_of_share (numbered : Numbered next)
    (sameShare : share frameId next = share frameId camera)
    (counted : Counted frameId (share frameId camera) next) :
    Shared frameId next := by
  refine ⟨numbered, ?_⟩
  rw [sameShare]
  exact counted

theorem Numbered.modifyClient (numbered : Numbered camera) {id : Nat}
    {change : VirtualCamera → VirtualCamera}
    (sameId : ∀ client, client.id = id → (change client).id = id) :
    Numbered (camera.modifyClient id change) := by
  have ids : ∀ client : VirtualCamera,
      (if client.id = id then change client else client).id = client.id := by
    intro client
    split
    · next isIt => exact (sameId client isIt).trans isIt.symm
    · rfl
  have sameIds : (camera.modifyClient id change).clients.map
      VirtualCamera.id = camera.clients.map VirtualCamera.id := by
    rw [HalCamera.modifyClient, List.map_map]
    exact List.map_congr_left fun client _ => ids client
  refine ⟨sameIds ▸ numbered.nodup, fun client member => ?_⟩
  · rcases List.mem_map.mp member with ⟨before, beforeMember, rfl⟩
    rw [ids before]
    exact numbered.below before beforeMember

theorem Numbered.removeClient (numbered : Numbered camera) (id : Nat) :
    Numbered (camera.removeClient id) :=
  ⟨numbered.nodup.sublist (List.filter_sublist.map _),
    fun client member => numbered.below client (List.mem_of_mem_filter member)⟩

theorem share_changeFramesInFlight (camera : HalCamera) (granted : Bool) :
    share frameId (changeFramesInFlight camera granted) =
        share frameId camera ∧
      (changeFramesInFlight camera granted).clients = camera.clients ∧
      (changeFramesInFlight camera granted).opened = camera.opened := by
  rw [changeFramesInFlight]
  split
  · exact ⟨rfl, rfl, rfl⟩
  · exact ⟨rfl, rfl, rfl⟩

theorem Shared.changeFramesInFlight (shared : Shared frameId camera)
    (granted : Bool) :
    Shared frameId (FrameSharing.changeFramesInFlight camera granted) := by
  rcases @share_changeFramesInFlight frameId camera granted with
    ⟨sameShare, sameClients, sameOpened⟩
  refine shared_of_share ⟨?_, ?_⟩ sameShare
    (shared.counted.changeFramesInFlight granted)
  · rw [sameClients]
    exact shared.numbered.nodup
  · rw [sameClients, sameOpened]
    exact shared.numbered.below

/-- One client changes without taking or giving back a frame. -/
theorem Shared.modifyClient (shared : Shared frameId camera) {id : Nat}
    {change : VirtualCamera → VirtualCamera}
    (sameId : ∀ client, client.id = id → (change client).id = id)
    (sameHeld :
      ∀ client ∈ camera.clients, client.id = id →
        held frameId (change client) = held frameId client) :
    Shared frameId (camera.modifyClient id change) := by
  refine shared_of_share (shared.numbered.modifyClient sameId) ?_
    ⟨shared.counted.recorded, shared.counted.balance⟩
  have sameSum : (camera.modifyClient id change).clients.map (held frameId) =
      camera.clients.map (held frameId) := by
    rw [HalCamera.modifyClient, List.map_map]
    apply List.map_congr_left
    intro client member
    rw [Function.comp_apply]
    split
    · next isIt => exact sameHeld client member isIt
    · rfl
  rw [share, share, sameSum]
  rfl

theorem Shared.makeVirtualCamera (shared : Shared frameId camera)
    (granted : Bool) :
    Shared frameId (FrameSharing.makeVirtualCamera camera granted) := by
  rw [FrameSharing.makeVirtualCamera]
  split
  case isFalse => exact shared
  case isTrue =>
    have changed := shared.changeFramesInFlight granted
    rcases @share_changeFramesInFlight frameId camera granted with
      ⟨-, sameClients, sameOpened⟩
    refine shared_of_share ⟨?_, ?_⟩ ?_ ⟨changed.counted.recorded,
      changed.counted.balance⟩
    · dsimp only
      rw [List.map_append, sameClients]
      refine List.nodup_append.mpr ⟨shared.numbered.nodup,
        List.nodup_singleton _, ?_⟩
      intro id member other isNew same
      rcases List.mem_map.mp member with ⟨client, isClient, rfl⟩
      have below := shared.numbered.below client isClient
      rw [same, List.mem_singleton.mp isNew] at below
      exact Nat.lt_irrefl _ below
    · intro client member
      dsimp only at member ⊢
      rw [sameClients] at member
      rcases List.mem_append.mp member with old | new
      · exact Nat.lt_succ_of_lt (shared.numbered.below client old)
      · rw [List.mem_singleton.mp new]
        exact Nat.lt_succ_self _
    · rw [share, share]
      dsimp only
      rw [List.map_append, List.sum_append]
      rfl

/-- A client that is shut down gives its frames back or takes them along. -/
theorem Shared.shutdownClient (shared : Shared frameId camera) {id : Nat}
    {client stopped : VirtualCamera}
    (found : camera.findClient id = some client)
    (sameHeld : stopped.framesHeld = client.framesHeld) :
    Shared frameId
      (FrameSharing.shutdownClient (camera.removeClient id) stopped).1 := by
  have less := sum_remove shared.numbered.nodup found (held frameId)
  have remaining :
      ((camera.removeClient id).clients.map (held frameId)).sum +
          held frameId client =
        (camera.clients.map (held frameId)).sum := less
  have numbered := shared.numbered.removeClient id
  have counted : Counted frameId
      (share frameId (camera.removeClient id) + held frameId client)
      (camera.removeClient id) := by
    have sameShare : share frameId (camera.removeClient id) +
        held frameId client = share frameId camera := by
      rw [share, share, ← remaining]
      change _ + camera.gone.countP (carries frameId) + _ = _
      omega
    rw [sameShare]
    exact ⟨shared.counted.recorded, shared.counted.balance⟩
  rw [FrameSharing.shutdownClient]
  split
  · rw [sameHeld]
    rcases clients_doneWithFrames client.framesHeld
      (camera.removeClient id) with ⟨sameClients, sameGone, sameOpened⟩
    have returned := counted.doneWithFrames
    refine ⟨⟨?_, ?_⟩, ?_⟩
    · dsimp only
      rw [sameClients]
      exact numbered.nodup
    · dsimp only
      rw [sameClients, sameOpened]
      exact numbered.below
    · dsimp only
      rw [share, sameClients, sameGone]
      exact returned
  · refine ⟨⟨numbered.nodup, numbered.below⟩, ?_⟩
    dsimp only
    rw [share, sameHeld, List.countP_append, ← Nat.add_assoc]
    exact ⟨counted.recorded, counted.balance⟩

/-- A client gives a frame back. -/
theorem Shared.clientDoneWithFrame (shared : Shared frameId camera)
    {id : Nat} {client : VirtualCamera}
    (found : camera.findClient id = some client) (buffer : BufferDesc) :
    Shared frameId
      (FrameSharing.clientDoneWithFrame camera client buffer) := by
  have sameId := id_of_find? found
  rw [FrameSharing.clientDoneWithFrame]
  split
  · exact shared
  · split
    case isFalse => exact shared
    case isTrue holds =>
      generalize changed : camera.modifyClient client.id (fun client =>
        { client with
          framesHeld :=
            client.framesHeld.eraseP fun held =>
              held.bufferId = buffer.bufferId }) = modified
      have numbered : Numbered modified :=
        changed ▸ shared.numbered.modifyClient fun _ isIt => isIt
      have erased : (client.framesHeld.eraseP fun held =>
            held.bufferId = buffer.bufferId).countP (carries frameId) +
            (if carries frameId buffer then 1 else 0) =
          held frameId client := by
        rcases List.any_eq_true.mp holds with ⟨one, member, isOne⟩
        rcases @List.exists_of_eraseP _
            (fun held => held.bufferId = buffer.bufferId) _ one member
            isOne with
          ⟨first, before, after, -, isFirst, split, rest⟩
        rw [held, rest, split, List.countP_append, List.countP_append,
          List.countP_cons]
        have sameFrame : carries frameId first = carries frameId buffer := by
          rw [carries, carries, of_decide_eq_true isFirst]
        rw [sameFrame]
        omega
      have less := sum_modify shared.numbered.nodup
        (sameId ▸ found) (fun client =>
          { client with
            framesHeld :=
              client.framesHeld.eraseP fun held =>
                held.bufferId = buffer.bufferId }) (held frameId)
      have sameShare : share frameId modified +
          (if carries frameId buffer then 1 else 0) =
          share frameId camera := by
        rw [← changed, share, share, HalCamera.modifyClient]
        dsimp only at less ⊢
        change _ = _ + (client.framesHeld.eraseP fun held =>
            held.bufferId = buffer.bufferId).countP (carries frameId) at less
        omega
      have counted : Counted frameId (share frameId modified +
          if carries frameId buffer then 1 else 0) modified := by
        rw [sameShare, ← changed]
        exact ⟨shared.counted.recorded, shared.counted.balance⟩
      have returned := counted.doneWithFrame
      exact ⟨⟨numbered.nodup, numbered.below⟩, returned⟩

/-- To stop a stream takes no frame from the client. -/
theorem stopVideoStream_client {client stopped : VirtualCamera}
    (isStopped : client.stopVideoStream = some stopped) :
    stopped.id = client.id ∧ stopped.framesHeld = client.framesHeld := by
  rw [VirtualCamera.stopVideoStream] at isStopped
  split at isStopped
  · split at isStopped
    · cases isStopped
      exact ⟨rfl, rfl⟩
    · cases isStopped
  · cases isStopped
    exact ⟨rfl, rfl⟩

theorem startVideoStream_client (client : VirtualCamera)
    (stream started : Bool) :
    (client.startVideoStream stream started).id = client.id ∧
      (client.startVideoStream stream started).framesHeld =
        client.framesHeld := by
  rw [VirtualCamera.startVideoStream]
  split
  · exact ⟨rfl, rfl⟩
  · split
    · exact ⟨rfl, rfl⟩
    · exact ⟨rfl, rfl⟩

/-- A call of a client that is open. -/
theorem Shared.clientStep (shared : Shared frameId camera) {call : Call}
    {id : Nat} {client : VirtualCamera}
    (found : camera.findClient id = some client)
    (stepped : FrameSharing.clientStep camera client call = some next) :
    Shared frameId next := by
  obtain rfl := id_of_find? found
  have unique : ∀ other ∈ camera.clients, other.id = client.id →
      other = client := by
    intro other member isIt
    exact List.inj_on_of_nodup_map shared.numbered.nodup member
      (List.mem_of_find?_eq_some found) isIt
  cases call with
  | closeCamera granted =>
      rcases Option.bind_eq_some_iff.mp stepped with
        ⟨stopped, isStopped, result⟩
      have shut :=
        shared.shutdownClient found (stopVideoStream_client isStopped).2
      cases result
      have left : Shared frameId
          { (FrameSharing.shutdownClient (camera.removeClient client.id)
              stopped).1 with
            closed :=
              (FrameSharing.shutdownClient (camera.removeClient client.id)
                stopped).2 ::
                (FrameSharing.shutdownClient (camera.removeClient client.id)
                  stopped).1.closed } :=
        ⟨⟨shut.numbered.nodup, shut.numbered.below⟩,
          ⟨shut.counted.recorded, shut.counted.balance⟩⟩
      exact left.changeFramesInFlight granted
  | dies =>
      cases stepped
      exact shared.shutdownClient found rfl
  | setMaxFramesInFlight bufferCount granted =>
      cases stepped
      rw [setMaxFrames]
      split
      · exact (shared.changeFramesInFlight granted).modifyClient
          (fun _ isIt => isIt) fun _ _ _ => rfl
      · exact shared
  | startVideoStream stream started =>
      cases stepped
      refine shared.modifyClient (fun other isIt => ?_) fun other _ _ => ?_
      · exact (startVideoStream_client other stream started).1.trans isIt
      · rw [held, (startVideoStream_client other stream started).2]
        rfl
  | stopVideoStream =>
      rcases Option.bind_eq_some_iff.mp stepped with
        ⟨stopped, isStopped, result⟩
      cases result
      rcases stopVideoStream_client isStopped with ⟨sameId, sameHeld⟩
      refine shared.modifyClient (fun _ _ => sameId) ?_
      intro other member isIt
      rw [unique other member isIt, held, sameHeld]
      rfl
  | doneWithFrame buffer =>
      cases stepped
      exact shared.clientDoneWithFrame found buffer

/-- A call of a client that is closed changes nothing that counts. -/
theorem Shared.closedStep (shared : Shared frameId camera) {call : Call}
    {client : VirtualCamera}
    (stepped : FrameSharing.closedStep camera client call = some next) :
    Shared frameId next := by
  cases call with
  | closeCamera granted => cases stepped
  | setMaxFramesInFlight bufferCount granted => cases stepped
  | startVideoStream stream started => cases stepped
  | dies =>
      cases stepped
      exact ⟨⟨shared.numbered.nodup, shared.numbered.below⟩,
        ⟨shared.counted.recorded, shared.counted.balance⟩⟩
  | stopVideoStream =>
      cases stepped
      exact shared
  | doneWithFrame buffer =>
      rw [FrameSharing.closedStep] at stepped
      split at stepped
      · cases stepped
        exact shared
      · split at stepped
        · cases stepped
        · cases stepped
          exact shared

theorem Shared.step (shared : Shared frameId camera) {event : Event}
    (admitted : admits frameId camera event)
    (stepped : FrameSharing.step camera event = some next) :
    Shared frameId next := by
  cases event with
  | openCamera granted =>
      cases stepped
      exact shared.makeVirtualCamera granted
  | call id call =>
      rw [FrameSharing.step] at stepped
      split at stepped
      · next client found => exact shared.clientStep found stepped
      · split at stepped
        · exact shared.closedStep stepped
        · cases stepped
          exact shared
  | deliverFrame buffer => exact shared.deliverFrame admitted stepped

/-! ## Runs -/

instance (frameId : Nat) (camera : HalCamera) (event : Event) :
    Decidable (admits frameId camera event) :=
  match event with
  | .openCamera _ => isTrue trivial
  | .call _ _ => isTrue trivial
  | .deliverFrame buffer =>
      inferInstanceAs
        (Decidable (buffer.bufferId = frameId →
          buffer.memHandle ≠ none ∧ _ = _))

/-- Every call of the run is admitted by the camera that gets it. -/
def AdmittedRun (frameId : Nat) (start : Option HalCamera)
    (events : List Event) : Prop :=
  Admitted stepAfter
    (fun current event => ∀ camera ∈ current, admits frameId camera event)
    start events

instance (frameId : Nat) (start : Option HalCamera) (events : List Event) :
    Decidable (AdmittedRun frameId start events) :=
  inferInstanceAs (Decidable (Admitted _ _ _ _))

theorem shared_runFrom {start : Option HalCamera} {events : List Event}
    (initial : ∀ camera ∈ start, Shared frameId camera)
    (admitted : AdmittedRun frameId start events) :
    ∀ camera ∈ runFrom stepAfter start events, Shared frameId camera := by
  refine @Admitted.invariant _ _ stepAfter _
    (fun current => ∀ camera ∈ current, Shared frameId camera) ?_ _ _ initial
    admitted
  intro current event shared isAdmitted next stepped
  rcases Option.bind_eq_some_iff.mp stepped with ⟨camera, before, taken⟩
  exact (shared camera before).step (isAdmitted camera before) taken

theorem shared_run {events : List Event}
    (admitted : AdmittedRun frameId (some HalCamera.new) events)
    (reached : run events = some camera) : Shared frameId camera := by
  refine shared_runFrom ?_ admitted camera reached
  intro start isNew
  cases isNew
  exact shared_new frameId

/--
In every run the record of a frame counts the shares that clients have in it.
The hardware has the frame out exactly as long as there are any, so a frame
that a client holds has not been returned, and the hardware gets it back in
the call that gives the last share back.
-/
theorem frame_out_while_shared {events : List Event}
    (admitted : AdmittedRun frameId (some HalCamera.new) events)
    (reached : run events = some camera) :
    Recorded frameId (share frameId camera) camera.frames ∧
      camera.delivered.countP (carries frameId) =
        camera.returned.countP (carries frameId) +
          (if share frameId camera = 0 then 0 else 1) ∧
      ∀ client ∈ camera.clients, 0 < held frameId client →
        camera.delivered.countP (carries frameId) =
          camera.returned.countP (carries frameId) + 1 := by
  have shared := shared_run admitted reached
  have balance := shared.counted.balance
  refine ⟨shared.counted.recorded, ?_, ?_⟩
  · split
    · omega
    · omega
  · intro client member holds
    have part : held frameId client ≤
        (camera.clients.map (held frameId)).sum :=
      List.single_le_sum (fun _ _ => Nat.zero_le _) _
        (List.mem_map_of_mem member)
    have some : 1 ≤ share frameId camera := by
      rw [share]
      omega
    omega

/-- Two clients stream and get the frame 3, and one of them returns it. -/
def sharedByTwo : List Event :=
  [.openCamera true, .openCamera true, .call 0 (.startVideoStream true true),
    .call 1 (.startVideoStream true true), .deliverFrame ⟨3, some 7⟩,
    .call 0 (.doneWithFrame ⟨3, some 7⟩)]

/-- The frame has not been returned to the hardware. -/
theorem frame_out_while_shared_byTwo :
    ∃ camera, run sharedByTwo = some camera ∧
      camera.delivered.countP (carries 3) =
        camera.returned.countP (carries 3) + 1 := by
  have left : (run sharedByTwo).map (share 3) = some 1 := by decide
  rcases Option.map_eq_some_iff.mp left with ⟨camera, reached, one⟩
  have admitted : AdmittedRun 3 (some HalCamera.new) sharedByTwo := by
    decide
  have counted := (frame_out_while_shared admitted reached).2.1
  rw [one] at counted
  exact ⟨camera, reached, counted⟩

/-! ## Frames that are gone -/

/-- The frames that a step gets from the hardware. -/
def frames : Event → List BufferDesc
  | .openCamera _ => []
  | .call _ _ => []
  | .deliverFrame buffer => [buffer]

theorem history_changeFramesInFlight (camera : HalCamera) (granted : Bool) :
    (changeFramesInFlight camera granted).gone = camera.gone ∧
      (changeFramesInFlight camera granted).delivered = camera.delivered := by
  rw [changeFramesInFlight]
  split
  · exact ⟨rfl, rfl⟩
  · exact ⟨rfl, rfl⟩

theorem delivered_doneWithFrames (buffers : List BufferDesc)
    (camera : HalCamera) :
    (buffers.foldl HalCamera.doneWithFrame camera).delivered =
      camera.delivered := by
  induction buffers generalizing camera with
  | nil => rfl
  | cons buffer buffers inductionHypothesis =>
      exact inductionHypothesis (camera.doneWithFrame buffer)

theorem history_shutdownClient (camera : HalCamera) (client : VirtualCamera) :
    camera.gone <+: (shutdownClient camera client).1.gone ∧
      (shutdownClient camera client).1.delivered = camera.delivered := by
  rw [shutdownClient]
  split
  · dsimp only
    rw [(clients_doneWithFrames client.framesHeld camera).2.1]
    exact ⟨List.prefix_rfl, delivered_doneWithFrames _ _⟩
  · exact ⟨List.prefix_append _ _, rfl⟩

/-- What is gone stays gone, and only the hardware delivers. -/
theorem history_step {event : Event} (stepped : step camera event = some next) :
    camera.gone <+: next.gone ∧
      next.delivered = camera.delivered ++ frames event := by
  cases event with
  | openCamera granted =>
      cases stepped
      rw [makeVirtualCamera, frames, List.append_nil]
      split
      · rcases history_changeFramesInFlight camera granted with ⟨gone, same⟩
        dsimp only
        rw [gone, same]
        exact ⟨List.prefix_rfl, rfl⟩
      · exact ⟨List.prefix_rfl, rfl⟩
  | deliverFrame buffer =>
      rcases Option.bind_eq_some_iff.mp stepped with
        ⟨⟨served, deliveries⟩, -, result⟩
      dsimp only at result
      split at result
      · cases result
        exact ⟨List.prefix_rfl, rfl⟩
      · cases result
        exact ⟨List.prefix_rfl, rfl⟩
  | call id call =>
      rw [frames, List.append_nil]
      rw [step] at stepped
      split at stepped
      · next client found =>
        cases call with
        | closeCamera granted =>
            rcases Option.bind_eq_some_iff.mp stepped with
              ⟨stopped, -, result⟩
            cases result
            rcases history_shutdownClient (camera.removeClient client.id)
              stopped with ⟨gone, same⟩
            rw [(history_changeFramesInFlight _ granted).1,
              (history_changeFramesInFlight _ granted).2]
            exact ⟨gone, same⟩
        | dies =>
            cases stepped
            exact history_shutdownClient (camera.removeClient client.id)
              client
        | setMaxFramesInFlight bufferCount granted =>
            cases stepped
            rw [setMaxFrames]
            split
            · rcases history_changeFramesInFlight camera granted with
                ⟨gone, same⟩
              rw [HalCamera.modifyClient]
              dsimp only
              rw [gone, same]
              exact ⟨List.prefix_rfl, rfl⟩
            · exact ⟨List.prefix_rfl, rfl⟩
        | startVideoStream stream started =>
            cases stepped
            exact ⟨List.prefix_rfl, rfl⟩
        | stopVideoStream =>
            rcases Option.bind_eq_some_iff.mp stepped with
              ⟨stopped, -, result⟩
            cases result
            exact ⟨List.prefix_rfl, rfl⟩
        | doneWithFrame buffer =>
            cases stepped
            rw [clientDoneWithFrame]
            split
            · exact ⟨List.prefix_rfl, rfl⟩
            · split
              · exact ⟨List.prefix_rfl, rfl⟩
              · exact ⟨List.prefix_rfl, rfl⟩
      · split at stepped
        · next client found =>
          cases call with
          | closeCamera granted => cases stepped
          | setMaxFramesInFlight bufferCount granted => cases stepped
          | startVideoStream stream started => cases stepped
          | dies =>
              cases stepped
              exact ⟨List.prefix_rfl, rfl⟩
          | stopVideoStream =>
              cases stepped
              exact ⟨List.prefix_rfl, rfl⟩
          | doneWithFrame buffer =>
              rw [closedStep] at stepped
              split at stepped
              · cases stepped
                exact ⟨List.prefix_rfl, rfl⟩
              · split at stepped
                · cases stepped
                · cases stepped
                  exact ⟨List.prefix_rfl, rfl⟩
        · cases stepped
          exact ⟨List.prefix_rfl, rfl⟩

/-- While somebody took the frame along, it is out for good. -/
structure OutForGood (frameId delivered returned : Nat)
    (camera : HalCamera) : Prop where
  shared : Shared frameId camera
  gone : 0 < camera.gone.countP (carries frameId)
  delivered : camera.delivered.countP (carries frameId) = delivered
  returned : camera.returned.countP (carries frameId) = returned

theorem OutForGood.step {delivered returned : Nat}
    (out : OutForGood frameId delivered returned camera) {event : Event}
    (admitted : admits frameId camera event)
    (stepped : FrameSharing.step camera event = some next) :
    OutForGood frameId delivered returned next := by
  rcases history_step stepped with ⟨goneMore, sameDelivered⟩
  have shared := out.shared.step admitted stepped
  have gone : 0 < next.gone.countP (carries frameId) :=
    Nat.lt_of_lt_of_le out.gone goneMore.sublist.countP_le
  have before := out.shared.counted.balance
  have after := shared.counted.balance
  have some : 0 < share frameId camera := by
    have := out.gone
    rw [share]
    omega
  have still : 0 < share frameId next := by
    rw [share]
    omega
  have notIt : (frames event).countP (carries frameId) = 0 := by
    cases event with
    | openCamera granted => rfl
    | call id call => rfl
    | deliverFrame buffer =>
        have other : ¬buffer.bufferId = frameId := by
          intro isIt
          have notOut := (admitted isIt).2
          rw [NotOut] at notOut
          omega
        rw [frames, List.countP_singleton, carries, decide_eq_false other]
        rfl
  have kept : next.delivered.countP (carries frameId) = delivered := by
    rw [sameDelivered, List.countP_append, notIt, out.delivered]
    rfl
  have := out.delivered
  have := out.returned
  exact ⟨shared, gone, kept, by omega⟩

/--
A frame that a client held when it closed its camera, or died with its stream
stopped, never comes back to the hardware, which never delivers it again.
-/
theorem gone_frame_never_returned {events later : List Event}
    {last : HalCamera}
    (admitted :
      AdmittedRun frameId (some HalCamera.new) (events ++ later))
    (reached : run events = some camera)
    (gone : 0 < camera.gone.countP (carries frameId))
    (continued : run (events ++ later) = some last) :
    last.returned.countP (carries frameId) =
        camera.returned.countP (carries frameId) ∧
      last.delivered.countP (carries frameId) =
        camera.delivered.countP (carries frameId) ∧
      last.delivered.countP (carries frameId) =
        last.returned.countP (carries frameId) + 1 := by
  have first := shared_run
    (admitted.earlier (List.prefix_append events later)) reached
  have following : AdmittedRun frameId (some camera) later := by
    have rest := Admitted.later admitted
    change AdmittedRun frameId (run events) later at rest
    rwa [reached] at rest
  have always := @Admitted.invariant _ _ stepAfter _
    (fun current => ∀ camera' ∈ current,
      OutForGood frameId (camera.delivered.countP (carries frameId))
        (camera.returned.countP (carries frameId)) camera')
    (by
      intro current event out isAdmitted next stepped
      rcases Option.bind_eq_some_iff.mp stepped with ⟨before, isIt, taken⟩
      exact (out before isIt).step (isAdmitted before isIt) taken)
    _ _
    (by
      intro start isIt
      cases isIt
      exact ⟨first, gone, rfl, rfl⟩)
    following
  have isLast : runFrom stepAfter (some camera) later = some last := by
    rw [← continued, ← reached, run, run, runFrom_append]
  have out := always last isLast
  refine ⟨out.returned, out.delivered, ?_⟩
  have balance := out.shared.counted.balance
  have some : 0 < share frameId last := by
    have := out.gone
    rw [share]
    omega
  omega

/-- A client closes its camera with the frame in hand. -/
def closedWithFrame : List Event :=
  [.openCamera true, .call 0 (.startVideoStream true true),
    .deliverFrame ⟨3, some 7⟩, .call 0 (.closeCamera true)]

/-- Another client comes, but the frame does not come back. -/
theorem gone_frame_never_returned_closed :
    ∃ last,
      run (closedWithFrame ++
          [.openCamera true, .call 1 (.startVideoStream true true)]) =
        some last ∧
      last.returned.countP (carries 3) = 0 := by
  have gone : (run closedWithFrame).map (fun camera =>
      (camera.gone.countP (carries 3), camera.returned)) =
        some (1, []) := by decide
  rcases Option.map_eq_some_iff.mp gone with ⟨camera, reached, same⟩
  rcases Prod.mk.inj same with ⟨one, none⟩
  have continues : (run (closedWithFrame ++
      [.openCamera true, .call 1 (.startVideoStream true true)])).isSome := by
    decide
  rcases Option.isSome_iff_exists.mp continues with ⟨last, continued⟩
  have never := gone_frame_never_returned
    (by decide : AdmittedRun 3 (some HalCamera.new) (closedWithFrame ++
      [.openCamera true, .call 1 (.startVideoStream true true)]))
    reached (by omega) continued
  refine ⟨last, continued, never.1.trans ?_⟩
  rw [none]
  rfl

end Anbox.Evs.FrameAccounting
