import Anbox.Rpc.MessageProcessor

/-!
# Accesses to the receive buffer

The loop of `process_data` reads four bytes of the buffer whenever there is at
least one, and afterwards removes a range whose length it has read.  Here the
loop is run together with a record of the positions it touches and of the size
that the buffer has at that moment.
-/

namespace Anbox.Rpc.BufferBounds

open Anbox.Foundation.Framing
open Anbox.Rpc.MessageProcessor

/-! ## The loop with its accesses -/

/-- Positions from `first` to below `last` of a buffer of `size` bytes. -/
structure Access where
  first : Nat
  last : Nat
  size : Nat
deriving DecidableEq, Repr

def Access.Inside (access : Access) : Prop := access.last ≤ access.size

instance (access : Access) : Decidable access.Inside :=
  inferInstanceAs (Decidable (_ ≤ _))

/-- The access of `buffer_[position]`. -/
def indexed (buffer : List UInt8) (position : Nat) : Access :=
  ⟨position, position + 1, buffer.length⟩

/-- The four reads at the top of the loop, in their order. -/
def headerReads (buffer : List UInt8) : List Access :=
  [indexed buffer 0, indexed buffer 1, indexed buffer 2, indexed buffer 3]

/-- The payload is read only if the type of the message is known. -/
def payloadReads (buffer : List UInt8) (messageType : UInt8)
    (size : Nat) : List Access :=
  if messageType = MessageType.invocation ∨
      messageType = MessageType.response then
    [⟨headerSize, headerSize + size, buffer.length⟩]
  else []

/-- The range that is erased. -/
def erased (buffer : List UInt8) (size : Nat) : Access :=
  ⟨0, headerSize + size, buffer.length⟩

section

variable {World : Type} (protobuf : Protobuf) (handlers : Handlers World)
variable (past : Nat → Nat → UInt8)

/-- The size that the loop reads from the header. -/
def readSize (buffer : List UInt8) : Nat :=
  messageSize (readAt past buffer 0) (readAt past buffer 1)
    (readAt past buffer 2)

/-- The frame that the loop takes from the buffer. -/
def readFrame (buffer : List UInt8) : Frame :=
  ⟨readAt past buffer 3,
    (buffer.drop headerSize).take (readSize past buffer),
    Nat.lt_of_le_of_lt (List.length_take_le _ _) (messageSize_lt _ _ _)⟩

/-- `processLoop` with the accesses to the buffer. -/
def tracedLoop :
    Nat → Session World → List UInt8 →
      Outcome (Session World × List UInt8) × List Access
  | 0, session, buffer => (.returned (session, buffer), [])
  | fuel + 1, session, buffer =>
      if 0 < buffer.length then
        let size := readSize past buffer
        let messageType := readAt past buffer 3
        if buffer.length < size + headerSize then
          (.returned (session, buffer), headerReads buffer)
        else
          let reads :=
            headerReads buffer ++ payloadReads buffer messageType size
          match
            handleFrame protobuf handlers session (readFrame past buffer)
          with
          | .thrown next => (.thrown (next, buffer), reads)
          | .returned next =>
              let later :=
                tracedLoop fuel next (buffer.drop (headerSize + size))
              (later.1, reads ++ erased buffer size :: later.2)
      else (.returned (session, buffer), [])

/-- The record changes nothing of what the loop does. -/
theorem tracedLoop_fst (fuel : Nat) (session : Session World)
    (buffer : List UInt8) :
    (tracedLoop protobuf handlers past fuel session buffer).1 =
      processLoop protobuf handlers past fuel session buffer := by
  induction fuel generalizing session buffer with
  | zero => rfl
  | succ fuel inductionHypothesis =>
      simp only [tracedLoop, processLoop]
      split
      · split
        · rename_i short
          exact (if_pos short).symm
        · rename_i complete
          refine Eq.trans ?_ (if_neg complete).symm
          change _ = Outcome.andThen
            (handleFrame protobuf handlers session (readFrame past buffer))
            _ _
          cases handleFrame protobuf handlers session
              (readFrame past buffer) with
          | thrown next => rfl
          | returned next => exact inductionHypothesis _ _
      · rfl

/-- The accesses of one call of `process_data`. -/
def accesses (session : Session World) (buffer : List UInt8)
    (delivery : Delivery) : List Access :=
  (tracedLoop protobuf handlers delivery.past
    (buffer ++ delivery.data).length session (buffer ++ delivery.data)).2

end

/-! ## When all accesses are inside -/

/-- A part of a header is left. -/
def PartialHeader (rest : List UInt8) : Prop :=
  0 < rest.length ∧ rest.length < headerSize

def AllInside (made : List Access) : Prop :=
  ∀ access ∈ made, access.Inside

theorem allInside_nil : AllInside [] := by
  intro access member
  cases member

theorem allInside_append (first second : List Access) :
    AllInside (first ++ second) ↔ AllInside first ∧ AllInside second := by
  unfold AllInside
  exact List.forall_mem_append

theorem allInside_headerReads_iff (buffer : List UInt8) :
    AllInside (headerReads buffer) ↔ headerSize ≤ buffer.length := by
  simp only [AllInside, headerReads, List.forall_mem_cons, Access.Inside,
    indexed, headerSize]
  constructor
  · rintro ⟨_, _, _, last, _⟩
    exact last
  · intro enough
    exact ⟨by omega, by omega, by omega, by omega, allInside_nil⟩

theorem allInside_payloadReads {buffer : List UInt8} {size : Nat}
    (enough : headerSize + size ≤ buffer.length) (messageType : UInt8) :
    AllInside (payloadReads buffer messageType size) := by
  unfold payloadReads
  split
  · intro access member
    rw [List.mem_singleton.mp member]
    exact enough
  · exact allInside_nil

section

variable {World : Type} {protobuf : Protobuf} {handlers : Handlers World}
variable {past : Nat → Nat → UInt8}

/-- The loop stops at a buffer without a complete frame. -/
theorem tracedLoop_of_none {fuel : Nat} {session : Session World}
    {buffer : List UInt8} (incomplete : nextFrame buffer = none) :
    (tracedLoop protobuf handlers past (fuel + 1) session buffer).2 =
      if 0 < buffer.length then headerReads buffer else [] := by
  match buffer, incomplete with
  | [], _ => rfl
  | [_], _ | [_, _], _ | [_, _, _], _ =>
      simp [tracedLoop, headerSize]
  | high :: medium :: low :: messageType :: rest, incomplete =>
      have short :
          rest.length + 4 < messageSize high medium low + headerSize := by
        simp only [nextFrame] at incomplete
        split at incomplete
        · cases incomplete
        · simp only [headerSize]
          omega
      simp [tracedLoop, readSize, readAt, short]

/-- What the loop reads of a complete frame. -/
theorem readFrame_of_some {buffer rest : List UInt8} {frame : Frame}
    (recognised : nextFrame buffer = some (frame, rest)) :
    readSize past buffer = frame.payload.length ∧
      readFrame past buffer = frame ∧
      buffer.drop (headerSize + frame.payload.length) = rest ∧
      buffer.length = headerSize + frame.payload.length + rest.length := by
  rcases nextFrame_eq_some recognised with
    ⟨high, medium, low, size, rfl⟩
  have sizeRead :
      readSize past
          (high :: medium :: low :: frame.messageType ::
            (frame.payload ++ rest)) = frame.payload.length :=
    size
  refine ⟨sizeRead, ?_, ?_, ?_⟩
  · apply Frame.ext
    · rfl
    · simp [readFrame, sizeRead, headerSize]
  · rw [← List.drop_drop]
    simp [headerSize]
  · simp only [List.length_cons, List.length_append, headerSize]
    omega

/-- A complete frame is read and, once it is handled, erased. -/
theorem tracedLoop_of_some {fuel : Nat} {session : Session World}
    {buffer rest : List UInt8} {frame : Frame}
    (recognised : nextFrame buffer = some (frame, rest)) :
    (tracedLoop protobuf handlers past (fuel + 1) session buffer).2 =
      headerReads buffer ++
        payloadReads buffer (readAt past buffer 3) frame.payload.length ++
        match handleFrame protobuf handlers session frame with
        | .thrown _ => []
        | .returned next =>
            erased buffer frame.payload.length ::
              (tracedLoop protobuf handlers past fuel next rest).2 := by
  rcases @readFrame_of_some past buffer rest frame recognised with
    ⟨size, same, skipped, length⟩
  have some : 0 < buffer.length := by
    simp only [length, headerSize]
    omega
  have complete :
      ¬buffer.length < frame.payload.length + headerSize := by
    omega
  simp only [tracedLoop, if_pos some, size, if_neg complete, same, skipped]
  cases handleFrame protobuf handlers session frame with
  | thrown next => simp
  | returned next => simp

/-- Without a complete frame only the header is read. -/
theorem allInside_tracedLoop_of_none {fuel : Nat} {session : Session World}
    {buffer : List UInt8} (incomplete : nextFrame buffer = none) :
    AllInside
        (tracedLoop protobuf handlers past (fuel + 1) session buffer).2 ↔
      ¬PartialHeader buffer := by
  rw [tracedLoop_of_none incomplete]
  by_cases some : 0 < buffer.length
  · rw [if_pos some, allInside_headerReads_iff]
    simp only [PartialHeader, some, true_and, Nat.not_lt]
  · rw [if_neg some]
    exact iff_of_true allInside_nil fun partly => some partly.1

/-- What is read and erased of a complete frame is inside. -/
theorem allInside_tracedLoop_of_some {fuel : Nat} {session : Session World}
    {buffer rest : List UInt8} {frame : Frame}
    (recognised : nextFrame buffer = some (frame, rest)) :
    AllInside
        (tracedLoop protobuf handlers past (fuel + 1) session buffer).2 ↔
      ∀ next,
        handleFrame protobuf handlers session frame = .returned next →
          AllInside
            (tracedLoop protobuf handlers past fuel next rest).2 := by
  rcases @readFrame_of_some past buffer rest frame recognised with
    ⟨_, _, _, length⟩
  have room : headerSize + frame.payload.length ≤ buffer.length := by
    omega
  have header : AllInside (headerReads buffer) :=
    (allInside_headerReads_iff buffer).mpr (by omega)
  have payload := allInside_payloadReads room (readAt past buffer 3)
  rw [tracedLoop_of_some recognised, allInside_append, allInside_append]
  cases handleFrame protobuf handlers session frame with
  | thrown next =>
      refine iff_of_true ⟨⟨header, payload⟩, allInside_nil⟩ ?_
      intro other thrown
      cases thrown
  | returned next =>
      constructor
      · rintro ⟨_, inside⟩ other ⟨⟩ access member
        exact inside access (List.mem_cons_of_mem _ member)
      · intro inside
        exact ⟨⟨header, payload⟩,
          List.forall_mem_cons.mpr ⟨room, inside next rfl⟩⟩

/--
From a buffer, all accesses are inside unless the loop gets to a part of a
header.
-/
theorem allInside_tracedLoop_iff {fuel : Nat} {session : Session World}
    {buffer : List UInt8} (enough : buffer.length ≤ fuel) :
    AllInside
        (tracedLoop protobuf handlers past fuel session buffer).2 ↔
      ∀ final,
        handleAll (handleFrame protobuf handlers) session
            (frameRecogniser.decode buffer).1 = .returned final →
          ¬PartialHeader (frameRecogniser.decode buffer).2 := by
  induction fuel generalizing session buffer with
  | zero =>
      obtain rfl : buffer = [] := List.length_eq_zero_iff.mp (by omega)
      have nothing :
          frameRecogniser.decode [] = (([] : List Frame), []) :=
        Recogniser.decode_of_none (show nextFrame [] = none from rfl)
      rw [nothing]
      refine iff_of_true allInside_nil ?_
      rintro final handled ⟨some, _⟩
      cases some
  | succ fuel inductionHypothesis =>
      cases recognised : nextFrame buffer with
      | none =>
          have decoded :
              frameRecogniser.decode buffer = (([] : List Frame), buffer) :=
            Recogniser.decode_of_none recognised
          rw [allInside_tracedLoop_of_none recognised, decoded]
          exact ⟨fun whole _ _ => whole, fun always => always session rfl⟩
      | some pair =>
          rcases pair with ⟨frame, rest⟩
          have decoded :
              frameRecogniser.decode buffer =
                (frame :: (frameRecogniser.decode rest).1,
                  (frameRecogniser.decode rest).2) :=
            Recogniser.decode_of_some recognised
          have shorter : rest.length ≤ fuel := by
            rcases @readFrame_of_some past buffer rest frame recognised with
              ⟨_, _, _, length⟩
            simp only [headerSize] at length
            omega
          rw [allInside_tracedLoop_of_some recognised, decoded, handleAll]
          cases handleFrame protobuf handlers session frame with
          | thrown next =>
              refine iff_of_true ?_ ?_
              · intro other thrown
                cases thrown
              · intro final thrown
                cases thrown
          | returned next =>
              rw [Outcome.andThen_returned, ← inductionHypothesis shorter]
              constructor
              · exact fun later => later next rfl
              · rintro later other ⟨⟩
                exact later

end

/--
A call of `process_data` stays inside the buffer if and only if, once all
complete frames have been handled, it does not get to the first one, two or
three bytes of a further one.
-/
theorem accesses_inside_iff_no_partial_header {World : Type}
    (protobuf : Protobuf) (handlers : Handlers World)
    (session : Session World) (buffer : List UInt8)
    (delivery : Delivery) :
    AllInside (accesses protobuf handlers session buffer delivery) ↔
      ∀ final,
        handleAll (handleFrame protobuf handlers) session
            (frameRecogniser.decode (buffer ++ delivery.data)).1 =
          .returned final →
        ¬PartialHeader
          (frameRecogniser.decode (buffer ++ delivery.data)).2 :=
  allInside_tracedLoop_iff (Nat.le_refl _)

/-- A single byte is enough for three reads behind the buffer. -/
theorem single_byte_read_outside :
    accesses sampleProtobuf quietHandlers emptySession []
        ⟨[0x00], fun _ _ => 0x00⟩ =
      [⟨0, 1, 1⟩, ⟨1, 2, 1⟩, ⟨2, 3, 1⟩, ⟨3, 4, 1⟩] ∧
    ¬AllInside
      (accesses sampleProtobuf quietHandlers emptySession []
        ⟨[0x00], fun _ _ => 0x00⟩) := by
  have made :
      accesses sampleProtobuf quietHandlers emptySession []
          ⟨[0x00], fun _ _ => 0x00⟩ =
        [⟨0, 1, 1⟩, ⟨1, 2, 1⟩, ⟨2, 3, 1⟩, ⟨3, 4, 1⟩] := by
    rfl
  refine ⟨made, ?_⟩
  rw [made]
  intro inside
  have second := inside ⟨1, 2, 1⟩ (by decide)
  exact absurd second (by decide)

end Anbox.Rpc.BufferBounds
