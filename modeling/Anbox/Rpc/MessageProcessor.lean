import Anbox.Foundation.Framing
import Anbox.Rpc.PendingCallCache
import Mathlib.Algebra.Order.Ring.Nat

/-!
# The RPC message processor

`MessageProcessor::process_data` appends the received bytes to `buffer_` and
handles one frame after another.  A frame is a header of four bytes, a size of
three bytes in big-endian order and a type, followed by as many bytes as the
size says.

The loop reads all four header bytes before it knows that they have arrived.
Bytes read past the end of the buffer are modelled by an arbitrary function,
and `processLoop_eq_consumeFuel` shows that they never matter.  Parsing the
protobuf messages and the virtual functions of the processor are parameters;
a frame is removed from the buffer only after everything it triggers has
returned.
-/

namespace Anbox.Rpc.MessageProcessor

open Anbox.Foundation.Framing
open Anbox.Rpc.PendingCallCache

/-! ## Messages -/

/-- The fields of the protobuf message `Invocation`. -/
structure Invocation where
  id : UInt32
  methodName : List UInt8
  parameters : List UInt8
  protocolVersion : UInt32
deriving DecidableEq, Repr

/-- The fields of the protobuf message `Result`. -/
structure Result where
  id : Option UInt32
  response : List UInt8
  events : List (List UInt8)
deriving DecidableEq, Repr

/-- `ParseFromArray` of the two generated message classes. -/
structure Protobuf where
  parseInvocation : List UInt8 → Invocation
  parseResult : List UInt8 → Result

/-- The size of a frame header in bytes. -/
def headerSize : Nat := 4

/-- The enumerators of `MessageType`. -/
def MessageType.invocation : UInt8 := 0

@[inherit_doc MessageType.invocation]
def MessageType.response : UInt8 := 1

/-- One frame; the size of its payload fits the three bytes of the header. -/
@[ext]
structure Frame where
  messageType : UInt8
  payload : List UInt8
  fits : payload.length < 2 ^ 24
deriving DecidableEq, Repr

/-! ## Handling one frame -/

/-- What the processor shares with the callbacks it runs. -/
structure Shared (World : Type) where
  pendingCalls : PendingCalls
  world : World

/-- The virtual functions of the processor and the closures of the callers. -/
structure Handlers (World : Type) where
  dispatch : Shared World → Invocation → Outcome (Shared World)
  processEventSequence : Shared World → List UInt8 → Outcome (Shared World)
  run : Shared World → ClosurePtr → Outcome (Shared World)

/-- What the processor has done, in order. -/
inductive Observation where
  | dispatched (invocation : Invocation)
  | populated (message : MessagePtr) (response : List UInt8)
  | completed (closure : ClosurePtr)
  | event (sequence : List UInt8)
deriving DecidableEq, Repr

/-- The shared state, the frames taken up so far and what was done for them. -/
structure Session (World : Type) where
  shared : Shared World
  attempted : List Frame
  log : List Observation

namespace Session

variable {World : Type}

/-- Record an observation. -/
def observe (session : Session World) (observation : Observation) :
    Session World :=
  { session with log := session.log ++ [observation] }

/-- Run a callback on the shared state. -/
def call (session : Session World)
    (callback : Shared World → Outcome (Shared World)) :
    Outcome (Session World) :=
  (callback session.shared).andThen
    (fun shared => .returned { session with shared })
    (fun shared => { session with shared })

end Session

variable {World : Type} (protobuf : Protobuf) (handlers : Handlers World)

/-- Answer a pending call: populate its response object, then run its closure. -/
def completeCall (session : Session World) (id : UInt32)
    (response : List UInt8) : Outcome (Session World) :=
  match populateMessageForResult session.shared.pendingCalls id with
  | none => .thrown session
  | some message =>
      let populated := session.observe (.populated message response)
      let completion :=
        completeResponse populated.shared.pendingCalls id
      let erased : Session World :=
        { populated with
          shared :=
            { populated.shared with pendingCalls := completion.1 } }
      match completion.2 with
      | none => .returned erased
      | some closure =>
          (erased.observe (.completed closure)).call
            fun shared => handlers.run shared closure

/-- The events of a result, one after another. -/
def processEvents : Session World → List (List UInt8) → Outcome (Session World)
  | session, [] => .returned session
  | session, sequence :: sequences =>
      ((session.observe (.event sequence)).call
        fun shared => handlers.processEventSequence shared sequence).andThen
          (fun next => processEvents next sequences) id

/-- The response branch of `process_data`. -/
def processResult (session : Session World) (result : Result) :
    Outcome (Session World) :=
  let answered : Outcome (Session World) :=
    match result.id with
    | none => .returned session
    | some id => completeCall handlers session id result.response
  answered.andThen
    (fun next => processEvents handlers next result.events) id

/-- Everything one frame triggers; frames of an unknown type trigger nothing. -/
def handleFrame (session : Session World) (frame : Frame) :
    Outcome (Session World) :=
  let taken : Session World :=
    { session with attempted := session.attempted ++ [frame] }
  if frame.messageType = MessageType.invocation then
    let invocation := protobuf.parseInvocation frame.payload
    (taken.observe (.dispatched invocation)).call
      fun shared => handlers.dispatch shared invocation
  else if frame.messageType = MessageType.response then
    processResult handlers taken (protobuf.parseResult frame.payload)
  else .returned taken

/-! ## The loop of `process_data` -/

/-- An unchecked read of `buffer_`. -/
def readAt (past : Nat → Nat → UInt8) (buffer : List UInt8)
    (index : Nat) : UInt8 :=
  buffer.getD index (past buffer.length index)

/-- The size given by three header bytes. -/
def messageSize (high medium low : UInt8) : Nat :=
  high.toNat <<< 16 + medium.toNat <<< 8 + low.toNat

theorem messageSize_lt (high medium low : UInt8) :
    messageSize high medium low < 2 ^ 24 := by
  have highBound := high.toNat_lt
  have mediumBound := medium.toNat_lt
  have lowBound := low.toNat_lt
  simp only [messageSize, Nat.shiftLeft_eq]
  omega

/--
The loop of `process_data`.  `past size index` is what a read past the end of
a buffer of `size` bytes finds.
-/
def processLoop (past : Nat → Nat → UInt8) :
    Nat → Session World → List UInt8 →
      Outcome (Session World × List UInt8)
  | 0, session, buffer => .returned (session, buffer)
  | fuel + 1, session, buffer =>
      if 0 < buffer.length then
        let high := readAt past buffer 0
        let medium := readAt past buffer 1
        let low := readAt past buffer 2
        let size := messageSize high medium low
        let messageType := readAt past buffer 3
        if buffer.length < size + headerSize then
          .returned (session, buffer)
        else
          let frame : Frame :=
            ⟨messageType, (buffer.drop headerSize).take size,
              Nat.lt_of_le_of_lt (List.length_take_le _ _)
                (messageSize_lt _ _ _)⟩
          (handleFrame protobuf handlers session frame).andThen
            (fun next =>
              processLoop past fuel next (buffer.drop (headerSize + size)))
            (fun next => (next, buffer))
      else .returned (session, buffer)

/-- The bytes of one `process_data` call and what lies behind the buffer. -/
structure Delivery where
  data : List UInt8
  past : Nat → Nat → UInt8

/-- `process_data`: append the received bytes and handle what is complete. -/
def processData (session : Session World) (buffer : List UInt8)
    (delivery : Delivery) : Outcome (Session World × List UInt8) :=
  processLoop protobuf handlers delivery.past
    (buffer ++ delivery.data).length session (buffer ++ delivery.data)

/-- Successive calls of `process_data`, up to the first that throws. -/
def processAll :
    Session World → List UInt8 → List Delivery →
      Outcome (Session World × List UInt8)
  | session, buffer, [] => .returned (session, buffer)
  | session, buffer, delivery :: deliveries =>
      (processData protobuf handlers session buffer delivery).andThen
        (fun next => processAll next.1 next.2 deliveries) id

/-- All bytes delivered by a sequence of calls. -/
def received (deliveries : List Delivery) : List UInt8 :=
  deliveries.flatMap Delivery.data

/-! ## The reference decoder -/

/-- Take a size of three bytes, a type and that many payload bytes. -/
def nextFrame : List UInt8 → Option (Frame × List UInt8)
  | high :: medium :: low :: messageType :: rest =>
      if messageSize high medium low ≤ rest.length then
        some
          (⟨messageType, rest.take (messageSize high medium low),
              Nat.lt_of_le_of_lt (List.length_take_le _ _)
                (messageSize_lt _ _ _)⟩,
            rest.drop (messageSize high medium low))
      else none
  | _ => none

theorem nextFrame_eq_some {input rest : List UInt8} {frame : Frame}
    (recognised : nextFrame input = some (frame, rest)) :
    ∃ high medium low : UInt8,
      messageSize high medium low = frame.payload.length ∧
        input =
          high :: medium :: low :: frame.messageType ::
            (frame.payload ++ rest) := by
  match input, recognised with
  | high :: medium :: low :: messageType :: body, recognised =>
      simp only [nextFrame] at recognised
      split at recognised
      · rename_i enough
        simp only [Option.some.injEq, Prod.mk.injEq] at recognised
        obtain ⟨rfl, rfl⟩ := recognised
        exact ⟨high, medium, low, by simp [enough], by simp⟩
      · simp at recognised

theorem nextFrame_of_header {high medium low : UInt8}
    (messageType : UInt8) {payload : List UInt8}
    (size : messageSize high medium low = payload.length)
    (fits : payload.length < 2 ^ 24) (rest : List UInt8) :
    nextFrame
        (high :: medium :: low :: messageType :: (payload ++ rest)) =
      some (⟨messageType, payload, fits⟩, rest) := by
  simp [nextFrame, size]

/-- The frames of the RPC protocol. -/
def frameRecogniser : Recogniser UInt8 Frame where
  next := nextFrame
  shorter := by
    intro input frame rest recognised
    obtain ⟨high, medium, low, -, rfl⟩ := nextFrame_eq_some recognised
    simp only [List.length_cons, List.length_append]
    omega
  stable := by
    intro input frame rest more recognised
    obtain ⟨high, medium, low, size, rfl⟩ := nextFrame_eq_some recognised
    simpa using
      nextFrame_of_header frame.messageType size frame.fits
        (rest ++ more)

/-- Reads past the end of the buffer have no influence on the loop. -/
theorem processLoop_eq_consumeFuel
    (past : Nat → Nat → UInt8) (fuel : Nat)
    (session : Session World) (buffer : List UInt8) :
    processLoop protobuf handlers past fuel session buffer =
      frameRecogniser.consumeFuel (handleFrame protobuf handlers)
        fuel session buffer := by
  induction fuel generalizing session buffer with
  | zero => rfl
  | succ fuel inductionHypothesis =>
      match buffer with
      | high :: medium :: low :: messageType :: rest =>
          by_cases enough : messageSize high medium low ≤ rest.length
          · have complete :
                ¬ rest.length + 4 <
                  messageSize high medium low + headerSize := by
              simp only [headerSize]
              omega
            have skipped :
                (high :: medium :: low :: messageType :: rest).drop
                    (headerSize + messageSize high medium low) =
                  rest.drop (messageSize high medium low) := by
              rw [← List.drop_drop]
              rfl
            simp [processLoop, Recogniser.consumeFuel, frameRecogniser,
              nextFrame, readAt, enough, complete, inductionHypothesis,
              skipped]
            rfl
          · have incomplete :
                rest.length + 4 <
                  messageSize high medium low + headerSize := by
              simp only [headerSize]
              omega
            simp [processLoop, Recogniser.consumeFuel, frameRecogniser,
              nextFrame, readAt, enough, incomplete]
      | [] =>
          simp [processLoop, Recogniser.consumeFuel, frameRecogniser,
            nextFrame]
      | [_] | [_, _] | [_, _, _] =>
          -- A partial header is shorter than any size the loop can compute.
          simp [processLoop, Recogniser.consumeFuel, frameRecogniser,
            nextFrame, headerSize]

theorem processData_eq_consumeFuel (session : Session World)
    (buffer : List UInt8) (delivery : Delivery) :
    processData protobuf handlers session buffer delivery =
      frameRecogniser.consumeFuel (handleFrame protobuf handlers)
        (buffer ++ delivery.data).length session
        (buffer ++ delivery.data) :=
  processLoop_eq_consumeFuel protobuf handlers _ _ _ _

/-- Chunk independence from any buffer that holds no complete frame. -/
theorem processAll_of_handled {session final : Session World}
    {buffer : List UInt8} (incomplete : nextFrame buffer = none)
    (deliveries : List Delivery)
    (handled :
      handleAll (handleFrame protobuf handlers) session
          (frameRecogniser.decode (buffer ++ received deliveries)).1 =
        .returned final) :
    processAll protobuf handlers session buffer deliveries =
      .returned
        (final,
          (frameRecogniser.decode (buffer ++ received deliveries)).2) := by
  induction deliveries generalizing session buffer with
  | nil =>
      have rest : frameRecogniser.decode buffer = ([], buffer) :=
        Recogniser.decode_of_none incomplete
      simp only [received, List.flatMap_nil, List.append_nil, rest,
        handleAll, Outcome.returned.injEq] at handled ⊢
      rw [processAll, handled]
  | cons delivery deliveries inductionHypothesis =>
      have split : buffer ++ received (delivery :: deliveries) =
          buffer ++ delivery.data ++ received deliveries := by
        simp [received]
      rw [split, Recogniser.decode_append] at handled ⊢
      simp only [handleAll_append] at handled ⊢
      -- The first call handles exactly the frames that are complete by then.
      rcases Outcome.andThen_eq_returned_iff.mp handled with
        ⟨middle, first, handled⟩
      have call :
          processData protobuf handlers session buffer delivery =
            .returned
              (middle,
                (frameRecogniser.decode (buffer ++ delivery.data)).2) := by
        rw [processData_eq_consumeFuel]
        exact Recogniser.consumeFuel_returned (Nat.le_refl _) first
      rw [processAll, call, Outcome.andThen_returned]
      exact inductionHypothesis (frameRecogniser.next_decode_rest _) handled

/--
However a stream is cut into calls, the processor does for it what handling
the frames of the reference decoder in order does, and keeps the bytes the
reference decoder leaves.
-/
theorem processAll_eq_reference (session final : Session World)
    (deliveries : List Delivery)
    (handled :
      handleAll (handleFrame protobuf handlers) session
          (frameRecogniser.decode (received deliveries)).1 =
        .returned final) :
    processAll protobuf handlers session [] deliveries =
      .returned (final, (frameRecogniser.decode (received deliveries)).2) := by
  simpa using
    processAll_of_handled protobuf handlers
      (show nextFrame [] = none from rfl) deliveries
      (by simpa using handled)

/-! ## Encoded frames -/

/-- The bytes of a frame on the wire. -/
def Frame.encode (frame : Frame) : List UInt8 :=
  UInt8.ofNat (frame.payload.length >>> 16) ::
    UInt8.ofNat (frame.payload.length >>> 8) ::
    UInt8.ofNat frame.payload.length ::
    frame.messageType :: frame.payload

theorem messageSize_ofNat {size : Nat} (fits : size < 2 ^ 24) :
    messageSize (UInt8.ofNat (size >>> 16)) (UInt8.ofNat (size >>> 8))
        (UInt8.ofNat size) = size := by
  simp only [messageSize, UInt8.toNat_ofNat', Nat.shiftRight_eq_div_pow,
    Nat.shiftLeft_eq]
  omega

theorem nextFrame_encode (frame : Frame) (rest : List UInt8) :
    nextFrame (frame.encode ++ rest) = some (frame, rest) :=
  nextFrame_of_header frame.messageType (messageSize_ofNat frame.fits)
    frame.fits rest

/-- A stream of whole frames decodes to these frames. -/
theorem decode_encode (frames : List Frame) :
    frameRecogniser.decode (frames.flatMap Frame.encode) = (frames, []) := by
  induction frames with
  | nil =>
      exact Recogniser.decode_of_none
        (show frameRecogniser.next [] = none from rfl)
  | cons frame frames inductionHypothesis =>
      have recognised :
          frameRecogniser.next
              ((frame :: frames).flatMap Frame.encode) =
            some (frame, frames.flatMap Frame.encode) :=
        nextFrame_encode frame _
      rw [Recogniser.decode_of_some recognised, inductionHypothesis]

/-! ## A session on the wire -/

/-- `Invocation { id: 1, method_name: "x", parameters: "", protocol_version: 1 }`. -/
def invocationBytes : List UInt8 :=
  [0x08, 0x01, 0x12, 0x01, 0x78, 0x1a, 0x00, 0x20, 0x01]

/-- `Result { id: 7 }`. -/
def resultBytes : List UInt8 := [0x08, 0x07]

/-- The parser on the two messages above. -/
def sampleProtobuf : Protobuf where
  parseInvocation payload :=
    if payload = invocationBytes then ⟨1, [0x78], [], 1⟩ else ⟨0, [], [], 0⟩
  parseResult payload :=
    if payload = resultBytes then ⟨some 7, [], []⟩ else ⟨none, [], []⟩

/-- Callbacks that only return. -/
def quietHandlers : Handlers Unit where
  dispatch shared _ := .returned shared
  processEventSequence shared _ := .returned shared
  run shared _ := .returned shared

/-- A session before the first frame, without pending calls. -/
def emptySession : Session Unit := ⟨⟨∅, ()⟩, [], []⟩

def invocationFrame : Frame :=
  ⟨MessageType.invocation, invocationBytes, by decide⟩

def resultFrame : Frame :=
  ⟨MessageType.response, resultBytes, by decide⟩

/-- An invocation cut inside its header, with a stray byte behind the buffer. -/
theorem processAll_eq_reference_split_header :
    processAll sampleProtobuf quietHandlers emptySession []
        [⟨[0x00, 0x00], fun _ _ => 0xff⟩,
          ⟨[0x09, 0x00] ++ invocationBytes ++ [0x00], fun _ _ => 0x01⟩] =
      .returned
        (⟨⟨∅, ()⟩, [invocationFrame],
            [.dispatched ⟨1, [0x78], [], 1⟩]⟩, [0x00]) :=
  processAll_eq_reference sampleProtobuf quietHandlers emptySession
    ⟨⟨∅, ()⟩, [invocationFrame], [.dispatched ⟨1, [0x78], [], 1⟩]⟩
    [⟨[0x00, 0x00], fun _ _ => 0xff⟩,
      ⟨[0x09, 0x00] ++ invocationBytes ++ [0x00], fun _ _ => 0x01⟩] rfl

end Anbox.Rpc.MessageProcessor
