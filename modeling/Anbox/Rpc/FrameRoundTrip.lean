import Anbox.Rpc.SocketConnection

/-!
# Sending RPC frames

`Channel::send_message` and `MessageProcessor::send_response` each write their
own frames.  Both serialise into buffers of a size they have computed before;
a write past the end of such a buffer is modelled as `none`.  Memory that has
not been written yet has arbitrary contents.

The serialisation of the protobuf messages is a parameter.  A message that the
caller hands over is represented by its serialised bytes, so `ByteSize` is the
length of this list.
-/

namespace Anbox.Rpc.FrameRoundTrip

open Anbox.Foundation.Framing
open Anbox.Rpc.MessageProcessor

/-! ## Buffers -/

/-- Write bytes into a buffer of fixed size. -/
def overwrite (buffer : List UInt8) (offset : Nat) (bytes : List UInt8) :
    Option (List UInt8) :=
  if offset + bytes.length ≤ buffer.length then
    some
      (buffer.take offset ++ bytes ++
        buffer.drop (offset + bytes.length))
  else none

theorem overwrite_exact (written stale bytes : List UInt8)
    (size : stale.length = bytes.length) :
    overwrite (written ++ stale) written.length bytes =
      some (written ++ bytes) := by
  have fits :
      written.length + bytes.length ≤ (written ++ stale).length := by
    simp [size]
  have rest :
      (written ++ stale).drop (written.length + bytes.length) = [] := by
    apply List.drop_eq_nil_of_le
    simp [size]
  rw [overwrite, if_pos fits, rest]
  simp

/-- What each of the allocations of one call happens to hold. -/
abbrev Memory := Nat → Nat → UInt8

/-- A newly allocated buffer. -/
def uninitialised (memory : Nat → UInt8) (size : Nat) : List UInt8 :=
  (List.range size).map memory

@[simp]
theorem length_uninitialised (memory : Nat → UInt8) (size : Nat) :
    (uninitialised memory size).length = size := by
  simp [uninitialised]

/-- `VariableLengthArray`, with the buffer on the heap when one is in use. -/
structure VariableLengthArray (builtInBufferSize : Nat) where
  builtinBuffer : List UInt8
  builtinSize : builtinBuffer.length = builtInBufferSize
  heapBuffer : Option (List UInt8)
  size : Nat

namespace VariableLengthArray

variable {builtInBufferSize : Nat}

/-- The buffer `effective_buffer` points to. -/
def data (array : VariableLengthArray builtInBufferSize) : List UInt8 :=
  array.heapBuffer.getD array.builtinBuffer

/-- Change the size; the contents are lost when another buffer is used. -/
def resize (array : VariableLengthArray builtInBufferSize)
    (memory : Nat → UInt8) (size : Nat) :
    VariableLengthArray builtInBufferSize :=
  if builtInBufferSize < size then
    { array with heapBuffer := some (uninitialised memory size), size }
  else { array with heapBuffer := none, size }

/-- The constructor, which allocates a large buffer on the heap. -/
def create (builtInBufferSize : Nat) (memory : Memory)
    (size : Nat) : VariableLengthArray builtInBufferSize :=
  let array : VariableLengthArray builtInBufferSize :=
    ⟨uninitialised (memory 0) builtInBufferSize,
      length_uninitialised _ _, none, size⟩
  if builtInBufferSize < size then array.resize (memory 1) size
  else array

/-- Write bytes from the start of the effective buffer on. -/
def write (array : VariableLengthArray builtInBufferSize)
    (bytes : List UInt8) :
    Option (VariableLengthArray builtInBufferSize) :=
  (overwrite array.data 0 bytes).bind fun written =>
    match array.heapBuffer with
    | some _ => some { array with heapBuffer := some written }
    | none =>
        if builtinSize : written.length = builtInBufferSize then
          some { array with builtinBuffer := written, builtinSize }
        else none

/-- The first `size()` bytes from `data()` on. -/
def contents (array : VariableLengthArray builtInBufferSize) :
    List UInt8 :=
  array.data.take array.size

/-- The effective buffer is large enough for the size. -/
def Fits (array : VariableLengthArray builtInBufferSize) : Prop :=
  array.size ≤ array.data.length

theorem fits_resize (array : VariableLengthArray builtInBufferSize)
    (memory : Nat → UInt8) (size : Nat) :
    (array.resize memory size).Fits := by
  by_cases large : builtInBufferSize < size
  · simp [Fits, resize, large, data]
  · have builtinSize := array.builtinSize
    simp only [Fits, resize, large, if_false, data, Option.getD_none]
    omega

@[simp]
theorem size_resize (array : VariableLengthArray builtInBufferSize)
    (memory : Nat → UInt8) (size : Nat) :
    (array.resize memory size).size = size := by
  by_cases large : builtInBufferSize < size <;> simp [resize, large]

theorem fits_create (memory : Memory) (size : Nat) :
    (create builtInBufferSize memory size).Fits := by
  by_cases large : builtInBufferSize < size
  · simp only [create, large, if_true]
    exact fits_resize _ _ _
  · simp only [create, large, if_false, Fits, data, Option.getD_none,
      length_uninitialised]
    omega

@[simp]
theorem size_create (memory : Memory) (size : Nat) :
    (create builtInBufferSize memory size).size = size := by
  by_cases large : builtInBufferSize < size <;> simp [create, large]

/-- Writing as many bytes as the array has succeeds and sets its contents. -/
theorem write_of_fits {array : VariableLengthArray builtInBufferSize}
    (fits : array.Fits) {bytes : List UInt8}
    (size : bytes.length = array.size) :
    ∃ written : VariableLengthArray builtInBufferSize,
      array.write bytes = some written ∧ written.contents = bytes ∧
        written.size = array.size := by
  have room : 0 + bytes.length ≤ array.data.length := by
    have enough : array.size ≤ array.data.length := fits
    omega
  have overwritten : overwrite array.data 0 bytes =
      some (bytes ++ array.data.drop bytes.length) := by
    rw [overwrite, if_pos room]
    simp
  have unchanged :
      (bytes ++ array.data.drop bytes.length).length =
        array.data.length := by
    simp only [List.length_append, List.length_drop]
    omega
  cases place : array.heapBuffer with
  | some heap =>
      refine ⟨{ array with
        heapBuffer := some (bytes ++ array.data.drop bytes.length) },
        ?_, ?_, rfl⟩
      · rw [write, overwritten, Option.bind_some, place]
      · simp [contents, data, ← size]
  | none =>
      have builtinSize :
          (bytes ++ array.data.drop bytes.length).length =
            builtInBufferSize := by
        rw [unchanged, data, place, Option.getD_none]
        exact array.builtinSize
      refine ⟨{ array with
        builtinBuffer := bytes ++ array.data.drop bytes.length
        builtinSize }, ?_, ?_, rfl⟩
      · rw [write, overwritten, Option.bind_some, place]
        exact dif_pos builtinSize
      · simp only [contents, place, data, Option.getD_none, ← size]
        exact List.take_left

theorem write_create (builtInBufferSize : Nat)
    (memory : Memory) (bytes : List UInt8) :
    ∃ written : VariableLengthArray builtInBufferSize,
      (create builtInBufferSize memory bytes.length).write bytes =
          some written ∧
        written.contents = bytes := by
  rcases write_of_fits (fits_create memory bytes.length)
      (size_create memory bytes.length).symm with
    ⟨written, succeeded, contents, -⟩
  exact ⟨written, succeeded, contents⟩

end VariableLengthArray

/-! ## The senders -/

/-- The protobuf message `Result` as a sender fills it. -/
structure ResultMessage where
  id : Option UInt32
  response : Option (List UInt8)
  events : List (List UInt8)
deriving DecidableEq, Repr

/-- What the getters of `Result` give for the message. -/
def ResultMessage.result (message : ResultMessage) : Result :=
  ⟨message.id, message.response.getD [], message.events⟩

/-- `SerializeToArray` of the two generated message classes. -/
structure Serializer where
  invocation : Invocation → List UInt8
  result : ResultMessage → List UInt8

/-- The size of the arrays that messages are serialised into. -/
def serializationBufferSize : Nat := 2048

/-- The four bytes in front of a message of the given size. -/
def headerBytes (size : Nat) (messageType : UInt8) : List UInt8 :=
  [UInt8.ofNat ((size >>> 16) &&& 0xff),
    UInt8.ofNat ((size >>> 8) &&& 0xff),
    UInt8.ofNat ((size >>> 0) &&& 0xff), messageType]

/-- `send_buffer`: the header, then the message behind it. -/
def sendBuffer (messageType : UInt8) (size : Nat) (message : List UInt8) :
    Option (List UInt8) := do
  let buffer := List.replicate (headerSize + size) 0
  let withHeader ← overwrite buffer 0 (headerBytes size messageType)
  overwrite withHeader headerSize message

/-- `Channel::send_message` up to the bytes it hands to the sender. -/
def sendMessage (messageType : UInt8) (message : List UInt8) :
    Option (List UInt8) :=
  sendBuffer messageType message.length message

/-- `Channel::invocation_for`, with the number `next_id` has returned. -/
def invocationFor (memory : Memory) (id : UInt32)
    (methodName request : List UInt8) : Option Invocation := do
  let buffer ←
    (VariableLengthArray.create 2048 memory request.length).write request
  return ⟨id, methodName, buffer.contents, 1⟩

variable (serializer : Serializer)

/-- The bytes that `Channel::call_method` sends. -/
def callMethod (memory : Memory) (id : UInt32)
    (methodName parameters : List UInt8) : Option (List UInt8) := do
  let invocation ← invocationFor memory id methodName parameters
  sendMessage MessageType.invocation (serializer.invocation invocation)

/-- `Channel::send_event`. -/
def sendEvent (memory : Memory) (event : List UInt8) :
    Option (List UInt8) := do
  let buffer ←
    (VariableLengthArray.create 2048 memory event.length).write event
  sendMessage MessageType.response
    (serializer.result ⟨none, none, [buffer.contents]⟩)

/-- `MessageProcessor::send_response`, which uses one array twice. -/
def sendResponse (memory : Memory) (id : UInt32)
    (response : List UInt8) : Option (List UInt8) := do
  let responseBuffer ←
    (VariableLengthArray.create serializationBufferSize memory
      response.length).write response
  let result : ResultMessage :=
    ⟨some id, some responseBuffer.contents, []⟩
  let resultBuffer ←
    (responseBuffer.resize (memory 2)
      (serializer.result result).length).write (serializer.result result)
  sendBuffer MessageType.response resultBuffer.size resultBuffer.contents

/-! ## Streams of emitted messages -/

/-- A message that is sent, and the call that sends it. -/
inductive Emission where
  | invocation (id : UInt32) (methodName parameters : List UInt8)
  | event (message : List UInt8)
  | response (id : UInt32) (message : List UInt8)
deriving DecidableEq, Repr

namespace Emission

/-- The type of the frame. -/
def messageType : Emission → UInt8
  | .invocation _ _ _ => MessageType.invocation
  | .event _ => MessageType.response
  | .response _ _ => MessageType.response

/-- The serialised message. -/
def payload : Emission → List UInt8
  | .invocation id methodName parameters =>
      serializer.invocation ⟨id, methodName, parameters, 1⟩
  | .event message => serializer.result ⟨none, none, [message]⟩
  | .response id message =>
      serializer.result ⟨some id, some message, []⟩

/-- The bytes handed to `MessageSender::send`. -/
def emit (memory : Memory) : Emission → Option (List UInt8)
  | .invocation id methodName parameters =>
      callMethod serializer memory id methodName parameters
  | .event message => sendEvent serializer memory message
  | .response id message => sendResponse serializer memory id message

/-- Parsing inverts the serialisation of the message. -/
def ParsedBack (protobuf : Protobuf) : Emission → Prop
  | .invocation id methodName parameters =>
      protobuf.parseInvocation
          (serializer.invocation ⟨id, methodName, parameters, 1⟩) =
        ⟨id, methodName, parameters, 1⟩
  | .event message =>
      protobuf.parseResult (serializer.result ⟨none, none, [message]⟩) =
        ResultMessage.result ⟨none, none, [message]⟩
  | .response id message =>
      protobuf.parseResult
          (serializer.result ⟨some id, some message, []⟩) =
        ResultMessage.result ⟨some id, some message, []⟩

/-- The frame of a message that is small enough for the header. -/
def frame (emission : Emission)
    (fits : (emission.payload serializer).length < 2 ^ 24) : Frame :=
  ⟨emission.messageType, emission.payload serializer, fits⟩

end Emission

/-- The concatenated bytes of successive sends. -/
def emitAll :
    List (Memory × Emission) → Option (List UInt8)
  | [] => some []
  | (memory, emission) :: emissions => do
      let bytes ← emission.emit serializer memory
      let stream ← emitAll emissions
      return bytes ++ stream

/-! ## Every sender writes its frame -/

theorem ofNat_low_byte (size : Nat) :
    UInt8.ofNat (size &&& 0xff) = UInt8.ofNat size := by
  apply UInt8.toNat_inj.mp
  rw [UInt8.toNat_ofNat', UInt8.toNat_ofNat',
    show (0xff : Nat) = 2 ^ 8 - 1 from rfl, Nat.and_two_pow_sub_one_eq_mod]
  exact Nat.mod_mod _ _

/-- The header and the message as one frame of the protocol. -/
theorem sendBuffer_eq_encode (messageType : UInt8) (message : List UInt8)
    (fits : message.length < 2 ^ 24) :
    sendBuffer messageType message.length message =
      some (Frame.encode ⟨messageType, message, fits⟩) := by
  have zeros :
      List.replicate (headerSize + message.length) (0 : UInt8) =
        List.replicate headerSize 0 ++
          List.replicate message.length 0 := by
    rw [List.replicate_append_replicate]
  have header :
      overwrite (List.replicate (headerSize + message.length) 0) 0
          (headerBytes message.length messageType) =
        some
          (headerBytes message.length messageType ++
            List.replicate message.length 0) := by
    rw [zeros, overwrite, if_pos (by simp [headerBytes, headerSize])]
    simp [headerBytes, headerSize]
  have body :=
    overwrite_exact (headerBytes message.length messageType)
      (List.replicate message.length 0) message (by simp)
  simp only [sendBuffer, header, Option.bind_eq_bind, Option.bind_some]
  refine Eq.trans body ?_
  simp only [headerBytes, Frame.encode, ofNat_low_byte,
    Nat.shiftRight_zero, List.cons_append, List.nil_append]

theorem callMethod_eq_encode (memory : Memory) (id : UInt32)
    (methodName parameters : List UInt8)
    (fits :
      (serializer.invocation ⟨id, methodName, parameters, 1⟩).length <
        2 ^ 24) :
    callMethod serializer memory id methodName parameters =
      some
        (Frame.encode
          ⟨MessageType.invocation,
            serializer.invocation ⟨id, methodName, parameters, 1⟩,
            fits⟩) := by
  rcases VariableLengthArray.write_create 2048 memory parameters with
    ⟨buffer, written, contents⟩
  simp only [callMethod, invocationFor, written, contents,
    Option.bind_eq_bind, Option.bind_some, Option.pure_def]
  exact sendBuffer_eq_encode _ _ fits

theorem sendEvent_eq_encode (memory : Memory)
    (event : List UInt8)
    (fits :
      (serializer.result ⟨none, none, [event]⟩).length < 2 ^ 24) :
    sendEvent serializer memory event =
      some
        (Frame.encode
          ⟨MessageType.response, serializer.result ⟨none, none, [event]⟩,
            fits⟩) := by
  rcases VariableLengthArray.write_create 2048 memory event with
    ⟨buffer, written, contents⟩
  simp only [sendEvent, written, contents, Option.bind_eq_bind,
    Option.bind_some]
  exact sendBuffer_eq_encode _ _ fits

/--
The result has copied the response bytes before the array is resized, so the
second serialisation may overwrite them.
-/
theorem sendResponse_eq_encode (memory : Memory) (id : UInt32)
    (response : List UInt8)
    (fits :
      (serializer.result ⟨some id, some response, []⟩).length < 2 ^ 24) :
    sendResponse serializer memory id response =
      some
        (Frame.encode
          ⟨MessageType.response,
            serializer.result ⟨some id, some response, []⟩, fits⟩) := by
  rcases VariableLengthArray.write_create serializationBufferSize memory
      response with
    ⟨responseBuffer, written, contents⟩
  rcases VariableLengthArray.write_of_fits
      (responseBuffer.fits_resize (memory 2)
        (serializer.result ⟨some id, some response, []⟩).length)
      (responseBuffer.size_resize (memory 2)
        (serializer.result ⟨some id, some response, []⟩).length).symm with
    ⟨resultBuffer, rewritten, resultContents, resultSize⟩
  simp only [sendResponse, written, contents, rewritten, resultContents,
    resultSize, VariableLengthArray.size_resize, Option.bind_eq_bind,
    Option.bind_some]
  exact sendBuffer_eq_encode _ _ fits

theorem Emission.emit_eq_encode (memory : Memory)
    (emission : Emission)
    (fits : (emission.payload serializer).length < 2 ^ 24) :
    emission.emit serializer memory =
      some (emission.frame serializer fits).encode := by
  cases emission with
  | invocation id methodName parameters =>
      exact callMethod_eq_encode serializer memory id methodName
        parameters fits
  | event message =>
      exact sendEvent_eq_encode serializer memory message fits
  | response id message =>
      exact sendResponse_eq_encode serializer memory id message fits

/-- The stream of all sends is a stream of whole frames. -/
theorem emitAll_eq_encode
    (emissions : List (Memory × Emission))
    (fits :
      ∀ entry ∈ emissions,
        (entry.2.payload serializer).length < 2 ^ 24) :
    ∃ frames : List Frame,
      emitAll serializer emissions = some (frames.flatMap Frame.encode) ∧
        frames.map (fun frame => (frame.messageType, frame.payload)) =
          emissions.map fun entry =>
            (entry.2.messageType, entry.2.payload serializer) := by
  induction emissions with
  | nil => exact ⟨[], rfl, rfl⟩
  | cons entry emissions inductionHypothesis =>
      rcases entry with ⟨memory, emission⟩
      rcases inductionHypothesis fun other member =>
          fits other (List.mem_cons_of_mem _ member) with
        ⟨frames, emitted, content⟩
      have first := fits (memory, emission) List.mem_cons_self
      refine ⟨emission.frame serializer first :: frames, ?_, ?_⟩
      · simp [emitAll, emission.emit_eq_encode serializer memory first,
          emitted]
      · rw [List.map_cons, List.map_cons, content]
        rfl

variable {World : Type} (protobuf : Protobuf) (handlers : Handlers World)

/--
Whatever is sent arrives: a processor that is fed the bytes of all sends, in
any pieces, takes up exactly the messages sent, in order.  Every response
comes back as a result with its number and its bytes.
-/
theorem emitAll_received (session : Session World)
    (emissions : List (Memory × Emission))
    (fits :
      ∀ entry ∈ emissions,
        (entry.2.payload serializer).length < 2 ^ 24)
    (parsedBack :
      ∀ entry ∈ emissions, entry.2.ParsedBack serializer protobuf) :
    ∃ (stream : List UInt8) (frames : List Frame),
      emitAll serializer emissions = some stream ∧
        frames.map (fun frame => (frame.messageType, frame.payload)) =
          emissions.map (fun entry =>
            (entry.2.messageType, entry.2.payload serializer)) ∧
        (∀ (deliveries : List Delivery) (final : Session World),
          received deliveries = stream →
            handleAll (handleFrame protobuf handlers) session frames =
              .returned final →
            processAll protobuf handlers session [] deliveries =
                .returned (final, []) ∧
              final.attempted = session.attempted ++ frames) ∧
        ∀ (index : Nat) (memory : Memory) (id : UInt32)
            (response : List UInt8),
          emissions[index]? = some (memory, .response id response) →
            ∃ frame, frames[index]? = some frame ∧
              frame.messageType = MessageType.response ∧
              protobuf.parseResult frame.payload =
                ⟨some id, response, []⟩ := by
  rcases emitAll_eq_encode serializer emissions fits with
    ⟨frames, emitted, content⟩
  refine ⟨frames.flatMap Frame.encode, frames, emitted, content, ?_, ?_⟩
  · intro deliveries final whole handled
    have decoded : frameRecogniser.decode (received deliveries) =
        (frames, []) := by
      rw [whole, decode_encode]
    have processed := processAll_eq_reference protobuf handlers session
      final deliveries (by rw [decoded]; exact handled)
    rw [decoded] at processed
    exact ⟨processed,
      SocketConnection.handleAll_attempted protobuf handlers handled⟩
  · intro index memory id response emission
    have same := congrArg (fun contents => contents[index]?) content
    simp only [List.getElem?_map, emission, Option.map_some,
      Option.map_eq_some_iff, Prod.mk.injEq] at same
    rcases same with ⟨frame, found, messageType, payload⟩
    refine ⟨frame, found, messageType, ?_⟩
    rw [payload]
    exact parsedBack _ (List.mem_of_getElem? emission)

/-! ## An invocation, an event and a response -/

/-- `Result { events: "\xaa" }`. -/
def eventBytes : List UInt8 := [0x1a, 0x01, 0xaa]

/-- `Result { id: 7, response: "\x01\x02" }`. -/
def responseBytes : List UInt8 := [0x08, 0x07, 0x12, 0x02, 0x01, 0x02]

/-- The serialiser on the three messages. -/
def mixedSerializer : Serializer where
  invocation message :=
    if message = ⟨1, [0x78], [], 1⟩ then invocationBytes else []
  result message :=
    if message = ⟨none, none, [[0xaa]]⟩ then eventBytes
    else if message = ⟨some 7, some [0x01, 0x02], []⟩ then responseBytes
    else []

/-- The parser on the three messages. -/
def mixedProtobuf : Protobuf where
  parseInvocation := sampleProtobuf.parseInvocation
  parseResult payload :=
    if payload = eventBytes then ⟨none, [], [[0xaa]]⟩
    else if payload = responseBytes then ⟨some 7, [0x01, 0x02], []⟩
    else ⟨none, [], []⟩

def mixedEmissions : List (Memory × Emission) :=
  [(fun _ _ => 0x55, .invocation 1 [0x78] []),
    (fun _ _ => 0xff, .event [0xaa]),
    (fun _ _ => 0x00, .response 7 [0x01, 0x02])]

/-- The receiver has called a method under the number 7. -/
def waitingSession : Session Unit :=
  ⟨⟨PendingCallCache.saveCompletionDetails ∅ 7 ⟨100, 200⟩, ()⟩, [], []⟩

theorem emitAll_received_mixed :
    ∃ (stream : List UInt8) (frames : List Frame),
      emitAll mixedSerializer mixedEmissions = some stream ∧
        frames.map (fun frame => (frame.messageType, frame.payload)) =
          [(0, invocationBytes), (1, eventBytes), (1, responseBytes)] ∧
        ∀ deliveries : List Delivery, received deliveries = stream →
          ∃ final,
            processAll mixedProtobuf quietHandlers waitingSession []
                deliveries = .returned (final, []) ∧
              final.attempted = frames := by
  rcases emitAll_received mixedSerializer mixedProtobuf quietHandlers
      waitingSession mixedEmissions (by decide)
      (by simp [mixedEmissions, Emission.ParsedBack]; decide) with
    ⟨stream, frames, emitted, content, seen, -⟩
  refine ⟨stream, frames, emitted, content, ?_⟩
  intro deliveries whole
  have same : frames =
      [invocationFrame, ⟨1, eventBytes, by decide⟩,
        ⟨1, responseBytes, by decide⟩] := by
    have injective : Function.Injective fun frame : Frame =>
        (frame.messageType, frame.payload) := by
      intro left right equal
      exact Frame.ext (congrArg Prod.fst equal) (congrArg Prod.snd equal)
    exact List.map_injective_iff.mpr injective content
  subst same
  exact ⟨_, seen deliveries _ whole rfl⟩

end Anbox.Rpc.FrameRoundTrip
