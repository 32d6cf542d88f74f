import Anbox.Rpc.MessageProcessor

/-!
# Reading an RPC connection

`SocketConnection` keeps one asynchronous read outstanding.  When it completes,
`on_read_size` passes the bytes to the message processor and, after the
processor has returned, asks for the next read.  The callback runs inside
`exception_safe_run`, which catches every exception and goes on serving other
callbacks.

An exception therefore skips two things: the frame that caused it is not
erased from the processor's buffer and no further read is requested.  The
theorem of this module says for which streams all frames are handled.
-/

namespace Anbox.Rpc.SocketConnection

open Anbox.Foundation.Framing
open Anbox.Rpc.PendingCallCache
open Anbox.Rpc.MessageProcessor

variable {World : Type} (protobuf : Protobuf) (handlers : Handlers World)

/-- A connection with the state of its message processor. -/
structure Connection (World : Type) where
  session : Session World
  buffer : List UInt8
  /-- An asynchronous read is outstanding. -/
  reading : Bool
  /-- The connection is listed in `connections_`. -/
  listed : Bool

/-- A connection after `read_next_message` has been called for the first time. -/
def Connection.initial (session : Session World) : Connection World :=
  ⟨session, [], true, true⟩

/-- How an asynchronous read ends. -/
inductive ReadResult where
  | error
  | data (delivery : Delivery)

/--
`on_read_size`, run by `exception_safe_run`.

The RPC processor returns `true` whenever it returns, so the branch that
removes the connection after a `false` is never taken for it.
-/
def onReadSize (connection : Connection World) :
    ReadResult → Connection World
  | .error => { connection with reading := false, listed := false }
  | .data delivery =>
      match processData protobuf handlers connection.session
          connection.buffer delivery with
      | .returned (session, buffer) => { connection with session, buffer }
      | .thrown (session, buffer) =>
          { connection with session, buffer, reading := false }

/-- Bytes that arrive while no read is outstanding stay in the socket. -/
def arrive (connection : Connection World) (delivery : Delivery) :
    Connection World :=
  if connection.reading then
    onReadSize protobuf handlers connection (.data delivery)
  else connection

/-- The bytes of a connection arriving in several pieces. -/
def arriveAll (connection : Connection World)
    (deliveries : List Delivery) : Connection World :=
  deliveries.foldl (arrive protobuf handlers) connection

/-! ## Frames that have been taken up -/

/-- The state a call ended in, however it ended. -/
def lastState {State : Type} : Outcome State → State
  | .returned state => state
  | .thrown state => state

theorem call_attempted (session : Session World)
    (callback : Shared World → Outcome (Shared World)) :
    (lastState (session.call callback)).attempted = session.attempted := by
  cases result : callback session.shared <;>
    simp [Session.call, result, lastState]

theorem completeCall_attempted (session : Session World) (id : UInt32)
    (response : List UInt8) :
    (lastState (completeCall handlers session id response)).attempted =
      session.attempted := by
  unfold completeCall
  split
  · rfl
  · dsimp only
    split
    · rfl
    · rw [call_attempted]
      rfl

theorem processEvents_attempted (session : Session World)
    (sequences : List (List UInt8)) :
    (lastState (processEvents handlers session sequences)).attempted =
      session.attempted := by
  induction sequences generalizing session with
  | nil => rfl
  | cons sequence sequences inductionHypothesis =>
      have head := call_attempted (session.observe (.event sequence))
        fun shared => handlers.processEventSequence shared sequence
      rw [processEvents]
      cases result :
          (session.observe (.event sequence)).call
            fun shared =>
              handlers.processEventSequence shared sequence with
      | returned next =>
          rw [result] at head
          rw [Outcome.andThen_returned, inductionHypothesis]
          exact head
      | thrown next =>
          rw [result] at head
          exact head

/-- Handling a frame takes up exactly this frame, whether it throws or not. -/
theorem handleFrame_attempted (session : Session World) (frame : Frame) :
    (lastState (handleFrame protobuf handlers session frame)).attempted =
      session.attempted ++ [frame] := by
  unfold handleFrame
  dsimp only
  split
  · rw [call_attempted]
    rfl
  · split
    · rw [processResult]
      split
      · rw [Outcome.andThen_returned, processEvents_attempted]
      · rename_i id _
        have head := completeCall_attempted handlers
          { session with attempted := session.attempted ++ [frame] } id
          (protobuf.parseResult frame.payload).response
        cases answered : completeCall handlers
            { session with attempted := session.attempted ++ [frame] } id
            (protobuf.parseResult frame.payload).response with
        | returned next =>
            rw [answered] at head
            rw [Outcome.andThen_returned, processEvents_attempted]
            exact head
        | thrown next =>
            rw [answered] at head
            exact head
    · rfl

theorem handleAll_attempted {session final : Session World}
    {frames : List Frame}
    (handled :
      handleAll (handleFrame protobuf handlers) session frames =
        .returned final) :
    final.attempted = session.attempted ++ frames := by
  induction frames generalizing session with
  | nil =>
      cases handled
      simp
  | cons frame frames inductionHypothesis =>
      have head := handleFrame_attempted protobuf handlers session frame
      rcases Outcome.andThen_eq_returned_iff.mp handled with
        ⟨next, result, handled⟩
      rw [result] at head
      rw [inductionHypothesis handled, show next.attempted = _ from head]
      simp

/-! ## Streams with bad frames -/

theorem arriveAll_not_reading {connection : Connection World}
    (stopped : connection.reading = false) (deliveries : List Delivery) :
    arriveAll protobuf handlers connection deliveries = connection := by
  induction deliveries with
  | nil => rfl
  | cons delivery deliveries inductionHypothesis =>
      rw [arriveAll, List.foldl_cons, arrive, stopped]
      exact inductionHypothesis

/-- As long as no call throws, the connection is in the state of the processor. -/
theorem arriveAll_of_processAll (connection : Connection World)
    (reading : connection.reading = true)
    {session : Session World} {buffer : List UInt8}
    (deliveries : List Delivery)
    (processed :
      processAll protobuf handlers connection.session connection.buffer
          deliveries =
        .returned (session, buffer)) :
    arriveAll protobuf handlers connection deliveries =
      { connection with session, buffer } := by
  induction deliveries generalizing connection with
  | nil =>
      cases processed
      rfl
  | cons delivery deliveries inductionHypothesis =>
      rcases Outcome.andThen_eq_returned_iff.mp processed with
        ⟨next, call, processed⟩
      have arrived : arrive protobuf handlers connection delivery =
          { connection with session := next.1, buffer := next.2 } := by
        simp [arrive, reading, onReadSize, call]
      rw [arriveAll, List.foldl_cons, arrived]
      exact inductionHypothesis
        { connection with session := next.1, buffer := next.2 }
        reading processed

/-- A frame that throws is still in the buffer when all bytes have arrived. -/
theorem arriveAll_of_thrown (connection : Connection World)
    (reading : connection.reading = true)
    (incomplete : nextFrame connection.buffer = none)
    {final : Session World} (deliveries : List Delivery)
    (handled :
      handleAll (handleFrame protobuf handlers) connection.session
          (frameRecogniser.decode
            (connection.buffer ++ received deliveries)).1 =
        .thrown final) :
    nextFrame (arriveAll protobuf handlers connection deliveries).buffer ≠
      none := by
  induction deliveries generalizing connection with
  | nil =>
      have rest : frameRecogniser.decode connection.buffer =
          ([], connection.buffer) :=
        Recogniser.decode_of_none incomplete
      simp [received, rest, handleAll] at handled
  | cons delivery deliveries inductionHypothesis =>
      have split : connection.buffer ++ received (delivery :: deliveries) =
          connection.buffer ++ delivery.data ++ received deliveries := by
        simp [received]
      rw [split, Recogniser.decode_append, handleAll_append] at handled
      rw [arriveAll, List.foldl_cons]
      cases first :
          handleAll (handleFrame protobuf handlers) connection.session
            (frameRecogniser.decode
              (connection.buffer ++ delivery.data)).1 with
      | thrown stopped =>
          obtain ⟨remaining, consumed, complete⟩ :=
            Recogniser.consumeFuel_thrown (Nat.le_refl _) first
          rw [← processData_eq_consumeFuel] at consumed
          have arrived : arrive protobuf handlers connection delivery =
              { connection with
                session := stopped, buffer := remaining,
                reading := false } := by
            simp [arrive, reading, onReadSize, consumed]
          rw [arrived, ← arriveAll, arriveAll_not_reading _ _ rfl]
          exact complete
      | returned middle =>
          rw [first, Outcome.andThen_returned] at handled
          have call :=
            Recogniser.consumeFuel_returned (Nat.le_refl _) first
          rw [← processData_eq_consumeFuel] at call
          have arrived : arrive protobuf handlers connection delivery =
              { connection with
                session := middle
                buffer := (frameRecogniser.decode
                  (connection.buffer ++ delivery.data)).2 } := by
            simp [arrive, reading, onReadSize, call]
          rw [arrived]
          exact inductionHypothesis
            { connection with
              session := middle
              buffer := (frameRecogniser.decode
                (connection.buffer ++ delivery.data)).2 }
            reading
            (frameRecogniser.next_decode_rest _)
            handled

/--
Every frame of a stream is taken up once, in order, and none is left in the
buffer, exactly if no frame throws when the frames are handled in order.
-/
theorem arriveAll_handles_iff (session : Session World)
    (frames : List Frame) (deliveries : List Delivery)
    (whole : received deliveries = frames.flatMap Frame.encode) :
    ((arriveAll protobuf handlers (.initial session) deliveries).buffer =
          [] ∧
        (arriveAll protobuf handlers (.initial session)
            deliveries).session.attempted =
          session.attempted ++ frames) ↔
      ∃ final,
        handleAll (handleFrame protobuf handlers) session frames =
          .returned final := by
  have decoded : frameRecogniser.decode (received deliveries) =
      (frames, []) := by
    rw [whole, decode_encode]
  constructor
  · rintro ⟨empty, -⟩
    cases outcome :
        handleAll (handleFrame protobuf handlers) session frames with
    | returned final => exact ⟨final, rfl⟩
    | thrown final =>
        have thrown :
            handleAll (handleFrame protobuf handlers) session
                (frameRecogniser.decode ([] ++ received deliveries)).1 =
              .thrown final := by
          simpa [decoded] using outcome
        have stuck := arriveAll_of_thrown protobuf handlers
          (.initial session) rfl rfl deliveries thrown
        rw [empty] at stuck
        exact absurd rfl stuck
  · rintro ⟨final, handled⟩
    have processed := processAll_eq_reference protobuf handlers
      session final deliveries (by rw [decoded]; exact handled)
    rw [decoded] at processed
    have arrived := arriveAll_of_processAll protobuf handlers
      (.initial session) rfl deliveries processed
    rw [arrived]
    exact ⟨rfl, handleAll_attempted protobuf handlers handled⟩

/-- A call is waiting for the result with the number 7. -/
def pendingSession : Session Unit :=
  ⟨⟨saveCompletionDetails ∅ 7 ⟨1, 2⟩, ()⟩, [], []⟩

/-- An invocation and the result, cut in a header and in a payload. -/
def splitDeliveries : List Delivery :=
  [⟨invocationFrame.encode ++ resultFrame.encode.take 2, fun _ _ => 0⟩,
    ⟨(resultFrame.encode ++ invocationFrame.encode).extract 2 9,
      fun _ _ => 0xff⟩,
    ⟨invocationFrame.encode.drop 3, fun _ _ => 0⟩]

theorem arriveAll_handles_iff_split :
    (arriveAll sampleProtobuf quietHandlers (.initial pendingSession)
        splitDeliveries).buffer = [] ∧
      (arriveAll sampleProtobuf quietHandlers (.initial pendingSession)
          splitDeliveries).session.attempted =
        [invocationFrame, resultFrame, invocationFrame] :=
  (arriveAll_handles_iff sampleProtobuf quietHandlers pendingSession
    [invocationFrame, resultFrame, invocationFrame] splitDeliveries
      rfl).mpr ⟨_, rfl⟩

/--
A result for a call that is not pending, followed by an invocation: the
invocation is never dispatched and both frames stay in the buffer.
-/
theorem unknown_result_blocks_invocation :
    received [⟨resultFrame.encode ++ invocationFrame.encode, fun _ _ => 0⟩] =
        [resultFrame, invocationFrame].flatMap Frame.encode ∧
      (arriveAll sampleProtobuf quietHandlers (.initial emptySession)
          [⟨resultFrame.encode ++ invocationFrame.encode,
            fun _ _ => 0⟩]).session.log = [] ∧
      (arriveAll sampleProtobuf quietHandlers (.initial emptySession)
          [⟨resultFrame.encode ++ invocationFrame.encode,
            fun _ _ => 0⟩]).buffer =
        resultFrame.encode ++ invocationFrame.encode := by
  refine ⟨rfl, rfl, rfl⟩

end Anbox.Rpc.SocketConnection
