import Anbox.Audio.PcmLifecycle
import Mathlib.Algebra.Order.Ring.Int

/-!
# The position of an audio stream

A stream counts the frames that it has written or read.  What it has told its
users is the number of bytes that each call has returned.

`in_read` counts whenever it has called `pcm_read`.  `out_write` counts
whenever it has called `pcm_write`, which it does not while it is muted.  Both
count before an error is returned.  The counters have 64 bits, and that of an
input stream is signed.
-/

namespace Anbox.Audio.PositionAccounting

open Anbox.Audio.PcmLifecycle
open Anbox.Foundation.HandleLog
open Anbox.Foundation.Runs

/-! ## Transfers that count -/

/-- The arguments of a call and how the PCM device answers. -/
structure Transfer where
  hasBuffer : Bool
  bytes : UInt64
  opening : Opening
  failure : Option Int
  /-- `errno` is not negative. -/
  errnos :
    ∀ errno,
      opening = .null errno ∨ opening = .notReady errno ∨
          failure = some errno →
        0 ≤ errno

/-- A stream with its counter, `read_frames` or `written_frames`. -/
structure CountedStream where
  pcm : Stream
  frameSize : UInt64
  frames : UInt64

/-- `ssize_t` has 64 bits. -/
def ssize (value : Int) : Int :=
  if value < 2 ^ 63 then value else value - 2 ^ 64

/-- The device is open, or it is opened, and there is something to do. -/
def reachesDevice (transfer : Transfer) (stream : Stream) : Bool :=
  transfer.hasBuffer && transfer.bytes ≠ 0 &&
    (!stream.standby || transfer.opening = .ready)

/-- `in_read`. -/
def inRead (transfer : Transfer) (stream : CountedStream)
    (library : Library) : Int × CountedStream × Library :=
  let result :=
    PcmLifecycle.inRead transfer.hasBuffer transfer.bytes.toNat
      transfer.opening transfer.failure stream.pcm library
  let frames :=
    if reachesDevice transfer stream.pcm then
      stream.frames + transfer.bytes / stream.frameSize
    else stream.frames
  (ssize result.1, { stream with pcm := result.2.1, frames }, result.2.2)

/-- `out_write`. -/
def outWrite (transfer : Transfer) (stream : CountedStream)
    (library : Library) : Int × CountedStream × Library :=
  let result :=
    PcmLifecycle.outWrite transfer.hasBuffer transfer.bytes.toNat
      transfer.opening (transfer.failure.getD 0) stream.pcm library
  let frames :=
    if reachesDevice transfer stream.pcm && !stream.pcm.muted then
      stream.frames + transfer.bytes / stream.frameSize
    else stream.frames
  (ssize result.1, { stream with pcm := result.2.1, frames }, result.2.2)

/-- `in_get_capture_position`. -/
def inGetCapturePosition (stream : CountedStream) : Int :=
  stream.frames.toInt64.toInt

/-- `out_get_presentation_position`. -/
def outGetPresentationPosition (stream : CountedStream) : Int :=
  stream.frames.toNat

/-! ## Sessions -/

/-- The calls on a stream. -/
inductive Call where
  | transfer (arguments : Transfer)
  | standby
  | setMute (mute : Bool)

/-- A stream and what its transfers have returned. -/
structure Session where
  stream : CountedStream
  library : Library
  returned : List Int

/-- A stream that has not counted anything. -/
def Session.fresh (stream : Stream) (frameSize : UInt64)
    (library : Library) : Session :=
  ⟨⟨stream, frameSize, 0⟩, library, []⟩

def transfer (direction : Direction) (arguments : Transfer)
    (stream : CountedStream) (library : Library) :
    Int × CountedStream × Library :=
  match direction with
  | .input => inRead arguments stream library
  | .output => outWrite arguments stream library

def step (direction : Direction) (session : Session) : Call → Session
  | .transfer arguments =>
      let result :=
        transfer direction arguments session.stream session.library
      ⟨result.2.1, result.2.2, session.returned ++ [result.1]⟩
  | .standby =>
      let result := standbyStream session.stream.pcm session.library
      { session with
        stream := { session.stream with pcm := result.1 }
        library := result.2 }
  | .setMute mute =>
      { session with
        stream :=
          { session.stream with
            pcm := { session.stream.pcm with muted := mute } } }

def position (direction : Direction) (stream : CountedStream) : Int :=
  match direction with
  | .input => inGetCapturePosition stream
  | .output => outGetPresentationPosition stream

/-- The frames that a result tells of. -/
def framesTold (frameSize : UInt64) (result : Int) : Nat :=
  if 0 < result then result.toNat / frameSize.toNat else 0

/-- The position is the number of frames that the results tell of. -/
def PositionExact (direction : Direction) (session : Session) : Prop :=
  position direction session.stream =
    ((session.returned.map (framesTold session.stream.frameSize)).sum : Int)

/-! ## When the position is exact -/

/-- The first number that the counter cannot report. -/
def limit : Direction → Nat
  | .input => 2 ^ 63
  | .output => 2 ^ 64

/-- The PCM device fails, and the failure is noticed. -/
def fails (direction : Direction) (failure : Option Int) : Bool :=
  match direction with
  | .input => failure.isSome
  | .output => failure.getD 0 ≠ 0

/-- The frames are counted and the result tells of them. -/
structure Transfers (direction : Direction) (session : Session)
    (arguments : Transfer) : Prop where
  size : arguments.bytes.toNat < 2 ^ 63
  audible : direction = .output → session.stream.pcm.muted = false
  succeeds : fails direction arguments.failure = false
  room :
    position direction session.stream +
      (arguments.bytes / session.stream.frameSize).toNat < limit direction

/-- Nothing is written, and the number of bytes is too large to be told. -/
structure Untold (direction : Direction) (session : Session)
    (arguments : Transfer) : Prop where
  isOutput : direction = .output
  muted : session.stream.pcm.muted = true
  size : 2 ^ 63 ≤ arguments.bytes.toNat

/--
What gets to the device has no whole frame or is transferred: the stream is
not muted, the PCM device does not fail and the counter does not overflow.
-/
def CountsWell (direction : Direction) (session : Session) : Call → Prop
  | .transfer arguments =>
      reachesDevice arguments session.stream.pcm = true →
        arguments.bytes / session.stream.frameSize = 0 ∨
          Transfers direction session arguments ∨
            Untold direction session arguments
  | _ => True

/-! ## One transfer -/

/-- The frames of the call are counted. -/
def counts (direction : Direction) (stream : Stream)
    (arguments : Transfer) : Bool :=
  reachesDevice arguments stream &&
    (direction = .input || !stream.muted)

/-- The call returns the number of its bytes. -/
def delivers (direction : Direction) (stream : Stream)
    (arguments : Transfer) : Bool :=
  reachesDevice arguments stream &&
    (!fails direction arguments.failure ||
      direction = .output && stream.muted)

theorem framesTold_refused (frameSize : UInt64) {result : Int}
    (refused : result ≤ 0) : framesTold frameSize (ssize result) = 0 := by
  have same : ssize result = result := if_pos (by omega)
  rw [same, framesTold, if_neg (by omega)]

theorem framesTold_bytes (frameSize bytes : UInt64) :
    framesTold frameSize (ssize bytes.toNat) =
      if bytes.toNat < 2 ^ 63 then (bytes / frameSize).toNat else 0 := by
  have below := bytes.toNat_lt
  split
  · rename_i small
    have same : ssize bytes.toNat = bytes.toNat := if_pos (by omega)
    rw [same, UInt64.toNat_div]
    unfold framesTold
    split
    · simp
    · have none : bytes.toNat = 0 := by omega
      simp [none]
  · rename_i large
    have negative : ssize bytes.toNat = bytes.toNat - 2 ^ 64 :=
      if_neg (by omega)
    rw [negative, framesTold, if_neg (by omega)]

theorem transfer_fst (direction : Direction) (arguments : Transfer)
    (stream : CountedStream) (library : Library) :
    (transfer direction arguments stream library).1 =
      ssize
        (PcmLifecycle.transfer direction arguments.hasBuffer
          arguments.bytes.toNat arguments.opening arguments.failure
          stream.pcm library).1 := by
  cases direction with
  | input => rfl
  | output => rfl

/-- What is returned without the device being used. -/
def returnedEarly (arguments : Transfer) (stream : Stream) : Option Int :=
  if !arguments.hasBuffer then some einval
  else if arguments.bytes.toNat = 0 then some 0
  else if stream.standby then
    match arguments.opening with
    | .null errno => some (-errno)
    | .notReady errno => some (-errno)
    | .ready => none
  else none

theorem returnedEarly_eq_none_iff (arguments : Transfer) (stream : Stream) :
    returnedEarly arguments stream = none ↔
      reachesDevice arguments stream = true := by
  have isZero : arguments.bytes.toNat = 0 ↔ arguments.bytes = 0 := by
    rw [← UInt64.toNat_zero, UInt64.toNat_inj]
  unfold returnedEarly reachesDevice
  simp only [isZero]
  cases opening : arguments.opening with
  | null errno => split_ifs <;> simp_all
  | notReady errno => split_ifs <;> simp_all
  | ready => split_ifs <;> simp_all

/-- No number of bytes is returned early. -/
theorem returnedEarly_nonpos {arguments : Transfer} {stream : Stream}
    {code : Int} (early : returnedEarly arguments stream = some code) :
    code ≤ 0 := by
  have refused : einval ≤ 0 := by decide
  unfold returnedEarly at early
  split at early
  · exact Option.some.inj early ▸ refused
  · split at early
    · exact Option.some.inj early ▸ le_rfl
    · split at early
      · split at early
        · rename_i errno opening
          have nonneg := arguments.errnos errno (Or.inl opening)
          have same := Option.some.inj early
          omega
        · rename_i errno opening
          have nonneg := arguments.errnos errno (Or.inr (Or.inl opening))
          have same := Option.some.inj early
          omega
        · cases early
      · cases early

theorem readFrames_fst (bytes : Nat) (failure : Option Int)
    (stream : Stream) (library : Library) :
    (readFrames bytes failure stream library).1 =
      match failure with
      | some errno => -errno
      | none => bytes := by
  cases failure with
  | none => rfl
  | some errno => rfl

theorem inRead_fst (arguments : Transfer) (stream : Stream)
    (library : Library) :
    (PcmLifecycle.inRead arguments.hasBuffer arguments.bytes.toNat
        arguments.opening arguments.failure stream library).1 =
      (returnedEarly arguments stream).getD
        (match arguments.failure with
        | some errno => -errno
        | none => arguments.bytes.toNat) := by
  unfold PcmLifecycle.inRead returnedEarly
  split_ifs with buffer empty standby
  · rfl
  · rfl
  · cases arguments.opening with
    | null errno => rfl
    | notReady errno => rfl
    | ready => exact readFrames_fst _ _ _ _
  · exact readFrames_fst _ _ _ _

/-- What `out_write` returns once the device is open. -/
def writtenResult (bytes : Nat) (originalErrno : Int) (muted : Bool) : Int :=
  if !muted && originalErrno ≠ 0 then -originalErrno else bytes

theorem writeFrames_fst (bytes : Nat) (originalErrno : Int)
    (stream : Stream) (library : Library) :
    (writeFrames bytes originalErrno stream library).1 =
      writtenResult bytes originalErrno stream.muted := by
  unfold writeFrames writtenResult
  by_cases failed : (!stream.muted && originalErrno ≠ 0) = true
  · simp only [failed, if_true]
    split <;> rfl
  · simp only [failed]
    rfl

theorem outWrite_fst (arguments : Transfer) (originalErrno : Int)
    (stream : Stream) (library : Library) :
    (PcmLifecycle.outWrite arguments.hasBuffer arguments.bytes.toNat
        arguments.opening originalErrno stream library).1 =
      (returnedEarly arguments stream).getD
        (writtenResult arguments.bytes.toNat originalErrno
          stream.muted) := by
  unfold PcmLifecycle.outWrite returnedEarly
  split_ifs with buffer empty standby
  · rfl
  · rfl
  · cases arguments.opening with
    | null errno => rfl
    | notReady errno => rfl
    | ready => exact writeFrames_fst _ _ _ _
  · exact writeFrames_fst _ _ _ _

/-- The whole frames of a call. -/
def wholeFrames (stream : CountedStream) (arguments : Transfer) : Nat :=
  (arguments.bytes / stream.frameSize).toNat

/-- The frames that the result of a call tells of. -/
def told (direction : Direction) (stream : CountedStream)
    (arguments : Transfer) : Nat :=
  if delivers direction stream.pcm arguments = true ∧
      arguments.bytes.toNat < 2 ^ 63 then
    wholeFrames stream arguments
  else 0

/-- What a call returns once the device is open. -/
def deviceResult (direction : Direction) (stream : Stream)
    (arguments : Transfer) : Int :=
  match direction with
  | .input =>
      match arguments.failure with
      | some errno => -errno
      | none => arguments.bytes.toNat
  | .output =>
      writtenResult arguments.bytes.toNat (arguments.failure.getD 0)
        stream.muted

theorem transfer_result (direction : Direction) (arguments : Transfer)
    (stream : Stream) (library : Library) :
    (PcmLifecycle.transfer direction arguments.hasBuffer
        arguments.bytes.toNat arguments.opening arguments.failure stream
        library).1 =
      (returnedEarly arguments stream).getD
        (deviceResult direction stream arguments) := by
  cases direction with
  | input => exact inRead_fst _ _ _
  | output => exact outWrite_fst _ _ _ _

/-- Of a failed call the result tells of no frames. -/
theorem framesTold_deviceResult (direction : Direction)
    {arguments : Transfer} {stream : CountedStream}
    (reaches : reachesDevice arguments stream.pcm = true) :
    framesTold stream.frameSize
        (ssize (deviceResult direction stream.pcm arguments)) =
      told direction stream arguments := by
  unfold told wholeFrames
  cases direction with
  | input =>
      cases failure : arguments.failure with
      | none =>
          simp [deviceResult, framesTold_bytes, delivers, reaches, fails,
            failure]
      | some errno =>
          have nonneg := arguments.errnos errno (Or.inr (Or.inr failure))
          have refused : -errno ≤ 0 := by omega
          simp [deviceResult, framesTold_refused _ refused, delivers,
            reaches, fails, failure]
  | output =>
      cases muted : stream.pcm.muted with
      | true =>
          simp [deviceResult, writtenResult, framesTold_bytes, delivers,
            reaches, muted]
      | false =>
          by_cases failed : arguments.failure.getD 0 ≠ 0
          · have nonneg : 0 ≤ arguments.failure.getD 0 := by
              cases failure : arguments.failure with
              | none => exact le_rfl
              | some errno =>
                  exact arguments.errnos errno (Or.inr (Or.inr failure))
            have refused : -arguments.failure.getD 0 ≤ 0 := by omega
            simp [deviceResult, writtenResult, framesTold_refused _ refused,
              delivers, reaches, fails, muted, failed]
          · simp [deviceResult, writtenResult, framesTold_bytes, delivers,
              reaches, fails, muted, failed]

/-- Where nothing is delivered, the result tells of no frames. -/
theorem framesTold_transfer (direction : Direction) (arguments : Transfer)
    (stream : CountedStream) (library : Library) :
    framesTold stream.frameSize
        (transfer direction arguments stream library).1 =
      told direction stream arguments := by
  have reached := returnedEarly_eq_none_iff arguments stream.pcm
  rw [transfer_fst, transfer_result]
  cases returned : returnedEarly arguments stream.pcm with
  | some code =>
      have missed : reachesDevice arguments stream.pcm = false := by
        simpa [returned] using reached
      rw [Option.getD_some,
        framesTold_refused _ (returnedEarly_nonpos returned)]
      simp [told, delivers, missed]
  | none =>
      exact framesTold_deviceResult direction (reached.mp returned)

@[simp]
theorem frameSize_transfer (direction : Direction) (arguments : Transfer)
    (stream : CountedStream) (library : Library) :
    (transfer direction arguments stream library).2.1.frameSize =
      stream.frameSize := by
  cases direction with
  | input => rfl
  | output => rfl

theorem frames_transfer (direction : Direction) (arguments : Transfer)
    (stream : CountedStream) (library : Library) :
    (transfer direction arguments stream library).2.1.frames =
      if counts direction stream.pcm arguments = true then
        stream.frames + arguments.bytes / stream.frameSize
      else stream.frames := by
  cases direction with
  | input => simp [transfer, inRead, counts]
  | output => simp [transfer, outWrite, counts]

/-! ## The position after a step -/

/-- The counter reports a number if it holds it and can report it. -/
theorem position_eq_natCast_iff (direction : Direction)
    (stream : CountedStream) (number : Nat) :
    position direction stream = number ↔
      stream.frames.toNat = number ∧ number < limit direction := by
  have below := stream.frames.toNat_lt
  cases direction with
  | input =>
      have signed :
          position .input stream =
            if 2 * stream.frames.toNat < 2 ^ 64 then
              (stream.frames.toNat : Int)
            else (stream.frames.toNat : Int) - ((2 ^ 64 : Nat) : Int) :=
        BitVec.toInt_eq_toNat_cond stream.frames.toBitVec
      rw [signed, limit]
      split <;> omega
  | output =>
      simp only [position, outGetPresentationPosition, limit]
      omega

/-- The counter and the results after a transfer, where they agreed. -/
theorem positionExact_transfer_iff {direction : Direction}
    {session : Session} {total : Nat}
    (sum :
      (session.returned.map (framesTold session.stream.frameSize)).sum =
        total)
    (exact : PositionExact direction session) (arguments : Transfer) :
    PositionExact direction (step direction session (.transfer arguments)) ↔
      (if counts direction session.stream.pcm arguments = true then
          (total + wholeFrames session.stream arguments) % 2 ^ 64
        else total) = total + told direction session.stream arguments ∧
        total + told direction session.stream arguments <
          limit direction := by
  have before : position direction session.stream = (total : Int) := by
    rw [← sum]
    exact exact
  have held := ((position_eq_natCast_iff direction _ total).mp before).1
  have after :
      (transfer direction arguments session.stream
          session.library).2.1.frames.toNat =
        if counts direction session.stream.pcm arguments = true then
          (total + wholeFrames session.stream arguments) % 2 ^ 64
        else total := by
    rw [frames_transfer]
    split
    · rw [UInt64.toNat_add, held, wholeFrames]
    · exact held
  rw [PositionExact, ← after, ← position_eq_natCast_iff, ← sum]
  simp only [step, frameSize_transfer, List.map_append,
    List.map_singleton, List.sum_append, List.sum_singleton,
    framesTold_transfer]

theorem transfers_iff {direction : Direction} {session : Session}
    {total : Nat}
    (before : position direction session.stream = (total : Int))
    (arguments : Transfer) :
    Transfers direction session arguments ↔
      arguments.bytes.toNat < 2 ^ 63 ∧
        (direction = .output → session.stream.pcm.muted = false) ∧
        fails direction arguments.failure = false ∧
        total + wholeFrames session.stream arguments < limit direction := by
  constructor
  · rintro ⟨size, audible, succeeds, room⟩
    rw [before] at room
    exact ⟨size, audible, succeeds, by unfold wholeFrames; omega⟩
  · rintro ⟨size, audible, succeeds, room⟩
    refine ⟨size, audible, succeeds, ?_⟩
    rw [before]
    unfold wholeFrames at room
    omega

theorem untold_iff (direction : Direction) (session : Session)
    (arguments : Transfer) :
    Untold direction session arguments ↔
      direction = .output ∧ session.stream.pcm.muted = true ∧
        ¬arguments.bytes.toNat < 2 ^ 63 := by
  constructor
  · rintro ⟨isOutput, muted, size⟩
    exact ⟨isOutput, muted, Nat.not_lt.mpr size⟩
  · rintro ⟨isOutput, muted, size⟩
    exact ⟨isOutput, muted, Nat.le_of_not_lt size⟩

theorem told_eq_wholeFrames_iff (direction : Direction)
    (stream : CountedStream) (arguments : Transfer) :
    told direction stream arguments = wholeFrames stream arguments ↔
      delivers direction stream.pcm arguments = true ∧
          arguments.bytes.toNat < 2 ^ 63 ∨
        wholeFrames stream arguments = 0 := by
  unfold told
  split
  · rename_i delivered
    exact iff_of_true rfl (Or.inl delivered)
  · rename_i missed
    rw [eq_comm, or_iff_right missed]

theorem told_eq_zero_iff (direction : Direction)
    (stream : CountedStream) (arguments : Transfer) :
    told direction stream arguments = 0 ↔
      ¬(delivers direction stream.pcm arguments = true ∧
          arguments.bytes.toNat < 2 ^ 63) ∨
        wholeFrames stream arguments = 0 := by
  unfold told
  split
  · rename_i delivered
    rw [or_iff_right (not_not.mpr delivered)]
  · rename_i missed
    exact iff_of_true rfl (Or.inl missed)

theorem told_cases (direction : Direction) (stream : CountedStream)
    (arguments : Transfer) :
    told direction stream arguments = wholeFrames stream arguments ∨
      told direction stream arguments = 0 := by
  unfold told
  split
  · exact Or.inl rfl
  · exact Or.inr rfl

/-- What is counted has to be told, and what is not must not be. -/
theorem counter_exact_iff {total frames result bound : Nat}
    (counted : Bool) (wordSized : frames < 2 ^ 64)
    (start : total < bound) (fits : bound ≤ 2 ^ 64)
    (told : result = frames ∨ result = 0) :
    (if counted = true then (total + frames) % 2 ^ 64 else total) =
          total + result ∧ total + result < bound ↔
      frames = 0 ∨
        counted = true ∧ result = frames ∧ total + frames < bound ∨
        counted = false ∧ result = 0 := by
  cases counted with
  | true =>
      rw [if_pos rfl]
      rcases told with rfl | rfl
      · simp only [true_and, reduceCtorEq, false_and, or_false]
        omega
      · simp only [true_and, reduceCtorEq, false_and, or_false]
        omega
  | false =>
      simp only [Bool.false_eq_true, if_false, false_and, true_and,
        false_or]
      omega

/-- Under a position that is exact, the steps that count well keep it so. -/
theorem countsWell_iff_positionExact (direction : Direction)
    (session : Session) (call : Call)
    (exact : PositionExact direction session) :
    CountsWell direction session call ↔
      PositionExact direction (step direction session call) := by
  cases call with
  | standby => exact iff_of_true trivial exact
  | setMute mute => exact iff_of_true trivial exact
  | transfer arguments =>
      have held := (position_eq_natCast_iff direction _ _).mp exact
      have noWhole :
          arguments.bytes / session.stream.frameSize = 0 ↔
            wholeFrames session.stream arguments = 0 := by
        rw [← UInt64.toNat_inj]
        rfl
      have limited : limit direction ≤ 2 ^ 64 := by
        cases direction with
        | input => decide
        | output => decide
      have wordSized : wholeFrames session.stream arguments < 2 ^ 64 :=
        UInt64.toNat_lt _
      rw [positionExact_transfer_iff rfl exact, CountsWell,
        transfers_iff exact, untold_iff, noWhole,
        counter_exact_iff _ wordSized held.2 limited
          (told_cases direction _ arguments),
        told_eq_wholeFrames_iff, told_eq_zero_iff]
      cases reaches : reachesDevice arguments session.stream.pcm with
      | false => simp [counts, delivers, reaches]
      | true =>
          cases direction with
          | input =>
              cases failing : fails .input arguments.failure with
              | false =>
                  simp [counts, delivers, reaches, failing]
                  tauto
              | true =>
                  simp [counts, delivers, reaches, failing]
                  tauto
          | output =>
              cases muted : session.stream.pcm.muted with
              | true =>
                  simp [counts, delivers, reaches, muted]
                  tauto
              | false =>
                  cases failing : fails .output arguments.failure with
                  | false =>
                      simp [counts, delivers, reaches, muted, failing]
                      tauto
                  | true =>
                      simp [counts, delivers, reaches, muted, failing]
                      tauto

/-! ## Runs -/

theorem positionExact_fresh (direction : Direction) (stream : Stream)
    (frameSize : UInt64) (library : Library) :
    PositionExact direction (.fresh stream frameSize library) := by
  cases direction with
  | input => rfl
  | output => rfl

/-- The position is exact all through a run if and only if all calls count. -/
theorem positionExact_always_iff_countsWell (direction : Direction)
    (stream : Stream) (frameSize : UInt64) (library : Library)
    (calls : List Call) :
    (∀ earlier, earlier <+: calls →
        PositionExact direction
          (runFrom (step direction) (.fresh stream frameSize library)
            earlier)) ↔
      Admitted (step direction) (CountsWell direction)
        (.fresh stream frameSize library) calls :=
  (@admitted_iff_always Session Call (step direction)
    (CountsWell direction) (fun _ => True) (PositionExact direction)
    (fun _ _ _ => trivial)
    (fun session call _ exact =>
      countsWell_iff_positionExact direction session call exact)
    (.fresh stream frameSize library) trivial
    (positionExact_fresh direction stream frameSize library)
    calls).symm

/-- One frame of four bytes, with the error of the device. -/
def oneFrame (failure : Option Nat) : Transfer :=
  { hasBuffer := true
    bytes := 4
    opening := .ready
    failure := failure.map Int.ofNat
    errnos := by
      rintro errno (isNull | notReady | failed)
      · cases isNull
      · cases notReady
      · rcases Option.map_eq_some_iff.mp failed with ⟨code, _, rfl⟩
        exact Int.natCast_nonneg code }

/-- A frame on a stream that has just been created. -/
def oneFrameSession (direction : Direction) (mute : Bool)
    (failure : Option Nat) : Session :=
  runFrom (step direction) (.fresh (.opened 0) 4 .initial)
    [.setMute mute, .transfer (oneFrame failure)]

instance (direction : Direction) (session : Session) :
    Decidable (PositionExact direction session) :=
  inferInstanceAs (Decidable (_ = _))

/--
A muted output stream tells of a frame and does not count it, and both kinds
of streams count a frame that fails.
-/
theorem muted_frame_not_counted :
    ((oneFrameSession .output true none).returned = [4] ∧
      position .output (oneFrameSession .output true none).stream = 0 ∧
      ¬PositionExact .output (oneFrameSession .output true none)) ∧
    ((oneFrameSession .output false (some 5)).returned = [-5] ∧
      position .output (oneFrameSession .output false (some 5)).stream = 1 ∧
      ¬PositionExact .output (oneFrameSession .output false (some 5))) ∧
    (oneFrameSession .input false (some 5)).returned = [-5] ∧
      position .input (oneFrameSession .input false (some 5)).stream = 1 ∧
      ¬PositionExact .input (oneFrameSession .input false (some 5)) := by
  decide

end Anbox.Audio.PositionAccounting
