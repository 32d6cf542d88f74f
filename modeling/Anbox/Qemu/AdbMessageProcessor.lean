import Mathlib.Algebra.Order.Ring.Nat
import Mathlib.Data.List.Basic

/-!
# The handshake of the adb proxy

`AdbMessageProcessor` connects adb in the container with adb on the host.  The
container says `accept`, is told `ok` once the host has connected and says
`start`; from then on everything is passed through.

While a command is expected, `process_data` collects bytes until there are as
many as the command has and compares the beginning of the buffer with the
command.  The number of bytes it compares is the size of the last delivery,
not the size of the command.  This module says when that makes no difference.
-/

namespace Anbox.Qemu.AdbMessageProcessor

/-- Identity of a TCP connection to adb on the host. -/
abbrev HostConnection := Nat

inductive State where
  | waitingForGuestAcceptCommand
  | waitingForHostConnection
  | waitingForGuestStartCommand
  | proxyingData
  | closedByContainer
  | closedByHost
deriving DecidableEq, Repr

/-- The bytes of `accept`. -/
def acceptCommand : List UInt8 := [0x61, 0x63, 0x63, 0x65, 0x70, 0x74]

/-- The bytes of `start`. -/
def startCommand : List UInt8 := [0x73, 0x74, 0x61, 0x72, 0x74]

structure Processor where
  state : State
  expectedCommand : List UInt8
  buffer : List UInt8
  /-- `host_connector_` listens for adb on the host. -/
  hostConnector : Bool
  hostMessenger : Option HostConnection
  /-- The connections on which a read is outstanding. -/
  reading : List HostConnection
deriving DecidableEq, Repr

def Processor.initial : Processor :=
  ⟨.waitingForGuestAcceptCommand, acceptCommand, [], false, none, []⟩

/-- What the processor does to its two connections. -/
inductive Effect where
  /-- `messenger_` sends `ok`. -/
  | ok
  | toGuest (connection : HostConnection) (data : List UInt8)
  | toHost (connection : Option HostConnection) (data : List UInt8)
  /-- `messenger_` is closed. -/
  | closeGuest
deriving DecidableEq, Repr

/-! ## Advancing -/

/-- Listening goes on for as long as the processor exists. -/
def waitForHostConnection (processor : Processor) : Processor :=
  if processor.state ≠ .waitingForGuestAcceptCommand then processor
  else { processor with hostConnector := true }

def readNextHostMessage (processor : Processor) : Processor :=
  { processor with
    reading := processor.reading ++ processor.hostMessenger.toList }

/-- `lock_` is taken in the first state; other processors wait there. -/
def advanceState (processor : Processor) : Processor × List Effect :=
  match processor.state with
  | .waitingForGuestAcceptCommand => (waitForHostConnection processor, [])
  | .waitingForHostConnection =>
      ({ processor with
        state := .waitingForGuestStartCommand
        expectedCommand := startCommand }, [.ok])
  | .waitingForGuestStartCommand =>
      (readNextHostMessage { processor with state := .proxyingData }, [])
  | .proxyingData => (processor, [])
  | .closedByHost => (processor, [.closeGuest])
  | .closedByContainer => (processor, [])

/-! ## Data from the guest -/

/--
The bytes of one read.  `behind` is what `memcmp` finds in memory behind the
terminating zero of `expected_command_`.
-/
structure Delivery where
  data : List UInt8
  behind : Nat → UInt8

/-- The first `size` bytes that `expected_command_.data()` points to. -/
def commandMemory (command : List UInt8) (behind : Nat → UInt8)
    (size : Nat) : List UInt8 :=
  (command ++ 0 :: (List.range size).map behind).take size

/-- Returns whether the connection stays open. -/
def processData (processor : Processor) (delivery : Delivery) :
    Bool × Processor × List Effect :=
  if processor.state = .proxyingData then
    (true, processor, [.toHost processor.hostMessenger delivery.data])
  else
    let buffer := processor.buffer ++ delivery.data
    let expected := processor.expectedCommand
    if 0 < expected.length ∧ expected.length ≤ buffer.length then
      if buffer.take delivery.data.length ≠
          commandMemory expected delivery.behind delivery.data.length then
        (false, { processor with buffer }, [])
      else
        (true, advanceState
          { processor with
            buffer := buffer.drop expected.length
            expectedCommand := [] })
    else (true, { processor with buffer }, [])

/-- All bytes of some deliveries. -/
def received (deliveries : List Delivery) : List UInt8 :=
  deliveries.flatMap Delivery.data

/-! ## The verdict on a command -/

inductive Verdict where
  /-- Not enough bytes have arrived. -/
  | undecided
  | accepted
  | rejected
deriving DecidableEq, Repr

/-- The deliveries up to the one with which the command is decided. -/
def await (processor : Processor) : List Delivery → Verdict × Processor
  | [] => (.undecided, processor)
  | delivery :: deliveries =>
      match processData processor delivery with
      | (false, next, _) => (.rejected, next)
      | (true, next, _) =>
          if next.expectedCommand = [] then (.accepted, next)
          else await next deliveries

/-- The verdict that depends on the bytes alone. -/
def properVerdict (command bytes : List UInt8) : Verdict :=
  if bytes.length < command.length then .undecided
  else if bytes.take command.length = command then .accepted
  else .rejected

/-- The processor waits for the guest to send a command. -/
def Waiting (processor : Processor) : Prop :=
  (processor.state = .waitingForGuestAcceptCommand ∧
      processor.expectedCommand = acceptCommand) ∨
    (processor.state = .waitingForGuestStartCommand ∧
      processor.expectedCommand = startCommand)

/--
The delivery with which enough bytes have arrived, and all bytes buffered
then.
-/
def deciding (size : Nat) (buffered : List UInt8) :
    List Delivery → Option (List UInt8 × Delivery)
  | [] => none
  | delivery :: deliveries =>
      if size ≤ (buffered ++ delivery.data).length then
        some (buffered ++ delivery.data, delivery)
      else deciding size (buffered ++ delivery.data) deliveries

/--
A delivery that is shorter than the command does not hide a wrong command, and
one that is longer ends with what is in memory behind the command.
-/
structure Harmless (command bytes : List UInt8) (delivery : Delivery) :
    Prop where
  shorter :
    delivery.data.length < command.length →
      bytes.take delivery.data.length =
          command.take delivery.data.length →
        bytes.take command.length = command
  longer :
    command.length < delivery.data.length →
      bytes.take command.length = command →
        (bytes.take delivery.data.length).drop command.length =
          (commandMemory command delivery.behind
            delivery.data.length).drop command.length

/-! ## Comparing -/

section

variable {command bytes : List UInt8} {delivery : Delivery}
variable {behind : Nat → UInt8} {size : Nat}

theorem commandMemory_of_le (within : size ≤ command.length) :
    commandMemory command behind size = command.take size :=
  List.take_append_of_le_length within

theorem commandMemory_take (beyond : command.length ≤ size) :
    (commandMemory command behind size).take command.length = command := by
  rw [commandMemory, List.take_take, Nat.min_eq_left beyond,
    List.take_left]

/-- When the comparison of `process_data` tells whether the command is there. -/
theorem comparison_iff_harmless :
    ((bytes.take delivery.data.length =
          commandMemory command delivery.behind delivery.data.length) ↔
        bytes.take command.length = command) ↔
      Harmless command bytes delivery := by
  rcases Nat.lt_trichotomy delivery.data.length command.length with
    short | same | long
  · -- Every beginning of the command passes a comparison this short.
    rw [commandMemory_of_le short.le]
    constructor
    · intro agrees
      exact ⟨fun _ => agrees.mp, fun long => absurd long (by omega)⟩
    · intro harmless
      refine ⟨harmless.shorter short, fun equal => ?_⟩
      rw [← equal, List.take_take, Nat.min_eq_left short.le]
  · rw [commandMemory_of_le same.le, same, List.take_length]
    refine ⟨fun _ => ⟨?_, ?_⟩, fun _ => Iff.rfl⟩
    · exact fun short => absurd short (by omega)
    · exact fun long => absurd long (by omega)
  · -- The command has to be there, and so does what memory has behind it.
    have necessary :
        bytes.take delivery.data.length =
            commandMemory command delivery.behind delivery.data.length →
          bytes.take command.length = command := by
      intro equal
      have beginning := congrArg (List.take command.length) equal
      rwa [commandMemory_take long.le, List.take_take,
        Nat.min_eq_left long.le] at beginning
    constructor
    · intro agrees
      refine ⟨fun short => absurd short (by omega), fun _ equal => ?_⟩
      rw [agrees.mpr equal]
    · intro harmless
      refine ⟨necessary, fun equal => ?_⟩
      have behind := harmless.longer long equal
      rw [← List.take_append_drop command.length
          (bytes.take delivery.data.length),
        ← List.take_append_drop command.length
          (commandMemory command delivery.behind delivery.data.length),
        behind, commandMemory_take long.le, List.take_take,
        Nat.min_eq_left long.le, equal]

end

/-! ## Waiting for a command -/

section

variable {processor : Processor}

theorem Waiting.not_proxying (waiting : Waiting processor) :
    processor.state ≠ .proxyingData := by
  rcases waiting with ⟨state, -⟩ | ⟨state, -⟩
  · simp [state]
  · simp [state]

theorem Waiting.expected_pos (waiting : Waiting processor) :
    0 < processor.expectedCommand.length := by
  rcases waiting with ⟨-, expected⟩ | ⟨-, expected⟩
  · simp [expected, acceptCommand]
  · simp [expected, startCommand]

theorem Waiting.buffered (waiting : Waiting processor)
    (buffer : List UInt8) : Waiting { processor with buffer } :=
  waiting

/-- An accepted command is not expected any more. -/
theorem Waiting.advanced (waiting : Waiting processor)
    (buffer : List UInt8) :
    (advanceState
      { processor with buffer, expectedCommand := [] }).1.expectedCommand =
        [] := by
  rcases waiting with ⟨state, -⟩ | ⟨state, -⟩
  · simp [advanceState, waitForHostConnection, state]
  · simp [advanceState, readNextHostMessage, state]

theorem processData_of_short (waiting : Waiting processor)
    {delivery : Delivery}
    (short :
      (processor.buffer ++ delivery.data).length <
        processor.expectedCommand.length) :
    processData processor delivery =
      (true, { processor with buffer := processor.buffer ++ delivery.data },
        []) := by
  simp only [processData, if_neg waiting.not_proxying]
  rw [if_neg fun enough => absurd enough.2 (Nat.not_le.mpr short)]

theorem processData_of_enough (waiting : Waiting processor)
    {delivery : Delivery}
    (enough :
      processor.expectedCommand.length ≤
        (processor.buffer ++ delivery.data).length) :
    processData processor delivery =
      if (processor.buffer ++ delivery.data).take delivery.data.length =
          commandMemory processor.expectedCommand delivery.behind
            delivery.data.length then
        (true, advanceState
          { processor with
            buffer := (processor.buffer ++ delivery.data).drop
              processor.expectedCommand.length
            expectedCommand := [] })
      else
        (false,
          { processor with buffer := processor.buffer ++ delivery.data },
          []) := by
  simp only [processData, if_neg waiting.not_proxying]
  rw [if_pos ⟨waiting.expected_pos, enough⟩, ite_not]

/-- The verdict of a call with which enough bytes have arrived. -/
theorem await_of_enough (waiting : Waiting processor) {delivery : Delivery}
    (enough :
      processor.expectedCommand.length ≤
        (processor.buffer ++ delivery.data).length)
    (deliveries : List Delivery) :
    await processor (delivery :: deliveries) =
      if (processor.buffer ++ delivery.data).take delivery.data.length =
          commandMemory processor.expectedCommand delivery.behind
            delivery.data.length then
        (.accepted, (advanceState
          { processor with
            buffer := (processor.buffer ++ delivery.data).drop
              processor.expectedCommand.length
            expectedCommand := [] }).1)
      else
        (.rejected,
          { processor with buffer := processor.buffer ++ delivery.data }) := by
  rw [await, processData_of_enough waiting enough]
  by_cases equal :
      (processor.buffer ++ delivery.data).take delivery.data.length =
        commandMemory processor.expectedCommand delivery.behind
          delivery.data.length
  · rw [if_pos equal, if_pos equal]
    exact if_pos (waiting.advanced _)
  · rw [if_neg equal, if_neg equal]

theorem await_of_short (waiting : Waiting processor) {delivery : Delivery}
    (short :
      (processor.buffer ++ delivery.data).length <
        processor.expectedCommand.length)
    (deliveries : List Delivery) :
    await processor (delivery :: deliveries) =
      await { processor with buffer := processor.buffer ++ delivery.data }
        deliveries := by
  have expected : processor.expectedCommand ≠ [] :=
    List.ne_nil_of_length_pos waiting.expected_pos
  rw [await, processData_of_short waiting short]
  exact if_neg expected

theorem properVerdict_append {command bytes : List UInt8}
    (enough : command.length ≤ bytes.length) (more : List UInt8) :
    properVerdict command (bytes ++ more) =
      if bytes.take command.length = command then .accepted
      else .rejected := by
  rw [properVerdict, if_neg, List.take_append_of_le_length enough]
  rw [List.length_append]
  omega

/-- An accepted command is erased and the processor advances. -/
theorem await_accepted (waiting : Waiting processor)
    {deliveries : List Delivery}
    (accepted : (await processor deliveries).1 = .accepted) :
    ∃ taken, taken <+: deliveries ∧
      (await processor deliveries).2 =
        (advanceState
          { processor with
            buffer := (processor.buffer ++ received taken).drop
              processor.expectedCommand.length
            expectedCommand := [] }).1 := by
  induction deliveries generalizing processor with
  | nil => cases accepted
  | cons delivery deliveries inductionHypothesis =>
      by_cases enough :
          processor.expectedCommand.length ≤
            (processor.buffer ++ delivery.data).length
      · rw [await_of_enough waiting enough] at accepted ⊢
        refine ⟨[delivery], ⟨deliveries, rfl⟩, ?_⟩
        split at accepted
        · next equal =>
          rw [if_pos equal]
          simp [received]
        · cases accepted
      · rw [await_of_short waiting (Nat.lt_of_not_le enough)] at accepted ⊢
        rcases inductionHypothesis (waiting.buffered _) accepted with
          ⟨taken, part, reached⟩
        refine ⟨delivery :: taken, (List.prefix_cons_inj delivery).mpr part,
          ?_⟩
        rw [reached]
        simp [received]

theorem await_proper_iff (waiting : Waiting processor)
    {deliveries : List Delivery}
    (called :
      processor.buffer.length < processor.expectedCommand.length ∨
        deliveries ≠ []) :
    (await processor deliveries).1 =
        properVerdict processor.expectedCommand
          (processor.buffer ++ received deliveries) ↔
      ∀ bytes delivery,
        deciding processor.expectedCommand.length processor.buffer
            deliveries = some (bytes, delivery) →
          Harmless processor.expectedCommand bytes delivery := by
  induction deliveries generalizing processor with
  | nil =>
      have short := called.resolve_right fun different => different rfl
      simp [await, received, properVerdict, short, deciding]
  | cons delivery deliveries inductionHypothesis =>
      have split : processor.buffer ++ received (delivery :: deliveries) =
          processor.buffer ++ delivery.data ++ received deliveries := by
        simp [received]
      by_cases enough :
          processor.expectedCommand.length ≤
            (processor.buffer ++ delivery.data).length
      · rw [await_of_enough waiting enough, split,
          properVerdict_append enough, deciding, if_pos enough]
        trans Harmless processor.expectedCommand
          (processor.buffer ++ delivery.data) delivery
        · rw [← comparison_iff_harmless]
          split_ifs with first second second
          · simp [first, second]
          · simp [first, second]
          · simp [first, second]
          · simp [first, second]
        · simp
      · have short := Nat.lt_of_not_le enough
        rw [await_of_short waiting short, split, deciding, if_neg enough]
        exact inductionHypothesis (waiting.buffered _) (Or.inl short)

end

/--
The verdict on a command depends on the bytes alone, and is right, exactly if
the delivery that completes it is harmless.  An accepted command is always
erased, and the processor advances.
-/
theorem verdict_proper_iff {processor : Processor}
    (waiting : Waiting processor) (delivery : Delivery)
    (deliveries : List Delivery) :
    ((await processor (delivery :: deliveries)).1 =
        properVerdict processor.expectedCommand
          (processor.buffer ++ received (delivery :: deliveries)) ↔
      ∀ bytes last,
        deciding processor.expectedCommand.length processor.buffer
            (delivery :: deliveries) = some (bytes, last) →
          Harmless processor.expectedCommand bytes last) ∧
    ((await processor (delivery :: deliveries)).1 = .accepted →
      ∃ taken, taken <+: delivery :: deliveries ∧
        (await processor (delivery :: deliveries)).2 =
          (advanceState
            { processor with
              buffer := (processor.buffer ++ received taken).drop
                processor.expectedCommand.length
              expectedCommand := [] }).1) :=
  ⟨await_proper_iff waiting (Or.inr (List.cons_ne_nil _ _)),
    await_accepted waiting⟩

/-- The whole command in one delivery. -/
def wholeAccept : Delivery := ⟨acceptCommand, fun _ => 0⟩

theorem verdict_proper_iff_whole_accept :
    Waiting Processor.initial ∧
      (await Processor.initial [wholeAccept]).1 = .accepted ∧
      ((await Processor.initial [wholeAccept]).1 =
          properVerdict acceptCommand acceptCommand ↔
        ∀ bytes last,
          deciding 6 [] [wholeAccept] = some (bytes, last) →
            Harmless acceptCommand bytes last) :=
  ⟨Or.inl ⟨rfl, rfl⟩, by decide,
    (@verdict_proper_iff Processor.initial (Or.inl ⟨rfl, rfl⟩) wholeAccept
      []).1⟩

/-- The bytes `acce` and then `ss`. -/
def splitAccess : List Delivery :=
  [⟨[0x61, 0x63, 0x63, 0x65], fun _ => 0⟩, ⟨[0x73, 0x73], fun _ => 0⟩]

/--
The last delivery has two bytes, so only the first two bytes are compared and
the command `access` is accepted; in one delivery it is rejected.
-/
theorem wrong_command_accepted :
    Waiting Processor.initial ∧
      (await Processor.initial splitAccess).1 = .accepted ∧
      properVerdict acceptCommand (received splitAccess) = .rejected ∧
      (await Processor.initial
        [⟨received splitAccess, fun _ => 0⟩]).1 = .rejected :=
  ⟨Or.inl ⟨rfl, rfl⟩, by decide, by decide, by decide⟩

end Anbox.Qemu.AdbMessageProcessor
