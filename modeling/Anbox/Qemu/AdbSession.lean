import Anbox.Foundation.Runs
import Anbox.Qemu.AdbMessageProcessor

/-!
# A session of the adb proxy

The processor reacts to data from the container, to adb on the host connecting
to its port and to the end of reads from such a connection.  The connector
goes on accepting connections for as long as the processor exists.

When the container has said `start`, everything it sends is passed to the host
connection.  Bytes that arrived together with `start` are not: they stay in
the buffer of the handshake.  A further connection from the host makes the
processor start over in the middle of a session.
-/

namespace Anbox.Qemu.AdbSession

open Anbox.Foundation.Runs
open Anbox.Qemu.AdbMessageProcessor

/-! ## Data and connections from the host -/

def onHostConnection (processor : Processor) (connection : HostConnection) :
    Processor × List Effect :=
  ({ processor with
    hostMessenger := some connection
    state := .waitingForGuestStartCommand
    expectedCommand := startCommand }, [.ok])

/-- How a read from the host ends. -/
inductive ReadResult where
  | canceled
  | failed
  | data (bytes : List UInt8)
deriving DecidableEq, Repr

def onHostReadSize (processor : Processor) (connection : HostConnection) :
    ReadResult → Processor × List Effect
  | .canceled => (processor, [])
  | .failed => ({ processor with state := .closedByHost }, [.closeGuest])
  | .data bytes =>
      (readNextHostMessage processor, [.toGuest connection bytes])

/-! ## Runs -/

structure System where
  processor : Processor
  /-- `process_data` has returned `false` and the processor is gone. -/
  removed : Bool
  nextConnection : HostConnection
  effects : List Effect
deriving DecidableEq, Repr

def System.initial : System :=
  ⟨Processor.initial, false, 0, []⟩

/-- The connection to the container is closed. -/
def System.closed (system : System) : Bool :=
  system.removed || decide (Effect.closeGuest ∈ system.effects)

inductive Label where
  | guestData (delivery : Delivery)
  /-- The connector accepts a connection. -/
  | hostConnection
  | hostRead (connection : HostConnection) (result : ReadResult)

/-- Continue with the result of a callback. -/
def System.resume (system : System)
    (result : Processor × List Effect) : System :=
  { system with
    processor := result.1
    effects := system.effects ++ result.2 }

/-- Take a step that is possible in this state. -/
def advance (system : System) : Label → System
  | .guestData delivery =>
      let result := processData system.processor delivery
      { system.resume result.2 with removed := !result.1 }
  | .hostConnection =>
      if system.processor.hostConnector then
        { system.resume
            (onHostConnection system.processor system.nextConnection) with
          nextConnection := system.nextConnection + 1 }
      else system
  | .hostRead connection result =>
      if connection ∈ system.processor.reading then
        system.resume (onHostReadSize
          { system.processor with
            reading := system.processor.reading.erase connection }
          connection result)
      else system

def step (system : System) (label : Label) : System :=
  if system.removed then system else advance system label

def after (labels : List Label) : System :=
  runFrom step System.initial labels

/-! ## Inside a session -/

/-- What has been sent to the host. -/
def hostBytes (effects : List Effect) : List UInt8 :=
  effects.flatMap fun
    | .toHost _ data => data
    | _ => []

/-- What the container delivers in a run. -/
def guestDeliveries (labels : List Label) : List Delivery :=
  labels.filterMap fun
    | .guestData delivery => some delivery
    | _ => none

/-- A label that is no connection from the host. -/
def Label.Internal : Label → Prop
  | .hostConnection => False
  | _ => True

@[simp]
theorem hostBytes_append (first second : List Effect) :
    hostBytes (first ++ second) = hostBytes first ++ hostBytes second :=
  List.flatMap_append

theorem step_effects (system : System) (label : Label) :
    ∃ effects, (step system label).effects = system.effects ++ effects := by
  unfold step
  split
  · exact ⟨[], (List.append_nil _).symm⟩
  · cases label with
    | guestData delivery => exact ⟨_, rfl⟩
    | hostConnection =>
        simp only [advance]
        split
        · exact ⟨_, rfl⟩
        · exact ⟨[], (List.append_nil _).symm⟩
    | hostRead connection result =>
        simp only [advance]
        split
        · exact ⟨_, rfl⟩
        · exact ⟨[], (List.append_nil _).symm⟩

/-- A connection that is closed stays closed. -/
theorem closed_step {system : System} (label : Label)
    (closed : system.closed = true) : (step system label).closed = true := by
  rcases step_effects system label with ⟨effects, appended⟩
  rw [System.closed, Bool.or_eq_true, decide_eq_true_iff] at closed ⊢
  rcases closed with removed | closing
  · left
    rw [step, if_pos removed]
    exact removed
  · right
    rw [appended]
    exact List.mem_append_left effects closing

theorem closed_runFrom {system : System} (labels : List Label)
    (closed : system.closed = true) :
    (runFrom step system labels).closed = true :=
  @run_invariant _ _ step (fun system => system.closed = true)
    (fun _ label => closed_step label) system closed labels

/-- What a step inside a session does if the connection stays open. -/
inductive Proxied (system : System) : Label → System → Prop where
  | forwarded (delivery : Delivery) :
      Proxied system (.guestData delivery)
        { system with
          effects := system.effects ++
            [.toHost system.processor.hostMessenger delivery.data] }
  | answered {connection : HostConnection} (bytes : List UInt8)
      (reading : List HostConnection) :
      Proxied system (.hostRead connection (.data bytes))
        { system with
          processor := { system.processor with reading }
          effects := system.effects ++ [.toGuest connection bytes] }
  | ignored (connection : HostConnection) (result : ReadResult)
      (reading : List HostConnection) :
      Proxied system (.hostRead connection result)
        { system with processor := { system.processor with reading } }

/-- The host connection has failed. -/
def System.hungUp (system : System) (reading : List HostConnection) :
    System :=
  { system with
    processor :=
      { system.processor with state := .closedByHost, reading }
    effects := system.effects ++ [.closeGuest] }

theorem step_proxied {system : System} {label : Label}
    (present : system.removed = false)
    (proxying : system.processor.state = .proxyingData)
    (internal : label.Internal) :
    Proxied system label (step system label) ∨
      ∃ reading, step system label = system.hungUp reading := by
  rw [step, if_neg (by simp [present])]
  cases label with
  | guestData delivery =>
      left
      have result : advance system (.guestData delivery) =
          { system with
            effects := system.effects ++
              [.toHost system.processor.hostMessenger delivery.data] } := by
        simp [advance, processData, proxying, System.resume, present]
      rw [result]
      exact .forwarded delivery
  | hostConnection => cases internal
  | hostRead connection result =>
      simp only [advance]
      split
      · cases result with
        | canceled =>
            left
            simp only [onHostReadSize, System.resume, List.append_nil]
            exact .ignored connection .canceled _
        | failed => exact Or.inr ⟨_, rfl⟩
        | data bytes => exact Or.inl (.answered bytes _)
      · exact Or.inl (.ignored connection result system.processor.reading)

/-! ## A session stays what it is -/

/-- No connection is accepted while data is passed through. -/
def NoFurtherConnection (system : System) : Label → Prop
  | .hostConnection => system.processor.state ≠ .proxyingData
  | _ => True

/-- The session that `start` is in has gone on, with `state` as its state. -/
structure Continues (start current : System) (state : State) : Prop where
  state : current.processor.state = state
  hostMessenger :
    current.processor.hostMessenger = start.processor.hostMessenger
  expectedCommand :
    current.processor.expectedCommand = start.processor.expectedCommand
  effects :
    ∃ effects,
      current.effects = start.effects ++ effects ∧ Effect.ok ∉ effects

theorem continues_self {system : System}
    (proxying : system.processor.state = .proxyingData) :
    Continues system system .proxyingData where
  state := proxying
  hostMessenger := rfl
  expectedCommand := rfl
  effects := ⟨[], (List.append_nil _).symm, List.not_mem_nil⟩

section

variable {start current : System} {label : Label}

/-- Effects without `ok` may be added. -/
theorem Continues.extend {next : System} {state : State}
    (continues : Continues start current .proxyingData)
    (reached : next.processor.state = state)
    (hostMessenger :
      next.processor.hostMessenger = current.processor.hostMessenger)
    (expectedCommand :
      next.processor.expectedCommand = current.processor.expectedCommand)
    {more : List Effect} (appended : next.effects = current.effects ++ more)
    (silent : Effect.ok ∉ more) :
    Continues start next state where
  state := reached
  hostMessenger := hostMessenger.trans continues.hostMessenger
  expectedCommand := expectedCommand.trans continues.expectedCommand
  effects := by
    rcases continues.effects with ⟨effects, sofar, none⟩
    refine ⟨effects ++ more, ?_, ?_⟩
    · rw [appended, sofar, List.append_assoc]
    · exact fun member =>
        (List.mem_append.mp member).elim none silent

theorem Continues.step
    (continues : Continues start current .proxyingData)
    (admitted : NoFurtherConnection current label) :
    Continues start (step current label) .proxyingData ∨
      Continues start (step current label) .closedByHost := by
  by_cases removed : current.removed = true
  · left
    rw [AdbSession.step, if_pos removed]
    exact continues
  · have present : current.removed = false := by simpa using removed
    have internal : label.Internal := by
      cases label with
      | hostConnection => exact admitted continues.state
      | guestData | hostRead => trivial
    rcases step_proxied present continues.state internal with
      proxied | ⟨reading, failed⟩
    · left
      generalize AdbSession.step current label = next at proxied
      cases proxied with
      | forwarded delivery =>
          exact continues.extend continues.state rfl rfl rfl (by simp)
      | answered bytes reading =>
          exact continues.extend continues.state rfl rfl rfl (by simp)
      | ignored connection result reading =>
          exact continues.extend continues.state rfl rfl
            (List.append_nil _).symm List.not_mem_nil
    · right
      rw [failed]
      exact continues.extend rfl rfl rfl rfl (by simp)

/-- A session goes on, or at some point its host connection has failed. -/
theorem Continues.run (continues : Continues start current .proxyingData)
    (labels : List Label)
    (admitted : Admitted AdbSession.step NoFurtherConnection current labels) :
    Continues start (runFrom AdbSession.step current labels)
        .proxyingData ∨
      ∃ played rest, labels = played ++ rest ∧
        Continues start (runFrom AdbSession.step current played)
          .closedByHost := by
  induction labels generalizing current with
  | nil => exact Or.inl continues
  | cons label labels inductionHypothesis =>
      rcases admitted with ⟨head, tail⟩
      rcases continues.step head with still | failed
      · rcases inductionHypothesis still tail with goesOn | ended
        · exact Or.inl goesOn
        · rcases ended with ⟨played, rest, rfl, ended⟩
          exact Or.inr ⟨label :: played, rest, rfl, ended⟩
      · exact Or.inr ⟨[label], labels, rfl, failed⟩

end

/--
Once data is passed through, the processor leaves this state only because the
host connection has failed, keeps its host connection and says no further
`ok`, provided that no other connection is accepted in this state.
-/
theorem session_continues (earlier later : List Label)
    (proxying : (after earlier).processor.state = .proxyingData)
    (admitted : Admitted step NoFurtherConnection (after earlier) later) :
    Continues (after earlier) (after (earlier ++ later)) .proxyingData ∨
      ∃ played rest, later = played ++ rest ∧
        Continues (after earlier) (after (earlier ++ played))
          .closedByHost := by
  have split : ∀ labels,
      after (earlier ++ labels) = runFrom step (after earlier) labels :=
    fun labels => runFrom_append step _ earlier labels
  simp only [split]
  exact (continues_self proxying).run later admitted

/-- A session up to the point where data is passed through. -/
def established : List Label :=
  [.guestData ⟨acceptCommand, fun _ => 0⟩, .hostConnection,
    .guestData ⟨startCommand, fun _ => 0⟩]

theorem session_continues_until_failure :
    (after established).processor.state = .proxyingData ∧
      (Continues (after established)
          (after (established ++ [.hostRead 0 .failed])) .proxyingData ∨
        ∃ played rest, [Label.hostRead 0 .failed] = played ++ rest ∧
          Continues (after established) (after (established ++ played))
            .closedByHost) :=
  ⟨by decide, session_continues established [.hostRead 0 .failed]
    (by decide) ⟨trivial, trivial⟩⟩

/--
A second connection from the host: the processor waits for `start` again,
another connection has taken the place of the first one and a second `ok` was
sent.
-/
theorem second_connection_resets_session :
    (after established).processor.state = .proxyingData ∧
      (after established).processor.hostMessenger = some 0 ∧
      (after (established ++ [.hostConnection])).processor.state =
        .waitingForGuestStartCommand ∧
      (after (established ++ [.hostConnection])).processor.hostMessenger =
        some 1 ∧
      (after (established ++ [.hostConnection])).processor.expectedCommand =
        startCommand ∧
      (after (established ++ [.hostConnection])).effects =
        (after established).effects ++ [.ok] := by
  decide

/-! ## What reaches the host -/

/-- The bytes that arrive in one delivery with the end of `start`. -/
def trailing (session : List Label) : List UInt8 :=
  match deciding startCommand.length [] (guestDeliveries session) with
  | none => []
  | some (bytes, _) => bytes.drop startCommand.length

theorem received_guestDeliveries_cons (label : Label)
    (labels : List Label) :
    received (guestDeliveries (label :: labels)) =
      received (guestDeliveries [label]) ++
        received (guestDeliveries labels) := by
  rw [← List.singleton_append, guestDeliveries, List.filterMap_append,
    received, List.flatMap_append]
  rfl

/-- A step inside a session passes on what the container delivers. -/
theorem Proxied.passes {system next : System} {label : Label}
    (proxied : Proxied system label next) :
    next.removed = system.removed ∧
      next.processor.state = system.processor.state ∧
      next.processor.buffer = system.processor.buffer ∧
      hostBytes next.effects =
        hostBytes system.effects ++ received (guestDeliveries [label]) := by
  cases proxied with
  | forwarded delivery =>
      refine ⟨rfl, rfl, rfl, ?_⟩
      rw [hostBytes_append]
      rfl
  | answered bytes reading =>
      refine ⟨rfl, rfl, rfl, ?_⟩
      rw [hostBytes_append]
      rfl
  | ignored connection result reading =>
      refine ⟨rfl, rfl, rfl, ?_⟩
      exact (List.append_nil _).symm

/-- While data is passed through, all of it reaches the host. -/
theorem hostBytes_of_proxying {system : System} {labels : List Label}
    (present : system.removed = false)
    (proxying : system.processor.state = .proxyingData)
    (internal : ∀ label ∈ labels, label.Internal)
    (isOpen : (runFrom step system labels).closed = false) :
    hostBytes (runFrom step system labels).effects =
        hostBytes system.effects ++ received (guestDeliveries labels) ∧
      (runFrom step system labels).processor.buffer =
        system.processor.buffer := by
  induction labels generalizing system with
  | nil => simp [guestDeliveries, received]
  | cons label labels inductionHypothesis =>
      have others : ∀ other ∈ labels, other.Internal :=
        fun other member => internal other (List.mem_cons_of_mem label member)
      rw [runFrom_cons] at isOpen ⊢
      rcases step_proxied present proxying
          (internal label List.mem_cons_self) with
        proxied | ⟨reading, failed⟩
      · rcases proxied.passes with ⟨removed, state, kept, passed⟩
        rcases inductionHypothesis (removed.trans present)
            (state.trans proxying) others isOpen with ⟨bytes, buffer⟩
        refine ⟨?_, buffer.trans kept⟩
        rw [bytes, passed, List.append_assoc,
          ← received_guestDeliveries_cons]
      · have closed : (step system label).closed = true := by
          rw [failed]
          simp [System.closed, System.hungUp]
        rw [closed_runFrom labels closed] at isOpen
        cases isOpen

/-- The processor waits for `start` and nothing is read from the host yet. -/
structure Starting (system : System) : Prop where
  present : system.removed = false
  state : system.processor.state = .waitingForGuestStartCommand
  expectedCommand : system.processor.expectedCommand = startCommand
  reading : system.processor.reading = []

theorem Starting.waiting {system : System} (starting : Starting system) :
    Waiting system.processor :=
  Or.inr ⟨starting.state, starting.expectedCommand⟩

theorem Starting.step_guestData {system : System}
    (starting : Starting system) (delivery : Delivery) :
    step system (.guestData delivery) =
      { system.resume (processData system.processor delivery).2 with
        removed := !(processData system.processor delivery).1 } := by
  simp [step, advance, starting.present]

/-- Too few bytes for the command are kept in the buffer. -/
theorem Starting.step_short {system : System} (starting : Starting system)
    {delivery : Delivery}
    (short :
      (system.processor.buffer ++ delivery.data).length <
        startCommand.length) :
    Starting (step system (.guestData delivery)) ∧
      (step system (.guestData delivery)).processor.buffer =
        system.processor.buffer ++ delivery.data ∧
      (step system (.guestData delivery)).effects = system.effects := by
  rw [← starting.expectedCommand] at short
  rw [starting.step_guestData, processData_of_short starting.waiting short]
  exact ⟨⟨rfl, starting.state, starting.expectedCommand,
    starting.reading⟩, rfl, List.append_nil _⟩

/--
Enough bytes for the command close the connection or begin the session, with
what follows the command left in the buffer.
-/
theorem Starting.step_enough {system : System} (starting : Starting system)
    {delivery : Delivery}
    (enough :
      startCommand.length ≤
        (system.processor.buffer ++ delivery.data).length) :
    (step system (.guestData delivery)).closed = true ∨
      (step system (.guestData delivery)).removed = false ∧
        (step system (.guestData delivery)).processor.state =
          .proxyingData ∧
        (step system (.guestData delivery)).processor.buffer =
          (system.processor.buffer ++ delivery.data).drop
            startCommand.length ∧
        (step system (.guestData delivery)).effects = system.effects := by
  have stepped := starting.step_guestData delivery
  rw [← starting.expectedCommand] at enough ⊢
  rw [processData_of_enough starting.waiting enough] at stepped
  split at stepped
  · right
    simp only [advanceState, starting.state] at stepped
    rw [stepped]
    exact ⟨rfl, rfl, rfl, List.append_nil _⟩
  · left
    rw [stepped]
    rfl

/-- What follows the delivery that ends `start` reaches the host. -/
theorem hostBytes_of_starting {system : System} {labels : List Label}
    (starting : Starting system)
    (internal : ∀ label ∈ labels, label.Internal)
    (isOpen : (runFrom step system labels).closed = false)
    {bytes : List UInt8} {last : Delivery}
    (decided :
      deciding startCommand.length system.processor.buffer
        (guestDeliveries labels) = some (bytes, last)) :
    ∃ rest,
      system.processor.buffer ++ received (guestDeliveries labels) =
          bytes ++ rest ∧
        hostBytes (runFrom step system labels).effects =
          hostBytes system.effects ++ rest ∧
        (runFrom step system labels).processor.buffer =
          bytes.drop startCommand.length := by
  induction labels generalizing system with
  | nil => cases decided
  | cons label labels inductionHypothesis =>
      have others : ∀ other ∈ labels, other.Internal :=
        fun other member => internal other (List.mem_cons_of_mem label member)
      rw [runFrom_cons] at isOpen ⊢
      cases label with
      | hostConnection => exact (internal _ List.mem_cons_self).elim
      | hostRead connection result =>
          have idle : step system (.hostRead connection result) = system := by
            simp [step, advance, starting.present, starting.reading]
          rw [idle] at isOpen ⊢
          exact inductionHypothesis starting others isOpen decided
      | guestData delivery =>
          have split : received
              (guestDeliveries (.guestData delivery :: labels)) =
                delivery.data ++ received (guestDeliveries labels) := by
            simp [guestDeliveries, received]
          change deciding _ _ (delivery :: guestDeliveries labels) =
            some (bytes, last) at decided
          rw [deciding] at decided
          rw [split, ← List.append_assoc]
          by_cases enough :
              startCommand.length ≤
                (system.processor.buffer ++ delivery.data).length
          · rw [if_pos enough] at decided
            rcases Prod.mk.inj (Option.some.inj decided) with ⟨rfl, rfl⟩
            rcases starting.step_enough enough with
              closed | ⟨present, proxying, left, effects⟩
            · rw [closed_runFrom labels closed] at isOpen
              cases isOpen
            · -- From here on everything is passed to the host.
              rcases hostBytes_of_proxying present proxying others isOpen
                with ⟨sent, buffer⟩
              refine ⟨_, rfl, ?_, buffer.trans left⟩
              rw [sent, effects]
          · rw [if_neg enough] at decided
            rcases starting.step_short (Nat.lt_of_not_le enough) with
              ⟨stillStarting, buffer, effects⟩
            rw [← buffer] at decided ⊢
            rw [← effects]
            exact inductionHypothesis stillStarting others isOpen decided

/-- The container has said `accept`. -/
def accepted : System :=
  ⟨⟨.waitingForGuestAcceptCommand, [], [], true, none, []⟩, false, 0, []⟩

theorem runFrom_accepted {deliveries : List Delivery}
    (nothing : received deliveries = []) :
    runFrom step accepted (deliveries.map .guestData) = accepted := by
  induction deliveries with
  | nil => rfl
  | cons delivery deliveries inductionHypothesis =>
      rw [received, List.flatMap_cons, List.append_eq_nil_iff] at nothing
      have idle : step accepted (.guestData delivery) = accepted := by
        simp [step, advance, processData, accepted, System.resume,
          nothing.1]
      rw [List.map_cons, runFrom_cons, idle]
      exact inductionHypothesis nothing.2

/-- The container has sent the beginning of `accept`. -/
def accepting (buffer : List UInt8) : System :=
  ⟨⟨.waitingForGuestAcceptCommand, acceptCommand, buffer, false, none, []⟩,
    false, 0, []⟩

theorem waiting_accepting (buffer : List UInt8) :
    Waiting (accepting buffer).processor :=
  Or.inl ⟨rfl, rfl⟩

theorem step_accepting_of_short {buffer : List UInt8} {delivery : Delivery}
    (short :
      (buffer ++ delivery.data).length < acceptCommand.length) :
    step (accepting buffer) (.guestData delivery) =
      accepting (buffer ++ delivery.data) := by
  have call : processData (accepting buffer).processor delivery = _ :=
    processData_of_short (waiting_accepting buffer) short
  have present : ¬(accepting buffer).removed = true := Bool.false_ne_true
  rw [step, if_neg present, advance, call]
  rfl

theorem step_accepting_of_complete {buffer : List UInt8}
    {delivery : Delivery}
    (complete : buffer ++ delivery.data = acceptCommand) :
    step (accepting buffer) (.guestData delivery) = accepted := by
  have enough :
      acceptCommand.length ≤ (buffer ++ delivery.data).length := by
    rw [complete]
  have within : delivery.data.length ≤ acceptCommand.length := by
    rw [← complete, List.length_append]
    exact Nat.le_add_left _ _
  have equal :
      (buffer ++ delivery.data).take delivery.data.length =
        commandMemory acceptCommand delivery.behind delivery.data.length := by
    rw [commandMemory_of_le within, complete]
  have call : processData (accepting buffer).processor delivery = _ :=
    (processData_of_enough (waiting_accepting buffer) enough).trans
      (if_pos equal)
  have present : ¬(accepting buffer).removed = true := Bool.false_ne_true
  rw [step, if_neg present, advance, call]
  simp only [accepting, complete]
  rfl

/-- `accept` is accepted however it is delivered. -/
theorem runFrom_accepting {buffer : List UInt8}
    {deliveries : List Delivery}
    (short : buffer.length < acceptCommand.length)
    (stream : buffer ++ received deliveries = acceptCommand) :
    runFrom step (accepting buffer) (deliveries.map .guestData) =
      accepted := by
  induction deliveries generalizing buffer with
  | nil =>
      rw [received, List.flatMap_nil, List.append_nil] at stream
      rw [stream] at short
      exact absurd short (Nat.lt_irrefl _)
  | cons delivery deliveries inductionHypothesis =>
      have split : received (delivery :: deliveries) =
          delivery.data ++ received deliveries :=
        List.flatMap_cons
      rw [split, ← List.append_assoc] at stream
      rw [List.map_cons, runFrom_cons]
      by_cases less :
          (buffer ++ delivery.data).length < acceptCommand.length
      · rw [step_accepting_of_short less]
        exact inductionHypothesis less stream
      · have lengths := congrArg List.length stream
        rw [List.length_append] at lengths
        have nothing : received deliveries = [] :=
          List.length_eq_zero_iff.mp (by omega)
        rw [nothing, List.append_nil] at stream
        rw [step_accepting_of_complete stream]
        exact runFrom_accepted nothing

theorem deciding_of_enough {size : Nat} {buffered : List UInt8}
    {deliveries : List Delivery} (short : buffered.length < size)
    (enough : size ≤ (buffered ++ received deliveries).length) :
    ∃ bytes last, deciding size buffered deliveries = some (bytes, last) ∧
      size ≤ bytes.length := by
  induction deliveries generalizing buffered with
  | nil =>
      simp only [received, List.flatMap_nil, List.append_nil] at enough
      omega
  | cons delivery deliveries inductionHypothesis =>
      rw [deciding]
      by_cases now : size ≤ (buffered ++ delivery.data).length
      · exact ⟨_, _, if_pos now, now⟩
      · rw [if_neg now]
        apply inductionHypothesis (Nat.lt_of_not_le now)
        simpa [received] using enough

/--
If the connection stays open, the host gets exactly the payload, and nothing
stays in the buffer, if and only if no payload arrived together with the end
of `start`.
-/
theorem payload_forwarded_iff (accepts : List Delivery)
    (accepting : received accepts = acceptCommand) (session : List Label)
    (internal : ∀ label ∈ session, label.Internal)
    (payload : List UInt8)
    (stream :
      received (guestDeliveries session) = startCommand ++ payload)
    (isOpen :
      (after (accepts.map .guestData ++
        .hostConnection :: session)).closed = false) :
    (hostBytes (after (accepts.map .guestData ++
          .hostConnection :: session)).effects = payload ∧
        (after (accepts.map .guestData ++
          .hostConnection :: session)).processor.buffer = []) ↔
      trailing session = [] := by
  have begun : after (accepts.map .guestData ++
        .hostConnection :: session) =
      runFrom step (step accepted .hostConnection) session := by
    rw [after, runFrom_append, runFrom_cons]
    exact congrArg
      (fun system => runFrom step (step system .hostConnection) session)
      (runFrom_accepting (by decide) accepting)
  rw [begun] at isOpen ⊢
  have starting : Starting (step accepted .hostConnection) :=
    ⟨rfl, rfl, rfl, rfl⟩
  rcases @deciding_of_enough startCommand.length []
      (guestDeliveries session) (by decide) (by simp [stream]) with
    ⟨bytes, last, decided, enough⟩
  rcases hostBytes_of_starting starting internal isOpen decided with
    ⟨rest, whole, sent, buffer⟩
  have parts : payload = bytes.drop startCommand.length ++ rest := by
    have bytesFirst : startCommand ++ payload = bytes ++ rest :=
      stream ▸ whole
    have dropped := congrArg (List.drop startCommand.length) bytesFirst
    rwa [List.drop_left, List.drop_append_of_le_length enough] at dropped
  have left : trailing session = bytes.drop startCommand.length := by
    rw [trailing, decided]
  rw [sent, buffer, left, parts]
  constructor
  · exact fun lossless => lossless.2
  · intro nothing
    exact ⟨by rw [nothing]; rfl, nothing⟩

/-- The end of `start` in a delivery of its own. -/
def cleanStart : List Label :=
  [.guestData ⟨startCommand, fun _ => 0⟩, .guestData ⟨[1, 2], fun _ => 0⟩]

theorem payload_forwarded_iff_clean_start :
    received (guestDeliveries cleanStart) = startCommand ++ [1, 2] ∧
      hostBytes (after ([Delivery.mk acceptCommand fun _ => 0].map
        .guestData ++ .hostConnection :: cleanStart)).effects = [1, 2] :=
  ⟨rfl, ((payload_forwarded_iff [⟨acceptCommand, fun _ => 0⟩] rfl cleanStart
    (by simp [cleanStart, Label.Internal]) [1, 2] rfl (by decide)).mpr
      (by decide)).1⟩

/-- `sta` and then `rt` with three bytes of payload. -/
def mixedStart : List Label :=
  [.guestData ⟨[0x73, 0x74, 0x61], fun _ => 0⟩,
    .guestData ⟨[0x72, 0x74, 1, 2, 3], fun _ => 0⟩,
    .guestData ⟨[4], fun _ => 0⟩]

/-- The connection stays open, but the first bytes never reach the host. -/
theorem payload_left_in_buffer :
    received (guestDeliveries mixedStart) = startCommand ++ [1, 2, 3, 4] ∧
      (after ([Delivery.mk acceptCommand fun _ => 0].map .guestData ++
        .hostConnection :: mixedStart)).closed = false ∧
      hostBytes (after ([Delivery.mk acceptCommand fun _ => 0].map
        .guestData ++ .hostConnection :: mixedStart)).effects = [4] ∧
      (after ([Delivery.mk acceptCommand fun _ => 0].map .guestData ++
        .hostConnection :: mixedStart)).processor.buffer = [1, 2, 3] := by
  decide

end Anbox.Qemu.AdbSession
