import Anbox.Lxc.LxcContainer

/-!
# Requests to start and to stop the container

`ManagementApiSkeleton` looks at the state that `LxcContainer` has recorded
before it starts or stops the container.  The container may also exit by
itself, which LXC knows at once and `LxcContainer` does not.
-/

namespace Anbox.Lxc.ManagementApi

open Anbox.Foundation.Runs
open Anbox.Lxc.LxcContainer

/-! ## The requests -/

/-- The message `StartContainer`. -/
structure StartContainer where
  bindMounts : List (String × String)
  /-- The path and the permission of each device. -/
  devices : List (String × UInt32)
  extraProperties : List String

def StartContainer.configuration (request : StartContainer) :
    Configuration :=
  { bindMounts := request.bindMounts.foldl
      (fun mounts mount => insertNew mounts mount.1 mount.2) []
    devices := request.devices.foldl
      (fun devices device => insertNew devices device.1 ⟨device.2, ""⟩) []
    extraProperties := request.extraProperties }

/-- The error of a response; `none` if there is none. -/
abbrev Reply := Option String

def alreadyRunning : String := "Container is already running"

def reply (failure : String) : Except String PUnit → Reply
  | .ok _ => none
  | .error error => some (failure ++ error)

def startContainer (settings : Settings) (environment : Environment)
    (request : StartContainer) (container : Container) :
    Reply × Container :=
  if container.state = .running then (some alreadyRunning, container)
  else
    let (result, next) :=
      start settings environment request.configuration container
    (reply "Failed to start container: " result, next)

def stopContainer (succeeds : Bool) (container : Container) :
    Reply × Container :=
  if container.state ≠ .running then
    (some "Container is not running", container)
  else
    let (result, next) := stop succeeds container
    (reply "Failed to stop container: " result, next)

/-- What happens to the container of a connection. -/
inductive Event where
  | startContainer (environment : Environment) (request : StartContainer)
  | stopContainer (succeeds : Bool)
  /-- The container exits by itself. -/
  | exits

def handle (settings : Settings) (container : Container) :
    Event → Container
  | .startContainer environment request =>
      (startContainer settings environment request container).2
  | .stopContainer succeeds => (stopContainer succeeds container).2
  | .exits => { container with lxcRunning := false }

def reached (settings : Settings) (stillRunning : Bool)
    (events : List Event) : Container :=
  runFrom (handle settings) (Container.initial stillRunning) events

/-! ## What a stop promises -/

/-- No start is among the events. -/
def Event.isStart : Event → Bool
  | .startContainer _ _ => true
  | .stopContainer _ => false
  | .exits => false

/--
If the request is answered without an error then `stop` has returned normally,
the recorded state is inactive and the next start is not refused.
-/
def StopIsRecorded (settings : Settings) (succeeds : Bool)
    (container : Container) : Prop :=
  let stopped := stopContainer succeeds container
  stopped.1 = none →
    stopped.2.state = .inactive ∧
      ∀ between environment request,
        (∀ event ∈ between, Event.isStart event = false) →
          (startContainer settings environment request
            (runFrom (handle settings) stopped.2 between)).1 ≠
              some alreadyRunning

/-- LXC runs the container that is to be stopped. -/
def StopsRunning (container : Container) : Event → Prop
  | .startContainer _ _ => True
  | .stopContainer _ => container.state = .running → container.lxcRunning
  | .exits => True

section

variable {settings : Settings} {container : Container}

/-- A container that was started has a handle. -/
def HandleKept (container : Container) : Prop :=
  container.state = .running → container.config.isSome = true

theorem start_handleKept (environment : Environment)
    (configuration : Configuration) (kept : HandleKept container) :
    HandleKept
      (start settings environment configuration container).2 := by
  unfold start
  split
  · exact kept
  · split
    · exact kept
    · dsimp only
      split
      · exact fun _ => rfl
      · split
        · exact fun _ => rfl
        · split <;> exact fun _ => rfl

theorem stop_handleKept (succeeds : Bool) (kept : HandleKept container) :
    HandleKept (stop succeeds container).2 := by
  unfold stop
  split
  · exact kept
  · split
    · exact kept
    · intro running
      cases running

theorem HandleKept.preserved (event : Event) (kept : HandleKept container) :
    HandleKept (handle settings container event) := by
  cases event with
  | startContainer environment request =>
      simp only [handle, startContainer]
      split
      · exact kept
      · exact start_handleKept environment request.configuration kept
  | stopContainer succeeds =>
      simp only [handle, stopContainer]
      split
      · exact kept
      · exact stop_handleKept succeeds kept
  | exits => exact kept

/-- Only a start makes the recorded state running. -/
theorem handle_inactive {event : Event} (notStart : event.isStart = false)
    (inactive : container.state = .inactive) :
    (handle settings container event).state = .inactive := by
  cases event with
  | startContainer environment request => cases notStart
  | stopContainer succeeds => simp [handle, stopContainer, inactive]
  | exits => exact inactive

theorem runFrom_inactive {events : List Event}
    (noStart : ∀ event ∈ events, event.isStart = false)
    (inactive : container.state = .inactive) :
    (runFrom (handle settings) container events).state = .inactive := by
  induction events generalizing container with
  | nil => exact inactive
  | cons event events inductionHypothesis =>
      exact inductionHypothesis
        (fun later member => noStart later (List.mem_cons_of_mem event member))
        (handle_inactive (noStart event List.mem_cons_self) inactive)

theorem startContainer_not_refused (environment : Environment)
    (request : StartContainer) (inactive : container.state = .inactive) :
    (startContainer settings environment request container).1 ≠
      some alreadyRunning := by
  simp only [startContainer, inactive, reduceCtorEq, if_false]
  cases (start settings environment request.configuration container).1 with
  | ok => simp [reply]
  | error error =>
      intro same
      have texts := congrArg String.toList (Option.some_inj.mp same)
      rw [String.toList_append] at texts
      cases texts

theorem stopContainer_of_inactive {succeeds : Bool}
    (notRunning : container.state ≠ .running) :
    (stopContainer succeeds container).1 ≠ none := by
  simp [stopContainer, notRunning]

/-- An early return of `stop` leaves the recorded state alone. -/
theorem stopContainer_of_exited {succeeds : Bool}
    (running : container.state = .running)
    (exited : ¬container.lxcRunning = true) :
    stopContainer succeeds container = (none, container) := by
  simp [stopContainer, running, stop, exited, reply]

theorem stopContainer_of_running {succeeds : Bool}
    (kept : HandleKept container)
    (running : container.state = .running)
    (runs : container.lxcRunning = true)
    (answered : (stopContainer succeeds container).1 = none) :
    (stopContainer succeeds container).2.state = .inactive := by
  have handle : container.config.isNone = false := by
    simpa using kept running
  cases succeeds with
  | false =>
      simp [stopContainer, running, stop, handle, runs, reply] at answered
  | true => simp [stopContainer, running, stop, handle, runs]

theorem stopIsRecorded_iff (kept : HandleKept container)
    (succeeds : Bool) :
    StopIsRecorded settings succeeds container ↔
      StopsRunning container (.stopContainer succeeds) := by
  constructor
  · intro recorded running
    by_contra exited
    have unchanged := @stopContainer_of_exited container succeeds
      running exited
    have inactive := (recorded (congrArg Prod.fst unchanged)).1
    rw [unchanged, running] at inactive
    cases inactive
  · intro stopsRunning answered
    have running : container.state = .running := by
      by_contra notRunning
      exact stopContainer_of_inactive notRunning answered
    have inactive := stopContainer_of_running kept running
      (stopsRunning running) answered
    refine ⟨inactive, fun between environment request noStart => ?_⟩
    exact startContainer_not_refused environment request
      (runFrom_inactive noStart inactive)

/--
Every stop that succeeds is recorded exactly if LXC runs the container
whenever a container that was started is stopped.
-/
theorem stops_recorded_iff (settings : Settings) (stillRunning : Bool)
    (events : List Event) :
    (∀ earlier succeeds,
        earlier ++ [Event.stopContainer succeeds] <+: events →
          StopIsRecorded settings succeeds
            (reached settings stillRunning earlier)) ↔
      Admitted (handle settings) StopsRunning
        (Container.initial stillRunning) events := by
  have kept : ∀ earlier,
      HandleKept (reached settings stillRunning earlier) :=
    run_invariant (fun _ event => HandleKept.preserved event)
      (fun running => by cases running)
  rw [admitted_iff_forall_step]
  constructor
  · intro recorded earlier event isPrefix
    cases event with
    | startContainer environment request => trivial
    | stopContainer succeeds =>
        exact (stopIsRecorded_iff (kept earlier) succeeds).mp
          (recorded earlier succeeds isPrefix)
    | exits => trivial
  · intro admitted earlier succeeds isPrefix
    exact (stopIsRecorded_iff (kept earlier) succeeds).mpr
      (admitted earlier _ isPrefix)

end

/-! ## A container that exits by itself -/

def emptyRequest : StartContainer :=
  { bindMounts := [], devices := [], extraProperties := [] }

/-- The stop succeeds and the next start is refused all the same. -/
theorem stop_after_exit_not_recorded :
    let stopped := reached plainSettings false
      [.startContainer plainEnvironment emptyRequest, .exits]
    (stopContainer true stopped).1 = none ∧
      (stopContainer true stopped).2.state = .running ∧
      (startContainer plainSettings plainEnvironment emptyRequest
        (stopContainer true stopped).2).1 = some alreadyRunning := by
  decide +kernel

end Anbox.Lxc.ManagementApi
