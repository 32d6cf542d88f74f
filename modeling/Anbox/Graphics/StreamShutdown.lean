import Anbox.Graphics.BufferQueue

/-!
# Stopping a buffered stream

The worker of `BufferedIOStream` and the committing thread wait for conditions
of `out_queue_` under `out_lock_`.  `forceStop` closes the queue and notifies
them under `lock_`, so it may do this at any point of the loops that wait.

A thread that has seen that it has to wait begins to wait in a step of its
own.  A notification reaches only a thread that waits already.  A thread that
waits may wake up without a notification.
-/

namespace Anbox.Graphics.StreamShutdown

open Anbox.Foundation.Runs
open Anbox.Graphics.BufferQueue

universe u

variable {Buffer : Type u}

/-! ## The threads -/

/-- Where a thread is in the loop of `push_locked` or `pop_locked`. -/
inductive Wait where
  | testing
  /-- The condition was tested and `wait` is not yet called. -/
  | aboutToWait
  | waiting (notified : Bool)
deriving DecidableEq, Repr

/-- A thread gives the lock up when it begins to wait. -/
def Wait.ownsLock : Wait → Bool
  | .testing => true
  | .aboutToWait => true
  | .waiting _ => false

def Wait.notify : Wait → Wait
  | .waiting _ => .waiting true
  | wait => wait

/-- The thread waits, or is going to, and no notification is pending. -/
def Wait.unnotified : Wait → Bool
  | .testing => false
  | .aboutToWait => true
  | .waiting notified => !notified

/-- Where `thread_main` is. -/
inductive Worker where
  | loopStart
  | inPop (wait : Wait)
  | sending
  | finished
deriving DecidableEq, Repr

def Worker.ownsLock : Worker → Bool
  | .loopStart => false
  | .inPop wait => wait.ownsLock
  | .sending => true
  | .finished => false

/-- A notification of `can_pop_`. -/
def Worker.notify : Worker → Worker
  | .inPop wait => .inPop wait.notify
  | worker => worker

def Worker.unnotified : Worker → Bool
  | .inPop wait => wait.unnotified
  | _ => false

/-- Where the committing thread is. -/
inductive Committer (Buffer : Type u) where
  | outside
  | inPush (buffer : Buffer) (wait : Wait)

def Committer.ownsLock : Committer Buffer → Bool
  | .outside => false
  | .inPush _ wait => wait.ownsLock

/-- A notification of `can_push_`. -/
def Committer.notify : Committer Buffer → Committer Buffer
  | .inPush buffer wait => .inPush buffer wait.notify
  | .outside => .outside

def Committer.unnotified : Committer Buffer → Bool
  | .inPush _ wait => wait.unnotified
  | .outside => false

/-- Where a call of `forceStop` is. -/
inductive Stop where
  | outside
  | closed
  /-- The waiters of `can_push_` were notified if the queue is full. -/
  | pushNotified
deriving DecidableEq, Repr

structure System (Buffer : Type u) where
  outQueue : Queue Buffer
  worker : Worker
  committer : Committer Buffer
  stop : Stop
  /-- A call of `forceStop` has completed. -/
  stopped : Bool

def System.initial (buffers : Nat → Buffer) : System Buffer :=
  { outQueue := Queue.initial 16 buffers
    worker := .loopStart
    committer := .outside
    stop := .outside
    stopped := false }

/-- Nobody owns `out_lock_`. -/
def System.lockFree (system : System Buffer) : Bool :=
  !system.worker.ownsLock && !system.committer.ownsLock

/-! ## Steps -/

inductive Label (Buffer : Type u) where
  /-- The worker takes the lock, at the start of its loop or after a wait. -/
  | workerLock
  | workerTest
  | workerWait
  /-- The buffer was sent or given up, and the lock is released. -/
  | workerSent
  | commitBuffer (buffer : Buffer)
  /-- The committing thread takes the lock again after a wait. -/
  | commitLock
  | commitTest
  | commitWait
  | forceStop
  | notifyPush
  | notifyPop

section

variable [Inhabited Buffer] (residue : Buffer → Buffer)

def System.workerLock (system : System Buffer) : System Buffer :=
  if system.lockFree then
    match system.worker with
    | .loopStart => { system with worker := .inPop .testing }
    | .inPop (.waiting _) => { system with worker := .inPop .testing }
    | _ => system
  else system

/-- One round of the loop of `pop_locked`. -/
def System.workerTest (system : System Buffer) : System Buffer :=
  match system.worker with
  | .inPop .testing =>
      match popLocked residue system.outQueue default with
      | none => { system with worker := .inPop .aboutToWait }
      | some (queue, .eio, _) =>
          { system with outQueue := queue, worker := .finished }
      | some (queue, _, _) =>
          { system with
            outQueue := queue
            worker := .sending
            committer :=
              if system.outQueue.count = system.outQueue.capacity then
                system.committer.notify
              else system.committer }
  | _ => system

/-- One round of the loop of `push_locked`. -/
def System.commitTest (system : System Buffer) : System Buffer :=
  match system.committer with
  | .inPush buffer .testing =>
      match pushLocked residue system.outQueue buffer with
      | none =>
          { system with committer := .inPush buffer .aboutToWait }
      | some (queue, status, _) =>
          { system with
            outQueue := queue
            committer := .outside
            worker :=
              if status = .ok ∧ system.outQueue.count = 0 then
                system.worker.notify
              else system.worker }
  | _ => system

/-- Begin to wait; this releases the lock. -/
def System.workerWait (system : System Buffer) : System Buffer :=
  match system.worker with
  | .inPop .aboutToWait =>
      { system with worker := .inPop (.waiting false) }
  | _ => system

def System.commitWait (system : System Buffer) : System Buffer :=
  match system.committer with
  | .inPush buffer .aboutToWait =>
      { system with committer := .inPush buffer (.waiting false) }
  | _ => system

def System.commitLock (system : System Buffer) : System Buffer :=
  match system.lockFree, system.committer with
  | true, .inPush buffer (.waiting _) =>
      { system with committer := .inPush buffer .testing }
  | _, _ => system

def System.commitBuffer (system : System Buffer) (buffer : Buffer) :
    System Buffer :=
  match system.lockFree, system.committer with
  | true, .outside =>
      { system with committer := .inPush buffer .testing }
  | _, _ => system

/-- The second half of `close_locked`, up to the test for an empty queue. -/
def System.notifyPush (system : System Buffer) : System Buffer :=
  if system.stop = .closed then
    { system with
      stop := .pushNotified
      committer :=
        if system.outQueue.count = system.outQueue.capacity then
          system.committer.notify
        else system.committer }
  else system

/-- The end of `close_locked`, and with it of `forceStop`. -/
def System.notifyPop (system : System Buffer) : System Buffer :=
  if system.stop = .pushNotified then
    { system with
      stop := .outside
      stopped := true
      worker :=
        if system.outQueue.count = 0 then system.worker.notify
        else system.worker }
  else system

def step (system : System Buffer) : Label Buffer → System Buffer
  | .workerLock => system.workerLock
  | .workerTest => system.workerTest residue
  | .workerWait => system.workerWait
  | .workerSent =>
      if system.worker = .sending then
        { system with worker := .loopStart }
      else system
  | .commitBuffer buffer => system.commitBuffer buffer
  | .commitLock => system.commitLock
  | .commitTest => system.commitTest residue
  | .commitWait => system.commitWait
  | .forceStop =>
      if system.stop = .outside then
        { system with
          stop := .closed, outQueue := closeLocked system.outQueue }
      else system
  | .notifyPush => system.notifyPush
  | .notifyPop => system.notifyPop

def after (buffers : Nat → Buffer) (labels : List (Label Buffer)) :
    System Buffer :=
  runFrom (step residue) (System.initial buffers) labels

end

/-! ## The condition -/

/-- No thread is between its test and its wait when it would be notified. -/
def NobodyAboutToWait (system : System Buffer) : Label Buffer → Prop
  | .notifyPush =>
      ∀ buffer, system.committer ≠ .inPush buffer .aboutToWait
  | .notifyPop => system.worker ≠ .inPop .aboutToWait
  | _ => True

/-- A thread waits for a notification that is not pending. -/
def System.Stuck (system : System Buffer) : Prop :=
  system.worker = .inPop (.waiting false) ∨
    ∃ buffer, system.committer = .inPush buffer (.waiting false)

/-! ## What notifications do -/

section

variable {worker : Worker} {committer : Committer Buffer}

@[simp]
theorem worker_notify_ownsLock : worker.notify.ownsLock = worker.ownsLock := by
  rcases worker with _ | wait | _ | _
  · rfl
  · cases wait <;> rfl
  · rfl
  · rfl

@[simp]
theorem committer_notify_ownsLock :
    committer.notify.ownsLock = committer.ownsLock := by
  rcases committer with _ | ⟨buffer, wait⟩
  · rfl
  · cases wait <;> rfl

/-- Only a thread that is about to wait misses a notification. -/
theorem worker_notify_unnotified (reached : worker ≠ .inPop .aboutToWait) :
    worker.notify.unnotified = false := by
  rcases worker with _ | wait | _ | _
  · rfl
  · cases wait with
    | testing => rfl
    | aboutToWait => exact absurd rfl reached
    | waiting notified => rfl
  · rfl
  · rfl

theorem committer_notify_unnotified
    (reached : ∀ buffer, committer ≠ .inPush buffer .aboutToWait) :
    committer.notify.unnotified = false := by
  rcases committer with _ | ⟨buffer, wait⟩
  · rfl
  · cases wait with
    | testing => rfl
    | aboutToWait => exact absurd rfl (reached buffer)
    | waiting notified => rfl

theorem worker_ne_aboutToWait (free : worker.ownsLock = false) :
    worker ≠ .inPop .aboutToWait := by
  rintro rfl
  cases free

theorem committer_ne_aboutToWait (free : committer.ownsLock = false)
    (buffer : Buffer) : committer ≠ .inPush buffer .aboutToWait := by
  rintro rfl
  cases free

end

/-! ## Every run -/

/-- What holds between two steps. -/
structure Valid (system : System Buffer) : Prop where
  bounded : system.outQueue.Bounded
  exclusive :
    system.worker.ownsLock = true → system.committer.ownsLock = false
  /-- The worker is notified when the queue gets its first buffer. -/
  empty : system.worker.unnotified = true → system.outQueue.count = 0
  /-- The committing thread is notified when a full queue gets room. -/
  full :
    system.committer.unnotified = true →
      system.outQueue.count = system.outQueue.capacity
  closed :
    system.stop ≠ .outside ∨ system.stopped = true →
      system.outQueue.closed = true
  pushNotified :
    system.stop = .pushNotified ∨ system.stopped = true →
      system.committer.unnotified = false
  popNotified :
    system.stopped = true → system.worker.unnotified = false

theorem valid_initial (buffers : Nat → Buffer) :
    Valid (System.initial buffers) := by
  constructor
  case bounded => exact ⟨Nat.zero_le 16, Nat.succ_pos 15⟩
  all_goals simp [System.initial, Worker.ownsLock, Worker.unnotified,
    Committer.unnotified]

section

variable {residue : Buffer → Buffer} {system : System Buffer}

/-- A step of the worker that leaves the queue alone. -/
theorem Valid.moveWorker (valid : Valid system) {worker : Worker}
    (exclusive :
      worker.ownsLock = true → system.committer.ownsLock = false)
    (empty :
      worker.unnotified = true →
        system.outQueue.count = 0 ∧ system.stopped = false) :
    Valid { system with worker } where
  bounded := valid.bounded
  exclusive := exclusive
  empty := fun unnotified => (empty unnotified).1
  full := valid.full
  closed := valid.closed
  pushNotified := valid.pushNotified
  popNotified := by
    intro stopped
    refine Bool.eq_false_iff.mpr fun unnotified => ?_
    exact Bool.eq_false_iff.mp (empty unnotified).2 stopped

/-- A step of the committing thread that leaves the queue alone. -/
theorem Valid.moveCommitter (valid : Valid system)
    {committer : Committer Buffer}
    (exclusive :
      committer.ownsLock = true → system.worker.ownsLock = false)
    (full :
      committer.unnotified = true →
        system.outQueue.count = system.outQueue.capacity ∧
          system.stop ≠ .pushNotified ∧ system.stopped = false) :
    Valid { system with committer } where
  bounded := valid.bounded
  exclusive := by
    intro owns
    refine Bool.eq_false_iff.mpr fun alsoOwns => ?_
    exact Bool.eq_false_iff.mp (exclusive alsoOwns) owns
  empty := valid.empty
  full := fun unnotified => (full unnotified).1
  closed := valid.closed
  pushNotified := by
    intro notified
    refine Bool.eq_false_iff.mpr fun unnotified => ?_
    rcases full unnotified with ⟨-, notPushNotified, notStopped⟩
    rcases notified with pushNotified | stopped
    · exact notPushNotified pushNotified
    · exact Bool.eq_false_iff.mp notStopped stopped
  popNotified := valid.popNotified

theorem free_of_lockFree (free : system.lockFree = true) :
    system.worker.ownsLock = false ∧ system.committer.ownsLock = false := by
  simpa [System.lockFree] using free

theorem Valid.workerLock (valid : Valid system) :
    Valid system.workerLock := by
  unfold System.workerLock
  split
  · next free =>
    have committerFree := (free_of_lockFree free).2
    split
    · exact valid.moveWorker (fun _ => committerFree) nofun
    · exact valid.moveWorker (fun _ => committerFree) nofun
    · exact valid
  · exact valid

theorem Valid.workerWait (valid : Valid system) :
    Valid system.workerWait := by
  unfold System.workerWait
  split
  · next isAbout =>
    have unnotified : system.worker.unnotified = true := by
      rw [isAbout]
      rfl
    refine valid.moveWorker nofun fun _ => ⟨valid.empty unnotified, ?_⟩
    refine Bool.eq_false_iff.mpr fun stopped => ?_
    exact Bool.eq_false_iff.mp (valid.popNotified stopped) unnotified
  · exact valid

theorem Valid.commitWait (valid : Valid system) :
    Valid system.commitWait := by
  unfold System.commitWait
  split
  · next buffer isAbout =>
    have unnotified : system.committer.unnotified = true := by
      rw [isAbout]
      rfl
    have notYet :
        ¬(system.stop = .pushNotified ∨ system.stopped = true) := by
      intro notified
      exact Bool.eq_false_iff.mp (valid.pushNotified notified) unnotified
    rw [not_or, Bool.not_eq_true] at notYet
    exact valid.moveCommitter nofun fun _ =>
      ⟨valid.full unnotified, notYet⟩
  · exact valid

theorem Valid.commitLock (valid : Valid system) :
    Valid system.commitLock := by
  unfold System.commitLock
  split
  · next free _ =>
    exact valid.moveCommitter (fun _ => (free_of_lockFree free).1) nofun
  · exact valid

theorem Valid.commitBuffer (valid : Valid system) (buffer : Buffer) :
    Valid (system.commitBuffer buffer) := by
  unfold System.commitBuffer
  split
  · next free _ =>
    exact valid.moveCommitter (fun _ => (free_of_lockFree free).1) nofun
  · exact valid

/-- A queue that is closed lets nobody wait. -/
theorem Valid.not_stopping (valid : Valid system)
    (isOpen : system.outQueue.closed = false) :
    system.stop = .outside ∧ system.stopped = false := by
  by_contra stopping
  have closed := valid.closed (by
    rw [not_and_or, Bool.not_eq_false] at stopping
    exact stopping)
  exact Bool.eq_false_iff.mp isOpen closed

/-- Whoever waits for room in a full queue is notified. -/
theorem Valid.committer_notified (valid : Valid system)
    (reached : ∀ buffer, system.committer ≠ .inPush buffer .aboutToWait) :
    (if system.outQueue.count = system.outQueue.capacity then
      system.committer.notify else system.committer).unnotified = false := by
  split
  · exact committer_notify_unnotified reached
  · next notFull =>
    exact Bool.eq_false_iff.mpr fun unnotified =>
      notFull (valid.full unnotified)

/-- Whoever waits for a buffer of an empty queue is notified. -/
theorem Valid.worker_notified (valid : Valid system)
    (reached : system.worker ≠ .inPop .aboutToWait) :
    (if system.outQueue.count = 0 then system.worker.notify
      else system.worker).unnotified = false := by
  split
  · exact worker_notify_unnotified reached
  · next notEmpty =>
    exact Bool.eq_false_iff.mpr fun unnotified =>
      notEmpty (valid.empty unnotified)

theorem Valid.workerTest [Inhabited Buffer] (valid : Valid system) :
    Valid (system.workerTest residue) := by
  unfold System.workerTest
  split
  · next isTesting =>
    have committerFree : system.committer.ownsLock = false :=
      valid.exclusive (by rw [isTesting]; rfl)
    split
    · next waits =>
      rcases (attempt_eq_none_iff residue system.outQueue
        (.pop default)).mp waits with ⟨isOpen, nothing⟩
      exact valid.moveWorker (fun _ => committerFree) fun _ =>
        ⟨Queue.stored_eq_nil_iff.mp nothing, (valid.not_stopping isOpen).2⟩
    · next queue buffer returned =>
      have done := @attempt_returned _ residue _ valid.bounded (.pop default)
        _ _ _ returned
      have law : PopLaw true system.outQueue queue default buffer .eio :=
        done.lawful
      obtain ⟨rfl, -⟩ := law.failed (by decide)
      exact valid.moveWorker nofun nofun
    · next queue status buffer notEio returned =>
      have done := @attempt_returned _ residue _ valid.bounded (.pop default)
        _ _ _ returned
      have law : PopLaw true system.outQueue queue default buffer status :=
        done.lawful
      rcases law.first (law.ok_of_ne_eio notEio) with ⟨-, closed⟩
      have notified := valid.committer_notified
        (committer_ne_aboutToWait committerFree)
      constructor
      case bounded => exact done.bounded
      case exclusive =>
        intro _
        rwa [apply_ite Committer.ownsLock, committer_notify_ownsLock,
          ite_self]
      case empty => exact nofun
      case full =>
        exact fun unnotified =>
          absurd unnotified (Bool.eq_false_iff.mp notified)
      case closed => exact fun stopping => closed.trans (valid.closed stopping)
      case pushNotified => exact fun _ => notified
      case popNotified => exact fun _ => rfl
  · exact valid

theorem Valid.commitTest (valid : Valid system) :
    Valid (system.commitTest residue) := by
  unfold System.commitTest
  split
  · next buffer isTesting =>
    have workerFree : system.worker.ownsLock = false := by
      refine Bool.eq_false_iff.mpr fun owns => ?_
      have free := valid.exclusive owns
      rw [isTesting] at free
      cases free
    split
    · next waits =>
      rcases (attempt_eq_none_iff residue system.outQueue
        (.push buffer)).mp waits with ⟨isOpen, isFull⟩
      rw [Queue.stored_length] at isFull
      rcases valid.not_stopping isOpen with ⟨outside, notStopped⟩
      exact valid.moveCommitter (fun _ => workerFree) fun _ =>
        ⟨isFull, by rw [outside]; decide, notStopped⟩
    · next queue status moved returned =>
      have done := @attempt_returned _ residue _ valid.bounded (.push buffer)
        _ _ _ returned
      have law : PushLaw true system.outQueue queue buffer status :=
        done.lawful
      by_cases success : status = .ok
      · have notified :=
          valid.worker_notified (worker_ne_aboutToWait workerFree)
        simp only [success, true_and]
        constructor
        case bounded => exact done.bounded
        case exclusive => exact fun _ => rfl
        case empty =>
          exact fun unnotified =>
            absurd unnotified (Bool.eq_false_iff.mp notified)
        case full => exact nofun
        case closed =>
          exact fun stopping =>
            (law.ok success).2.trans (valid.closed stopping)
        case pushNotified => exact fun _ => rfl
        case popNotified => exact fun _ => notified
      · obtain rfl := law.failed success
        have left := valid.moveCommitter
          (show (Committer.outside : Committer Buffer).ownsLock = true →
            system.worker.ownsLock = false from nofun) nofun
        simpa only [success, false_and, if_false] using left
  · exact valid

theorem Valid.notifyPush (valid : Valid system)
    (reached : ∀ buffer, system.committer ≠ .inPush buffer .aboutToWait) :
    Valid system.notifyPush := by
  unfold System.notifyPush
  split
  · next isClosed =>
    have notified := valid.committer_notified reached
    constructor
    case bounded => exact valid.bounded
    case exclusive =>
      rw [apply_ite Committer.ownsLock, committer_notify_ownsLock, ite_self]
      exact valid.exclusive
    case empty => exact valid.empty
    case full =>
      exact fun unnotified =>
        absurd unnotified (Bool.eq_false_iff.mp notified)
    case closed =>
      intro _
      exact valid.closed (Or.inl (by rw [isClosed]; decide))
    case pushNotified => exact fun _ => notified
    case popNotified => exact valid.popNotified
  · exact valid

theorem Valid.notifyPop (valid : Valid system)
    (reached : system.worker ≠ .inPop .aboutToWait) :
    Valid system.notifyPop := by
  unfold System.notifyPop
  split
  · next isNotified =>
    have notified := valid.worker_notified reached
    constructor
    case bounded => exact valid.bounded
    case exclusive =>
      rw [apply_ite Worker.ownsLock, worker_notify_ownsLock, ite_self]
      exact valid.exclusive
    case empty =>
      exact fun unnotified =>
        absurd unnotified (Bool.eq_false_iff.mp notified)
    case full => exact valid.full
    case closed =>
      intro _
      exact valid.closed (Or.inl (by rw [isNotified]; decide))
    case pushNotified => exact fun _ => valid.pushNotified (Or.inl isNotified)
    case popNotified => exact fun _ => notified
  · exact valid

theorem Valid.preserved [Inhabited Buffer] (label : Label Buffer)
    (valid : Valid system) (nobody : NobodyAboutToWait system label) :
    Valid (step residue system label) := by
  cases label with
  | workerLock => exact valid.workerLock
  | workerTest => exact valid.workerTest
  | workerWait => exact valid.workerWait
  | workerSent =>
      simp only [step]
      split
      · exact valid.moveWorker nofun nofun
      · exact valid
  | commitBuffer buffer => exact valid.commitBuffer buffer
  | commitLock => exact valid.commitLock
  | commitTest => exact valid.commitTest
  | commitWait => exact valid.commitWait
  | forceStop =>
      simp only [step]
      split
      · next outside =>
        constructor
        case bounded => exact ⟨valid.bounded.count, valid.bounded.pos⟩
        case exclusive => exact valid.exclusive
        case empty => exact valid.empty
        case full => exact valid.full
        case closed => exact fun _ => rfl
        case pushNotified =>
          rintro (pushNotified | stopped)
          · cases pushNotified
          · exact valid.pushNotified (Or.inr stopped)
        case popNotified => exact valid.popNotified
      · exact valid
  | notifyPush => exact valid.notifyPush nobody
  | notifyPop => exact valid.notifyPop nobody

end

/--
If no thread is between its test and its wait while `forceStop` notifies the
threads that wait, then after `forceStop` has completed nobody waits without a
notification.
-/
theorem shutdown_wakes_waiters [Inhabited Buffer]
    (residue : Buffer → Buffer) (buffers : Nat → Buffer)
    (labels : List (Label Buffer))
    (nobody :
      Admitted (step residue) NobodyAboutToWait (System.initial buffers)
        labels) :
    ∀ earlier, earlier <+: labels →
      (after residue buffers earlier).stopped = true →
        ¬(after residue buffers earlier).Stuck := by
  intro earlier isPrefix stopped
  have valid : Valid (after residue buffers earlier) :=
    (nobody.earlier isPrefix).invariant
      (fun _ label => Valid.preserved label) (valid_initial buffers)
  rintro (worker | ⟨buffer, committer⟩)
  · have notified := valid.popNotified stopped
    rw [worker] at notified
    cases notified
  · have notified := valid.pushNotified (Or.inr stopped)
    rw [committer] at notified
    cases notified

/-- The worker waits when `forceStop` notifies it. -/
theorem shutdown_wakes_waiters_idle :
    let labels : List (Label Nat) :=
      [.workerLock, .workerTest, .workerWait, .forceStop, .notifyPush,
        .notifyPop]
    (after id (fun _ => 0) labels).stopped = true ∧
      ¬(after id (fun _ => 0) labels).Stuck := by
  intro labels
  refine ⟨by decide, shutdown_wakes_waiters id (fun _ => 0) labels
    ⟨trivial, trivial, trivial, trivial, ?_, ?_, trivial⟩ labels
    (List.prefix_refl labels) (by decide)⟩
  · exact fun buffer inPush => by cases inPush
  · exact fun inPop => by cases inPop

/-- The worker begins to wait when `forceStop` has completed. -/
theorem worker_misses_notification :
    let system := after id (fun _ => 0)
      [.workerLock, .workerTest, .forceStop, .notifyPush, .notifyPop,
        .workerWait]
    system.stopped = true ∧ system.stop = .outside ∧
      system.worker = .inPop (.waiting false) ∧ system.Stuck := by
  refine ⟨by decide, by decide, by decide, Or.inl (by decide)⟩

end Anbox.Graphics.StreamShutdown
