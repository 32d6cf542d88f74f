import Anbox.Graphics.StreamInput

/-!
# The audio sink

`AudioSink::write_data` puts the sound of a guest into a queue of buffers.  SDL
calls `read_data` from its audio thread to have its output filled.  The loop is
that of a buffered stream: it waits while it has no byte yet, and ends when the
queue runs dry after some.  Here nobody is told how many bytes there are, so
the rest of the output stays as it was.

What is meant is one stream of bytes: a callback takes the next bytes of all
that was written, and silence for those that are missing.
-/

namespace Anbox.Audio.AudioSink

open Anbox.Foundation.Runs
open Anbox.Graphics.BufferQueue (Queue Status ThreadId pushLocked
  popLocked tryPopLocked attempt_returned PushLaw)
open Anbox.Graphics.StreamInput (Buffer Stream ReadOutcome readLoop popFor
  popFor_law readLoop_spec LoopSpec)

/-! ## The sink -/

/-- `max_queue_size`. -/
def maxQueueSize : Nat := 16

/-- A callback that has returned. -/
structure Callback where
  size : Int
  /-- The bytes at the start of the output that were written. -/
  output : List UInt8
  /-- All bytes of the output as they are meant. -/
  due : List UInt8
deriving DecidableEq, Repr

/-- The next bytes of the stream, and silence for those that are missing. -/
def due (unread : List UInt8) (size : Int) : List UInt8 :=
  unread.take size.toNat ++
    List.replicate (size.toNat - unread.length) 0

structure System where
  /-- `queue_`, `read_buffer_` and `read_buffer_left_`. -/
  stream : Stream
  /-- `device_id_` is positive. -/
  deviceOpen : Bool
  /-- The data of the calls of `write_data` that wait. -/
  writing : ThreadId → Option Buffer
  /-- The size of the callback that waits. -/
  reading : Option Int
  /-- The data of the calls of `write_data` that have returned, in order. -/
  written : List Buffer
  /-- How many of these bytes should have been played. -/
  played : Nat
  callbacks : List Callback

def System.initial (buffers : Nat → Buffer) : System :=
  { stream := ⟨Queue.initial maxQueueSize buffers, [], 0⟩
    deviceOpen := false
    writing := fun _ => none
    reading := none
    written := []
    played := 0
    callbacks := [] }

/-- The bytes that were written and should not have been played yet. -/
def System.unplayed (system : System) : List UInt8 :=
  system.written.flatten.drop system.played

/-- `push_locked`, once or when it is woken up. -/
def System.push (residue : Buffer → Buffer) (system : System)
    (thread : ThreadId) (data : Buffer) : System :=
  match pushLocked residue system.stream.inQueue data with
  | none =>
      { system with
        writing := Function.update system.writing thread (some data) }
  | some (queue, _, _) =>
      { system with
        stream := { system.stream with inQueue := queue }
        writing := Function.update system.writing thread none
        written := system.written ++ [data] }

/-- Without a device the data are skipped; `opens` is the result of SDL. -/
def System.writeData (residue : Buffer → Buffer) (system : System)
    (thread : ThreadId) (data : Buffer) (opens : Bool) : System :=
  if system.deviceOpen || opens then
    { system with deviceOpen := true }.push residue thread data
  else { system with written := system.written ++ [data] }

/-- A callback ends with some bytes at the start of its output. -/
def System.finish (system : System) (stream : Stream) (size : Int)
    (output : List UInt8) : System :=
  { system with
    stream := stream
    reading := none
    played := system.played + min size.toNat system.unplayed.length
    callbacks :=
      system.callbacks ++ [⟨size, output, due system.unplayed size⟩] }

/-- `read_data`, from the start or when it is woken up without a byte. -/
def System.readData (residue : Buffer → Buffer) (system : System)
    (size : Int) : System :=
  match readLoop residue size.toNat system.stream 0 [] with
  | (.waits, stream) =>
      { system with stream := stream, reading := some size }
  | (.null, stream) => system.finish stream size []
  | (.bytes copied, stream) => system.finish stream size copied

inductive Label where
  | writeData (thread : ThreadId) (data : Buffer) (opens : Bool)
  /-- A push that waits looks at the queue again. -/
  | resumeWrite (thread : ThreadId)
  | readData (size : Int)
  /-- The callback that waits looks at the queue again. -/
  | resumeRead

def step (residue : Buffer → Buffer) (system : System) : Label → System
  | .writeData thread data opens =>
      match system.writing thread with
      | some _ => system
      | none => system.writeData residue thread data opens
  | .resumeWrite thread =>
      match system.writing thread with
      | some data => system.push residue thread data
      | none => system
  | .readData size =>
      match system.reading with
      | some _ => system
      | none => system.readData residue size
  | .resumeRead =>
      match system.reading with
      | some size => system.readData residue size
      | none => system

/-! ## What is meant -/

/--
Every callback has written its whole output as it is meant, and all bytes that
should still be played are there to be read.
-/
structure PlayedInOrder (system : System) : Prop where
  callbacks : ∀ callback ∈ system.callbacks, callback.output = callback.due
  kept : system.stream.unread = system.unplayed

/-- There is nothing to read, or enough. -/
def Enough (system : System) (size : Int) : Prop :=
  system.stream.unread = [] ∨ size.toNat ≤ system.stream.unread.length

/-- Data find the device open, and a callback finds nothing or enough. -/
def Suited (system : System) : Label → Prop
  | .writeData thread data opens =>
      system.writing thread = none →
        system.deviceOpen = true ∨ opens = true ∨ data = []
  | .resumeWrite _ => True
  | .readData size => system.reading = none → Enough system size
  | .resumeRead => ∀ size, system.reading = some size → Enough system size

/-! ## One callback -/

/-- How much is unread when the loop has ended. -/
def Drains (wanted : Nat) (outcome : ReadOutcome) (after : Stream) : Prop :=
  match outcome with
  | .waits | .null => after.unread = []
  | .bytes all => all.length = wanted ∨ after.unread = []

theorem unread_of_stored_eq_nil {stream : Stream}
    (empty : ¬ 0 < stream.readBufferLeft)
    (nothing : stream.inQueue.stored = []) : stream.unread = [] := by
  rw [Stream.unread_of_left_eq_zero empty, nothing]
  rfl

/-- The loop goes on until it has enough or nothing is left. -/
theorem readLoop_drains {residue : Buffer → Buffer} {wanted : Nat}
    {stream : Stream} {count : Nat} {copied : List UInt8}
    (valid : stream.Valid) (counted : copied.length = count)
    (within : count ≤ wanted) :
    Drains wanted (readLoop residue wanted stream count copied).1
      (readLoop residue wanted stream count copied).2 := by
  fun_induction readLoop residue wanted stream count copied with
  | case1 stream count copied more left avail offset inductionHypothesis =>
      have inside := valid.left
      have availLe : avail ≤ stream.readBufferLeft := Nat.min_le_right _ _
      refine inductionHypothesis ⟨valid.bounded, ?_⟩ ?_ ?_
      · exact Nat.le_trans (Nat.sub_le _ _) inside
      · rw [List.length_append, counted, List.length_take,
          List.length_drop]
        omega
      · omega
  | case2 stream count copied more empty popped =>
      have zero : stream.inQueue.count = 0 := by
        by_contra nonzero
        rw [popFor, popLocked, if_neg nonzero, ite_self] at popped
        cases popped
      exact unread_of_stored_eq_nil empty
        (Queue.stored_eq_nil_iff.mpr zero)
  | case3 stream count copied more empty queue buffer popped
      inductionHypothesis =>
      rcases popFor_law valid.bounded popped with ⟨bounded, law⟩
      exact inductionHypothesis ⟨bounded, Nat.le_refl _⟩ counted within
  | case4 stream count copied more empty queue status buffer failed popped
      next some =>
      rcases popFor_law valid.bounded popped with ⟨bounded, law⟩
      rcases law.failed failed with ⟨rfl, rfl⟩
      have nothing : stream.inQueue.stored = [] := by
        by_contra stored
        exact failed (law.ok.mpr stored)
      exact Or.inr (unread_of_stored_eq_nil empty nothing)
  | case5 stream count copied more empty queue status buffer failed popped
      next none =>
      rcases popFor_law valid.bounded popped with ⟨bounded, law⟩
      rcases law.failed failed with ⟨rfl, rfl⟩
      have nothing : stream.inQueue.stored = [] := by
        by_contra stored
        exact failed (law.ok.mpr stored)
      exact unread_of_stored_eq_nil empty nothing
  | case6 stream count copied enough =>
      exact Or.inl (by omega)

/-- What a callback does to a queue that stays open. -/
structure ReadSpec (wanted : Nat) (before : Stream) (outcome : ReadOutcome)
    (after : Stream) : Prop where
  valid : after.Valid
  isOpen : after.inQueue.closed = false
  notNull : outcome ≠ .null
  waits :
    outcome = .waits →
      0 < wanted ∧ before.unread = [] ∧ after.unread = []
  bytes :
    ∀ all, outcome = .bytes all →
      (before.unread = [] → wanted = 0) ∧
        all = before.unread.take wanted ∧
        after.unread = before.unread.drop wanted

theorem readLoop_waits_pos {residue : Buffer → Buffer} {stream : Stream}
    {wanted : Nat}
    (waits : (readLoop residue wanted stream 0 []).1 = .waits) :
    0 < wanted := by
  by_contra none
  rw [readLoop, if_neg none] at waits
  cases waits

theorem readLoop_readSpec {residue : Buffer → Buffer} {stream : Stream}
    (valid : stream.Valid) (isOpen : stream.inQueue.closed = false)
    (wanted : Nat) :
    ReadSpec wanted stream (readLoop residue wanted stream 0 []).1
      (readLoop residue wanted stream 0 []).2 := by
  have spec := @readLoop_spec residue wanted stream 0 [] valid rfl
    (Nat.zero_le wanted)
  have drains := @readLoop_drains residue wanted stream 0 [] valid rfl
    (Nat.zero_le wanted)
  constructor
  case valid => exact spec.valid
  case isOpen => exact spec.closed.trans isOpen
  case notNull =>
    intro null
    have closed := (spec.null null).2.1
    rw [isOpen] at closed
    cases closed
  case waits =>
    intro waits
    have same := (spec.waits waits).2
    have nothing : (readLoop residue wanted stream 0 []).2.unread = [] := by
      rw [waits] at drains
      exact drains
    exact ⟨readLoop_waits_pos waits, same ▸ nothing, nothing⟩
  case bytes =>
    intro all returned
    rcases spec.bytes all returned with ⟨moved, atMost, some⟩
    rw [List.nil_append] at moved
    rw [returned] at drains
    refine ⟨?_, ?_⟩
    · intro nothing
      rw [nothing] at moved
      have none := (List.append_eq_nil_iff.mp moved).1
      by_contra wants
      have length := some (by omega)
      rw [none] at length
      exact Nat.lt_irrefl 0 length
    · rcases drains with whole | drained
      · rw [← moved, ← whole, List.take_left, List.drop_left]
        exact ⟨rfl, rfl⟩
      · rw [drained, List.append_nil] at moved
        rw [← moved, List.take_of_length_le atMost,
          List.drop_of_length_le atMost, drained]
        exact ⟨rfl, rfl⟩

/-- A callback is right exactly if it takes nothing or finds enough. -/
theorem take_eq_due_iff (unread : List UInt8) (size : Int) :
    unread.take size.toNat = due unread size ↔
      size.toNat ≤ unread.length := by
  rw [due, List.self_eq_append_right, List.replicate_eq_nil_iff]
  omega

/-! ## Every run -/

/-- What suited steps keep. -/
structure Sound (system : System) : Prop where
  valid : system.stream.Valid
  isOpen : system.stream.inQueue.closed = false
  within : system.played ≤ system.written.flatten.length
  inOrder : PlayedInOrder system

theorem sound_initial (buffers : Nat → Buffer) :
    Sound (System.initial buffers) where
  valid := ⟨⟨Nat.zero_le maxQueueSize, Nat.succ_pos 15⟩, Nat.le_refl 0⟩
  isOpen := rfl
  within := Nat.zero_le _
  inOrder := ⟨nofun, rfl⟩

theorem Sound.push {system : System} (sound : Sound system)
    (residue : Buffer → Buffer) (thread : ThreadId) (data : Buffer) :
    Sound (system.push residue thread data) := by
  unfold System.push
  split
  · exact ⟨sound.valid, sound.isOpen, sound.within,
      ⟨sound.inOrder.callbacks, sound.inOrder.kept⟩⟩
  · rename_i queue status buffer returned
    have done := @attempt_returned _ residue _ sound.valid.bounded
      (.push data) _ _ _ returned
    have law : PushLaw true system.stream.inQueue queue data status :=
      done.lawful
    have accepted : status = .ok := by
      cases status with
      | ok => rfl
      | eio =>
          have closed := law.eio.mp rfl
          rw [sound.isOpen] at closed
          cases closed
      | eagain =>
          have notBlocking := (law.eagain.mp rfl).1
          cases notBlocking
    rcases law.ok accepted with ⟨stored, closed⟩
    have within := sound.within
    constructor
    case valid => exact ⟨done.bounded, sound.valid.left⟩
    case isOpen => exact closed.trans sound.isOpen
    case within =>
      rw [List.flatten_append, List.length_append]
      exact Nat.le_add_right_of_le within
    case inOrder =>
      refine ⟨sound.inOrder.callbacks, ?_⟩
      have kept := sound.inOrder.kept
      simp only [Stream.unread, System.unplayed] at kept ⊢
      rw [stored, List.flatten_append, List.flatten_append,
        List.drop_append_of_le_length within, ← kept, List.append_assoc]

theorem Sound.writeData_open {system : System} (sound : Sound system)
    (residue : Buffer → Buffer) (thread : ThreadId) (data : Buffer)
    {opens : Bool} (device : system.deviceOpen = true ∨ opens = true) :
    Sound (system.writeData residue thread data opens) := by
  have isOpen : (system.deviceOpen || opens) = true := by simpa using device
  rw [System.writeData, if_pos isOpen]
  have opened : Sound { system with deviceOpen := true } :=
    ⟨sound.valid, sound.isOpen, sound.within,
      ⟨sound.inOrder.callbacks, sound.inOrder.kept⟩⟩
  exact opened.push residue thread data

/-- Data are lost without a device, unless there are none. -/
theorem Sound.writeData_skipped {system : System} (sound : Sound system)
    (residue : Buffer → Buffer) (thread : ThreadId) (data : Buffer)
    {opens : Bool}
    (device : ¬ (system.deviceOpen = true ∨ opens = true)) :
    (Sound (system.writeData residue thread data opens) ↔ data = []) ∧
      (PlayedInOrder (system.writeData residue thread data opens) →
        data = []) := by
  have notOpen : ¬ (system.deviceOpen || opens) = true := by
    simpa using device
  have within := sound.within
  have kept := sound.inOrder.kept
  rw [System.writeData, if_neg notOpen]
  have lost :
      PlayedInOrder { system with written := system.written ++ [data] } →
        data = [] := by
    intro inOrder
    have still := inOrder.kept
    simp only [System.unplayed] at kept still
    rw [kept, List.flatten_append, List.drop_append_of_le_length within,
      List.flatten_singleton, List.self_eq_append_right] at still
    exact still
  refine ⟨⟨fun after => lost after.inOrder, ?_⟩, lost⟩
  rintro rfl
  have same : (system.written ++ [[]]).flatten = system.written.flatten := by
    simp
  constructor
  case valid => exact sound.valid
  case isOpen => exact sound.isOpen
  case within =>
    rw [same]
    exact within
  case inOrder =>
    refine ⟨sound.inOrder.callbacks, ?_⟩
    rw [System.unplayed, same]
    exact kept

section Reads

variable {system : System} {size : Int} {copied : List UInt8}
variable {stream : Stream}

/-- A callback that ends is right if it found enough. -/
theorem Sound.finish (sound : Sound system)
    (spec : ReadSpec size.toNat system.stream (.bytes copied) stream)
    (enough : Enough system size) :
    Sound (system.finish stream size copied) := by
  have kept := sound.inOrder.kept
  have within := sound.within
  rcases spec.bytes copied rfl with ⟨wants, taken, left⟩
  have atLeast : size.toNat ≤ system.stream.unread.length := by
    rcases enough with nothing | enough
    · rw [wants nothing]
      exact Nat.zero_le _
    · exact enough
  have lengths := congrArg List.length kept
  rw [System.unplayed, List.length_drop] at lengths
  constructor
  case valid => exact spec.valid
  case isOpen => exact spec.isOpen
  case within =>
    dsimp only [System.finish]
    rw [← kept]
    omega
  case inOrder =>
    constructor
    · intro callback member
      rcases List.mem_append.mp member with earlier | last
      · exact sound.inOrder.callbacks callback earlier
      · rw [List.mem_singleton.mp last, taken, ← kept]
        exact (take_eq_due_iff _ size).mpr atLeast
    · dsimp only [System.finish, System.unplayed]
      rw [← System.unplayed, ← kept, Nat.min_eq_left atLeast, left,
        kept, System.unplayed, List.drop_drop]

/-- The output of a callback tells whether it found enough. -/
theorem Sound.enough (sound : Sound system)
    (spec : ReadSpec size.toNat system.stream (.bytes copied) stream)
    (inOrder : PlayedInOrder (system.finish stream size copied)) :
    Enough system size := by
  rcases spec.bytes copied rfl with ⟨-, taken, -⟩
  have last := inOrder.callbacks ⟨size, copied, due system.unplayed size⟩
    (List.mem_append_right _ (List.mem_singleton.mpr rfl))
  dsimp only at last
  rw [taken, ← sound.inOrder.kept] at last
  exact Or.inr ((take_eq_due_iff _ size).mp last)

end Reads

/-- A callback waits, or it ends and is right or wrong. -/
theorem Sound.readData {system : System} (sound : Sound system)
    (residue : Buffer → Buffer) (size : Int) :
    (Enough system size → Sound (system.readData residue size)) ∧
      (PlayedInOrder (system.readData residue size) →
        Enough system size) := by
  have spec := @readLoop_readSpec residue _ sound.valid sound.isOpen
    size.toNat
  unfold System.readData
  split
  · rename_i stream looped
    rw [looped] at spec
    rcases spec.waits rfl with ⟨-, nothing, still⟩
    refine ⟨fun _ => ?_, fun _ => Or.inl nothing⟩
    refine ⟨spec.valid, spec.isOpen, sound.within,
      sound.inOrder.callbacks, ?_⟩
    exact still.trans (nothing.symm.trans sound.inOrder.kept)
  · rename_i stream looped
    rw [looped] at spec
    exact absurd rfl spec.notNull
  · rename_i copied stream looped
    rw [looped] at spec
    exact ⟨sound.finish spec, sound.enough spec⟩

/-- From a sound state the suited steps lead to sound ones. -/
theorem Sound.step {system : System} {label : Label}
    (residue : Buffer → Buffer) (sound : Sound system)
    (suited : Suited system label) : Sound (step residue system label) := by
  cases label with
  | writeData thread data opens =>
      simp only [AudioSink.step]
      split
      · exact sound
      · rename_i free
        by_cases device : system.deviceOpen = true ∨ opens = true
        · exact sound.writeData_open residue thread data device
        · rcases suited free with isOpen | opening | nothing
          · exact absurd (Or.inl isOpen) device
          · exact absurd (Or.inr opening) device
          · exact (sound.writeData_skipped residue thread data
              device).1.mpr nothing
  | resumeWrite thread =>
      simp only [AudioSink.step]
      split
      · exact sound.push residue thread _
      · exact sound
  | readData size =>
      simp only [AudioSink.step]
      split
      · exact sound
      · rename_i free
        exact (sound.readData residue size).1 (suited free)
  | resumeRead =>
      simp only [AudioSink.step]
      split
      · rename_i size waiting
        exact (sound.readData residue size).1 (suited size waiting)
      · exact sound

/-- The other steps lose data or leave an output unwritten. -/
theorem Sound.suited {system : System} {label : Label}
    (residue : Buffer → Buffer) (sound : Sound system)
    (inOrder : PlayedInOrder (AudioSink.step residue system label)) :
    Suited system label := by
  cases label with
  | writeData thread data opens =>
      intro free
      simp only [AudioSink.step, free] at inOrder
      by_cases device : system.deviceOpen = true ∨ opens = true
      · rcases device with isOpen | opening
        · exact Or.inl isOpen
        · exact Or.inr (Or.inl opening)
      · exact Or.inr (Or.inr
          ((sound.writeData_skipped residue thread data device).2 inOrder))
  | resumeWrite thread => exact trivial
  | readData size =>
      intro free
      simp only [AudioSink.step, free] at inOrder
      exact (sound.readData residue size).2 inOrder
  | resumeRead =>
      intro size waiting
      simp only [AudioSink.step, waiting] at inOrder
      exact (sound.readData residue size).2 inOrder

/--
Everything is played in order all the way exactly if no data arrive without a
device, and each callback finds nothing, so that it waits, or all it wants.
-/
theorem playedInOrder_always_iff_suited (residue : Buffer → Buffer)
    (buffers : Nat → Buffer) (labels : List Label) :
    (∀ earlier, earlier <+: labels →
        PlayedInOrder
          (runFrom (step residue) (System.initial buffers) earlier)) ↔
      Admitted (step residue) Suited (System.initial buffers) labels :=
  always_iff_admitted (fun _ sound => sound.inOrder)
    (fun _ _ sound suited => sound.step residue suited)
    (fun _ _ sound inOrder => sound.suited residue inOrder)
    (sound_initial buffers) labels

/-- Two bytes are written and a callback wants four. -/
def shortPlayback : List Label :=
  [.writeData 0 [1, 2] true, .readData 4]

/-- The callback returns with half of its output unwritten. -/
theorem output_not_filled :
    ¬ PlayedInOrder
      (runFrom (step id) (System.initial fun _ => []) shortPlayback) := by
  have sound : Sound
      (step id (System.initial fun _ => []) (.writeData 0 [1, 2] true)) :=
    (sound_initial fun _ => []).step id fun _ => Or.inr (Or.inl rfl)
  intro inOrder
  have enough := @Sound.suited _ (.readData 4) id sound inOrder
  rcases enough rfl with nothing | atLeast
  · revert nothing
    decide
  · revert atLeast
    decide

end Anbox.Audio.AudioSink
