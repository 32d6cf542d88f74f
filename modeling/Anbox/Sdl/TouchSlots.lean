import Anbox.Foundation.Runs
import Mathlib.Data.List.Count
import Mathlib.Data.List.Perm.Basic
import Mathlib.Logic.Function.Basic

/-!
# Touch slots

The SDL platform reports fingers, and mouse buttons in touch emulation, to
Android as contacts of a multi-touch device.  `touch_slots` says which finger
is in which slot, with -1 for a free slot; `last_slot` is the slot that was
selected last, so that it need not be selected again.

The other side follows the rules of the multi-touch protocol.  Whether it
agrees with `touch_slots` after every report is not obvious for two reasons.
The ids of fingers are cut to an `int` and may be -1 themselves, and a tracking
id made of a negative id may be negative.  A press without a free slot or
without coordinates is dropped.
-/

namespace Anbox.Sdl.TouchSlots

open Anbox.Foundation.Runs

/-! ## The platform -/

def maxFingers : Nat := 10

def maxTrackingId : Int := 10

/-- `emulated_touch_id_`. -/
def emulatedTouchId : Int32 := 0

/-- The events that are sent to the touch device. -/
inductive InputEvent where
  | absMtSlot (slot : Nat)
  | absMtTrackingId (id : Int)
  | absMtPositionX (x : Int32)
  | absMtPositionY (y : Int32)
  | synReport
deriving DecidableEq, Repr

/-- The members that the touch functions use; no last slot is -1. -/
structure Platform where
  touchSlots : List Int32
  lastSlot : Option Nat
  sized : touchSlots.length = maxFingers

def Platform.initial : Platform :=
  ⟨List.replicate maxFingers (-1), none, List.length_replicate⟩

def Platform.setTouchSlot (platform : Platform) (slot : Nat) (id : Int32) :
    Platform :=
  { platform with
    touchSlots := platform.touchSlots.set slot id
    sized := by rw [List.length_set, platform.sized] }

/-- The first slot with this id; `none` is the result -1. -/
def findTouchSlot (platform : Platform) (id : Int32) : Option Nat :=
  platform.touchSlots.idxOf? id

def pushSlot (platform : Platform) (slot : Nat) :
    Platform × List InputEvent :=
  if platform.lastSlot ≠ some slot then
    ({ platform with lastSlot := some slot }, [.absMtSlot slot])
  else (platform, [])

/-- The remainder has the sign of the id. -/
def trackingId (fingerId : Int32) : Int :=
  fingerId.toInt.tmod maxTrackingId + 1

def pushFingerDown (platform : Platform) (x y : Int32) (fingerId : Int32) :
    Platform × List InputEvent :=
  match findTouchSlot platform (-1) with
  | none => (platform, [])
  | some slot =>
      let (next, selected) :=
        pushSlot (platform.setTouchSlot slot fingerId) slot
      (next, selected ++
        [.absMtTrackingId (trackingId fingerId), .absMtPositionX x,
          .absMtPositionY y, .synReport])

def pushFingerUp (platform : Platform) (fingerId : Int32) :
    Platform × List InputEvent :=
  match findTouchSlot platform fingerId with
  | none => (platform, [])
  | some slot =>
      let (next, selected) := pushSlot platform slot
      (next.setTouchSlot slot (-1),
        selected ++ [.absMtTrackingId (-1), .synReport])

def pushFingerMotion (platform : Platform) (x y : Int32)
    (fingerId : Int32) : Platform × List InputEvent :=
  match findTouchSlot platform fingerId with
  | none => (platform, [])
  | some slot =>
      let (next, selected) := pushSlot platform slot
      (next, selected ++
        [.absMtPositionX x, .absMtPositionY y, .synReport])

/--
The SDL events that concern the touch device.  A position is what
`adjust_coordinates` or `calculate_touch_coordinates` makes of the event;
`none` if there is no window to relate it to.
-/
inductive SdlEvent where
  | mouseButtonDown (button : UInt8) (position : Option (Int32 × Int32))
  | mouseButtonUp (button : UInt8)
  | mouseMotion (position : Option (Int32 × Int32))
  | fingerDown (fingerId : Int64) (position : Option (Int32 × Int32))
  | fingerUp (fingerId : Int64)
  | fingerMotion (fingerId : Int64) (position : Option (Int32 × Int32))
deriving DecidableEq, Repr

/-- The touch events of `process_input_event`; passing an id cuts it. -/
def processInputEvent (noTouchEmulation : Bool) (platform : Platform) :
    SdlEvent → Platform × List InputEvent
  | .mouseButtonDown _ position =>
      if noTouchEmulation then (platform, [])
      else
        match position with
        | none => (platform, [])
        | some (x, y) => pushFingerDown platform x y emulatedTouchId
  | .mouseButtonUp _ =>
      if noTouchEmulation then (platform, [])
      else pushFingerUp platform emulatedTouchId
  | .mouseMotion position =>
      match position with
      | none => (platform, [])
      | some (x, y) =>
          if noTouchEmulation then (platform, [])
          else pushFingerMotion platform x y emulatedTouchId
  | .fingerDown fingerId position =>
      match position with
      | none => (platform, [])
      | some (x, y) => pushFingerDown platform x y fingerId.toInt32
  | .fingerUp fingerId => pushFingerUp platform fingerId.toInt32
  | .fingerMotion fingerId position =>
      match position with
      | none => (platform, [])
      | some (x, y) => pushFingerMotion platform x y fingerId.toInt32

/-! ## The multi-touch protocol -/

/-- What the reader of the touch device has understood. -/
structure Reader where
  selected : Option Nat
  /-- The tracking ids of the contacts in the slots. -/
  contacts : Nat → Option Int
  positions : Nat → Int32 × Int32

def Reader.initial : Reader := ⟨none, fun _ => none, fun _ => (0, 0)⟩

/-- A slot in which there is a contact. -/
def Reader.Occupied (reader : Reader) (slot : Nat) : Prop :=
  (reader.contacts slot).isSome

instance (reader : Reader) (slot : Nat) : Decidable (reader.Occupied slot) :=
  inferInstanceAs (Decidable (_ = true))

/-- A negative tracking id ends a contact, any other starts one. -/
def read (reader : Reader) (event : InputEvent) : Reader :=
  match event, reader.selected with
  | .absMtSlot slot, _ => { reader with selected := some slot }
  | .absMtTrackingId id, some slot =>
      { reader with
        contacts := Function.update reader.contacts slot
          (if 0 ≤ id then some id else none) }
  | .absMtPositionX x, some slot =>
      { reader with
        positions := Function.update reader.positions slot
          (x, (reader.positions slot).2) }
  | .absMtPositionY y, some slot =>
      { reader with
        positions := Function.update reader.positions slot
          ((reader.positions slot).1, y) }
  | _, _ => reader

def readAll (reader : Reader) (events : List InputEvent) : Reader :=
  events.foldl read reader

/-! ## Contacts -/

/-- What touches the screen. -/
inductive Contact where
  | finger (fingerId : Int64)
  | button (number : UInt8)
deriving DecidableEq, Repr

/-- The id under which the platform knows a contact. -/
def Contact.touchId : Contact → Int32
  | .finger fingerId => fingerId.toInt32
  | .button _ => emulatedTouchId

/-- What an SDL event means for the contacts. -/
inductive Gesture where
  | down (contact : Contact) (position : Option (Int32 × Int32))
  | up (contact : Contact)
  | motion (id : Int32) (position : Option (Int32 × Int32))
  | nothing
deriving DecidableEq, Repr

def gesture (noTouchEmulation : Bool) : SdlEvent → Gesture
  | .mouseButtonDown button position =>
      if noTouchEmulation then .nothing else .down (.button button) position
  | .mouseButtonUp button =>
      if noTouchEmulation then .nothing else .up (.button button)
  | .mouseMotion position =>
      if noTouchEmulation then .nothing
      else .motion emulatedTouchId position
  | .fingerDown fingerId position => .down (.finger fingerId) position
  | .fingerUp fingerId => .up (.finger fingerId)
  | .fingerMotion fingerId position =>
      .motion fingerId.toInt32 position

/-- The contacts that are down, whether or not they were reported. -/
def heldAfter (held : List Contact) : Gesture → List Contact
  | .down contact _ => held ++ [contact]
  | .up contact => held.erase contact
  | _ => held

/--
The ids of the contacts that were admitted: their position was known and there
were fewer than ten others.  A release ends one contact with its id.
-/
def admittedAfter (admitted : List Int32) : Gesture → List Int32
  | .down contact (some _) =>
      if admitted.length < maxFingers then admitted ++ [contact.touchId]
      else admitted
  | .up contact => admitted.erase contact.touchId
  | _ => admitted

structure System where
  platform : Platform
  reader : Reader
  held : List Contact
  admitted : List Int32

def System.initial : System := ⟨.initial, .initial, [], []⟩

def step (noTouchEmulation : Bool) (system : System) (event : SdlEvent) :
    System :=
  let result := processInputEvent noTouchEmulation system.platform event
  { platform := result.1
    reader := readAll system.reader result.2
    held := heldAfter system.held (gesture noTouchEmulation event)
    admitted :=
      admittedAfter system.admitted (gesture noTouchEmulation event) }

def after (noTouchEmulation : Bool) (events : List SdlEvent) : System :=
  runFrom (step noTouchEmulation) System.initial events

/-- An id that is not mistaken for a free slot and starts a contact. -/
def ProperId (id : Int32) : Prop :=
  id ≠ -1 ∧ 0 ≤ trackingId id

instance (id : Int32) : Decidable (ProperId id) :=
  inferInstanceAs (Decidable (_ ∧ _))

/-- A press has a proper id. -/
def SdlEvent.Proper : SdlEvent → Prop
  | .fingerDown fingerId _ => ProperId fingerId.toInt32
  | _ => True

/-! ## One touch function -/

/-- A slot that holds a finger. -/
def Platform.InUse (platform : Platform) (slot : Nat) : Prop :=
  ∃ id, platform.touchSlots[slot]? = some id ∧ id ≠ -1

/-- The ids in the slots that are in use. -/
def Platform.fingers (platform : Platform) : List Int32 :=
  platform.touchSlots.filter (· ≠ -1)

section Functions

variable {platform : Platform} {reader : Reader}

theorem findTouchSlot_some {id : Int32} {slot : Nat}
    (found : findTouchSlot platform id = some slot) :
    platform.touchSlots[slot]? = some id := by
  rcases List.idxOf?_eq_some_iff.mp found with ⟨inside, same, -⟩
  rw [List.getElem?_eq_getElem inside, same]

theorem findTouchSlot_none {id : Int32}
    (missing : findTouchSlot platform id = none) :
    id ∉ platform.touchSlots :=
  List.idxOf?_eq_none_iff.mp missing

/-- The reader follows the selection of a slot. -/
theorem pushSlot_selects (agreed : reader.selected = platform.lastSlot)
    (slot : Nat) :
    (pushSlot platform slot).1 = { platform with lastSlot := some slot } ∧
      readAll reader (pushSlot platform slot).2 =
        { reader with selected := some slot } := by
  unfold pushSlot
  split
  · exact ⟨rfl, rfl⟩
  · next same =>
    have already : platform.lastSlot = some slot := by simpa using same
    constructor
    · rw [← already]
    · rw [← already, ← agreed]
      rfl

theorem readAll_append (reader : Reader) (first second : List InputEvent) :
    readAll reader (first ++ second) = readAll (readAll reader first) second :=
  List.foldl_append

theorem count_fingers (platform : Platform) (id : Int32) :
    platform.fingers.count id =
      if id = -1 then 0 else platform.touchSlots.count id := by
  unfold Platform.fingers
  split
  · next free =>
    rw [free, List.count_eq_zero]
    simp
  · next used => exact List.count_filter (by simpa using used)

/-- Changing one slot takes its finger away and adds the new one. -/
theorem count_fingers_setTouchSlot {slot : Nat} {before : Int32}
    (found : platform.touchSlots[slot]? = some before) (id other : Int32) :
    (platform.setTouchSlot slot id).fingers.count other =
      platform.fingers.count other -
          (if before = other ∧ other ≠ -1 then 1 else 0) +
        if id = other ∧ other ≠ -1 then 1 else 0 := by
  rcases List.getElem?_eq_some_iff.mp found with ⟨inside, same⟩
  rw [count_fingers, count_fingers, Platform.setTouchSlot,
    List.count_set inside, same]
  by_cases free : other = -1
  · simp [free]
  · simp [free]

theorem length_fingers_lt_iff (platform : Platform) :
    platform.fingers.length < maxFingers ↔ -1 ∈ platform.touchSlots := by
  rw [← platform.sized, Platform.fingers]
  constructor
  · intro fewer
    by_contra none
    rw [List.filter_eq_self.mpr] at fewer
    · exact Nat.lt_irrefl _ fewer
    · intro id member
      have used : id ≠ -1 := by
        rintro rfl
        exact none member
      simpa using used
  · intro member
    rw [List.length_filter_lt_length_iff_exists]
    exact ⟨-1, member, by simp⟩

end Functions

/-! ## The reader agrees with the platform -/

/--
The reader has selected the last slot and sees contacts in the slots in use,
which hold the admitted contacts, each of them once.
-/
structure Simulated (platform : Platform) (reader : Reader)
    (admitted : List Int32) : Prop where
  selected : reader.selected = platform.lastSlot
  occupied : ∀ slot, reader.Occupied slot ↔ platform.InUse slot
  fingers : platform.fingers.Perm admitted

/-- What a gesture makes the platform do. -/
def perform (platform : Platform) : Gesture → Platform × List InputEvent
  | .down contact (some (x, y)) =>
      pushFingerDown platform x y contact.touchId
  | .up contact => pushFingerUp platform contact.touchId
  | .motion id (some (x, y)) => pushFingerMotion platform x y id
  | _ => (platform, [])

theorem processInputEvent_eq (noTouchEmulation : Bool)
    (platform : Platform) (event : SdlEvent) :
    processInputEvent noTouchEmulation platform event =
      perform platform (gesture noTouchEmulation event) := by
  cases event with
  | mouseButtonDown button position =>
      cases noTouchEmulation <;> cases position <;> rfl
  | mouseButtonUp button => cases noTouchEmulation <;> rfl
  | mouseMotion position =>
      cases noTouchEmulation <;> cases position <;> rfl
  | fingerDown fingerId position => cases position <;> rfl
  | fingerUp fingerId => rfl
  | fingerMotion fingerId position => cases position <;> rfl

section Gestures

variable {platform : Platform} {reader : Reader} {admitted : List Int32}

/-- One slot changes on both sides. -/
theorem occupied_set
    (occupied : ∀ slot, reader.Occupied slot ↔ platform.InUse slot)
    {slot : Nat} {before id : Int32} {contact : Option Int}
    (found : platform.touchSlots[slot]? = some before)
    (agreed : contact.isSome ↔ id ≠ -1)
    {nextReader : Reader} {next : Platform}
    (contacts :
      nextReader.contacts = Function.update reader.contacts slot contact)
    (touchSlots : next.touchSlots = platform.touchSlots.set slot id)
    (other : Nat) :
    nextReader.Occupied other ↔ next.InUse other := by
  have inside := (List.getElem?_eq_some_iff.mp found).1
  by_cases same : other = slot
  · subst same
    simp [Reader.Occupied, Platform.InUse, contacts, touchSlots, inside,
      agreed]
  · have kept := occupied other
    simpa [Reader.Occupied, Platform.InUse, contacts, touchSlots, same,
      Ne.symm same] using kept

theorem Simulated.down (simulated : Simulated platform reader admitted)
    {id : Int32} (proper : ProperId id) (x y : Int32) :
    Simulated (pushFingerDown platform x y id).1
      (readAll reader (pushFingerDown platform x y id).2)
      (if admitted.length < maxFingers then admitted ++ [id]
        else admitted) := by
  have room := length_fingers_lt_iff platform
  rw [simulated.fingers.length_eq] at room
  cases search : findTouchSlot platform (-1) with
  | none =>
      rw [if_neg (room.not.mpr (findTouchSlot_none search))]
      simpa [pushFingerDown, search, readAll] using simulated
  | some slot =>
      have found := findTouchSlot_some search
      rw [if_pos (room.mpr (List.mem_of_getElem? found))]
      rcases @pushSlot_selects (platform.setTouchSlot slot id) reader
        simulated.selected slot with ⟨selects, follows⟩
      simp only [pushFingerDown, search]
      rw [readAll_append, follows, selects]
      constructor
      · rfl
      · have started : (some (trackingId id)).isSome ↔ id ≠ -1 := by
          simp [proper.1]
        apply occupied_set simulated.occupied found started
        · simp [readAll, read, proper.2]
        · rfl
      · apply List.perm_iff_count.mpr
        intro other
        have counted := simulated.fingers.count_eq other
        have changed := count_fingers_setTouchSlot found id other
        have proper := proper.1
        simp only [Platform.fingers] at changed counted ⊢
        rw [changed, counted, List.count_append]
        by_cases same : id = other
        · subst same
          simp [proper, Ne.symm proper]
        · by_cases free : -1 = other <;> simp [same, free]

theorem Simulated.count_free
    (simulated : Simulated platform reader admitted) :
    admitted.count (-1) = 0 := by
  rw [← simulated.fingers.count_eq, count_fingers, if_pos rfl]

theorem Simulated.up (simulated : Simulated platform reader admitted)
    (id : Int32) :
    Simulated (pushFingerUp platform id).1
      (readAll reader (pushFingerUp platform id).2)
      (admitted.erase id) := by
  cases search : findTouchSlot platform id with
  | none =>
      have absent : id ∉ admitted := by
        rw [← simulated.fingers.mem_iff]
        exact fun member =>
          findTouchSlot_none search (List.mem_of_mem_filter member)
      rw [List.erase_of_not_mem absent]
      simpa [pushFingerUp, search, readAll] using simulated
  | some slot =>
      have found := findTouchSlot_some search
      rcases pushSlot_selects simulated.selected slot with
        ⟨selects, follows⟩
      simp only [pushFingerUp, search]
      rw [readAll_append, follows, selects]
      constructor
      · rfl
      · have ended : (none : Option Int).isSome ↔ (-1 : Int32) ≠ -1 := by
          simp
        apply occupied_set simulated.occupied found ended
        · simp [readAll, read]
        · rfl
      · apply List.perm_iff_count.mpr
        intro other
        have counted := simulated.fingers.count_eq other
        have changed := count_fingers_setTouchSlot found (-1) other
        have free := simulated.count_free
        simp only [Platform.fingers, Platform.setTouchSlot]
          at changed counted ⊢
        rw [changed, counted, List.count_erase]
        by_cases isFree : other = -1
        · simp [isFree, free]
        · simp [isFree, Ne.symm isFree]

/-- Moving a contact selects its slot and changes its position only. -/
theorem Simulated.motion (simulated : Simulated platform reader admitted)
    (x y : Int32) (id : Int32) :
    Simulated (pushFingerMotion platform x y id).1
      (readAll reader (pushFingerMotion platform x y id).2) admitted := by
  cases search : findTouchSlot platform id with
  | none => simpa [pushFingerMotion, search, readAll] using simulated
  | some slot =>
      rcases pushSlot_selects simulated.selected slot with
        ⟨selects, follows⟩
      simp only [pushFingerMotion, search]
      rw [readAll_append, follows, selects]
      exact ⟨rfl, simulated.occupied, simulated.fingers⟩

end Gestures

/-! ## Runs -/

/-- A gesture that presses a contact has a proper id. -/
def Gesture.Proper : Gesture → Prop
  | .down contact _ => ProperId contact.touchId
  | _ => True

theorem properId_emulatedTouchId : ProperId emulatedTouchId := by
  decide

theorem gesture_proper (noTouchEmulation : Bool) {event : SdlEvent}
    (proper : event.Proper) : (gesture noTouchEmulation event).Proper := by
  cases event with
  | fingerDown fingerId position => exact proper
  | mouseButtonDown button position =>
      cases noTouchEmulation with
      | true => trivial
      | false => exact properId_emulatedTouchId
  | mouseButtonUp | mouseMotion => cases noTouchEmulation <;> trivial
  | fingerUp | fingerMotion => trivial

theorem Simulated.perform {platform : Platform} {reader : Reader}
    {admitted : List Int32} (simulated : Simulated platform reader admitted)
    {gesture : Gesture} (proper : gesture.Proper) :
    Simulated (perform platform gesture).1
      (readAll reader (perform platform gesture).2)
      (admittedAfter admitted gesture) := by
  match gesture with
  | .down contact (some (x, y)) => exact simulated.down proper x y
  | .down contact none => exact simulated
  | .up contact => exact simulated.up contact.touchId
  | .motion id (some (x, y)) => exact simulated.motion x y id
  | .motion id none => exact simulated
  | .nothing => exact simulated

/-- There are no more admitted contacts with an id than are down. -/
def AdmittedHeld (held : List Contact) (admitted : List Int32) : Prop :=
  ∀ id, admitted.count id ≤ (held.map Contact.touchId).count id

theorem AdmittedHeld.step {held : List Contact} {admitted : List Int32}
    (inside : AdmittedHeld held admitted) (gesture : Gesture) :
    AdmittedHeld (heldAfter held gesture)
      (admittedAfter admitted gesture) := by
  intro id
  have before := inside id
  match gesture with
  | .down contact position =>
      have added : admittedAfter admitted (.down contact position) =
          admitted ++ [contact.touchId] ∨
          admittedAfter admitted (.down contact position) = admitted := by
        cases position with
        | none => exact Or.inr rfl
        | some position =>
            simp only [admittedAfter]
            split
            · exact Or.inl rfl
            · exact Or.inr rfl
      simp only [heldAfter, List.map_append, List.count_append]
      rcases added with more | same
      · rw [more, List.count_append]
        exact Nat.add_le_add_right before _
      · rw [same]
        omega
  | .up contact =>
      simp only [heldAfter, admittedAfter, List.count_erase]
      by_cases member : contact ∈ held
      · have erased :
            ((held.erase contact).map Contact.touchId).count id =
              (held.map Contact.touchId).count id -
                if contact.touchId == id then 1 else 0 := by
          have split := (List.perm_cons_erase member).map Contact.touchId
          have counted := split.count_eq id
          rw [List.map_cons, List.count_cons] at counted
          omega
        rw [erased]
        omega
      · rw [List.erase_of_not_mem member]
        omega
  | .motion _ _ | .nothing => exact before

/-- What holds after every run. -/
structure Consistent (system : System) : Prop where
  simulated : Simulated system.platform system.reader system.admitted
  inside : AdmittedHeld system.held system.admitted

theorem Consistent.initial : Consistent System.initial where
  simulated :=
    { selected := rfl
      occupied := by
        intro slot
        simp [System.initial, Reader.initial, Reader.Occupied,
          Platform.InUse, Platform.initial, List.getElem?_replicate]
      fingers := by decide }
  inside := fun _ => Nat.le_refl _

theorem Consistent.preserved {system : System}
    (consistent : Consistent system) (noTouchEmulation : Bool)
    {event : SdlEvent} (proper : event.Proper) :
    Consistent (step noTouchEmulation system event) where
  simulated := by
    have performed := consistent.simulated.perform
      (gesture_proper noTouchEmulation proper)
    rw [← processInputEvent_eq] at performed
    exact performed
  inside := consistent.inside.step _

theorem consistent_after (noTouchEmulation : Bool)
    {events : List SdlEvent} (proper : ∀ event ∈ events, event.Proper) :
    Consistent (after noTouchEmulation events) := by
  have admitted : Admitted (step noTouchEmulation)
      (fun _ event => event.Proper) System.initial events := by
    rw [admitted_iff_forall_step]
    intro earlier event isPrefix
    exact proper event (isPrefix.subset (by simp))
  exact admitted.invariant
    (fun _ _ consistent isProper =>
      consistent.preserved noTouchEmulation isProper)
    Consistent.initial

/-- Nothing is reported, or there is one report at the end. -/
def ReportsAtEnd (events : List InputEvent) : Prop :=
  events = [] ∨
    ∃ body, events = body ++ [.synReport] ∧ .synReport ∉ body

theorem reportsAtEnd_of_pushSlot (platform : Platform) (slot : Nat)
    {body : List InputEvent} (silent : .synReport ∉ body) :
    ReportsAtEnd ((pushSlot platform slot).2 ++ (body ++ [.synReport])) := by
  refine Or.inr ⟨(pushSlot platform slot).2 ++ body, by simp, ?_⟩
  rw [List.mem_append, not_or]
  refine ⟨?_, silent⟩
  unfold pushSlot
  split <;> simp

/-- `process_input_event` reports once, after everything else. -/
theorem processInputEvent_reportsAtEnd (noTouchEmulation : Bool)
    (platform : Platform) (event : SdlEvent) :
    ReportsAtEnd
      (processInputEvent noTouchEmulation platform event).2 := by
  rw [processInputEvent_eq]
  match gesture noTouchEmulation event with
  | .down contact (some (x, y)) =>
      simp only [perform, pushFingerDown]
      split
      · exact Or.inl rfl
      · next slot _ =>
        exact @reportsAtEnd_of_pushSlot _ slot
          [.absMtTrackingId _, .absMtPositionX x, .absMtPositionY y]
          (by simp)
  | .up contact =>
      simp only [perform, pushFingerUp]
      split
      · exact Or.inl rfl
      · next slot _ =>
        exact @reportsAtEnd_of_pushSlot _ slot [.absMtTrackingId (-1)]
          (by simp)
  | .motion id (some (x, y)) =>
      simp only [perform, pushFingerMotion]
      split
      · exact Or.inl rfl
      · next slot _ =>
        exact @reportsAtEnd_of_pushSlot _ slot
          [.absMtPositionX x, .absMtPositionY y] (by simp)
  | .down contact none | .motion id none | .nothing => exact Or.inl rfl

/--
As long as all presses have proper ids, the reader sees contacts in the slots
in use at every report, each admitted contact has one slot, and no slot is in
use when everything has been released.
-/
theorem touch_slots_simulated (noTouchEmulation : Bool)
    (events : List SdlEvent) (proper : ∀ event ∈ events, event.Proper) :
    (∀ platform event,
        ReportsAtEnd
          (processInputEvent noTouchEmulation platform event).2) ∧
      (∀ slot,
        (after noTouchEmulation events).reader.Occupied slot ↔
          (after noTouchEmulation events).platform.InUse slot) ∧
      (∀ id, id ≠ -1 →
        (after noTouchEmulation events).platform.touchSlots.count id =
          (after noTouchEmulation events).admitted.count id) ∧
      ((after noTouchEmulation events).held = [] →
        ∀ slot,
          ¬ (after noTouchEmulation events).reader.Occupied slot ∧
            ¬ (after noTouchEmulation events).platform.InUse slot) := by
  have consistent := consistent_after noTouchEmulation proper
  have occupied := consistent.simulated.occupied
  have fingers := consistent.simulated.fingers
  refine ⟨processInputEvent_reportsAtEnd noTouchEmulation, occupied, ?_, ?_⟩
  · intro id used
    rw [← fingers.count_eq, count_fingers, if_neg used]
  · intro released slot
    rw [occupied, and_self]
    rintro ⟨id, found, used⟩
    have present :
        0 < (after noTouchEmulation events).platform.touchSlots.count id :=
      List.count_pos_iff.mpr (List.mem_of_getElem? found)
    have none := consistent.inside id
    rw [released, ← fingers.count_eq, count_fingers, if_neg used] at none
    simp only [List.map_nil, List.count_nil] at none
    omega

/-- Two fingers go down and one of them is lifted. -/
def twoFingers : List SdlEvent :=
  [.fingerDown 3 (some (10, 20)), .fingerDown 14 (some (30, 40)),
    .fingerUp 3]

theorem touch_slots_simulated_two_fingers :
    (after false twoFingers).platform.InUse 1 ∧
      (after false twoFingers).reader.Occupied 1 := by
  have proper : ∀ event ∈ twoFingers, event.Proper := by
    intro event member
    simp only [twoFingers, List.mem_cons, List.not_mem_nil, or_false]
      at member
    rcases member with rfl | rfl | rfl
    · exact (by decide : ProperId 3)
    · exact (by decide : ProperId 14)
    · trivial
  have inUse : (after false twoFingers).platform.InUse 1 :=
    ⟨14, by decide, by decide⟩
  exact ⟨inUse,
    ((touch_slots_simulated false twoFingers proper).2.1 1).mpr inUse⟩

/-- One finger more than there are slots. -/
def elevenFingers : List SdlEvent :=
  (List.range 11).map fun number =>
    .fingerDown (Int64.ofNat number) (some (0, 0))

/--
The eleventh finger is down without a slot.  A finger with the id -1 is in a
slot for the reader only, one with the id -3 for the platform only.
-/
theorem eleventh_finger_without_slot :
    (Contact.finger 10 ∈ (after false elevenFingers).held ∧
        (after false elevenFingers).platform.touchSlots.count
          (Contact.finger 10).touchId = 0) ∧
      ((after false [.fingerDown (-1) (some (0, 0))]).reader.Occupied 0 ∧
        ¬ (after false [.fingerDown (-1) (some (0, 0))]).platform.InUse
          0) ∧
      (after false [.fingerDown (-3) (some (0, 0))]).platform.InUse 0 ∧
        ¬ (after false [.fingerDown (-3) (some (0, 0))]).reader.Occupied
          0 := by
  refine ⟨by decide, ⟨by decide, ?_⟩, ⟨-3, by decide, by decide⟩, by decide⟩
  rintro ⟨id, found, used⟩
  have free :
      (after false [.fingerDown (-1) (some (0, 0))]).platform.touchSlots[0]? =
        some (-1 : Int32) := by
    decide
  rw [free] at found
  cases found
  exact used rfl

end Anbox.Sdl.TouchSlots
