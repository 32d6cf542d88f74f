import Anbox.Sdl.TouchSlots
import Mathlib.Data.List.Nodup

/-!
# Tracking ids

Every contact that the touch device reports has a tracking id.  The device
announces the ids from 0 to `MAX_TRACKING_ID`, and -1 ends a contact.  A press
gets its id from the id of the finger, which is cut to an `int` and divided:
the remainder, plus one, is the tracking id.

So it is the remainders that decide.  A negative remainder below -1 leads out
of the announced range, and -2 even to the id that ends a contact; two fingers
with one remainder are one contact for the other side.
-/

namespace Anbox.Sdl.TrackingIds

open Anbox.Foundation.Runs
open Anbox.Sdl.TouchSlots

/-! ## Reported contacts -/

/-- The tracking id that an event gives. -/
def assigned : InputEvent → Option Int
  | .absMtTrackingId id => some id
  | _ => none

/-- A contact with the tracking id that was reported for it. -/
structure Touch where
  contact : Contact
  trackingId : Int
deriving DecidableEq, Repr

structure System where
  platform : Platform
  /-- The tracking ids of all presses. -/
  pressed : List Int
  /-- What was reported and has not been released. -/
  touches : List Touch

def System.initial : System := ⟨.initial, [], []⟩

/-- A press adds the contacts it reports, a release takes one away. -/
def System.after (system : System) (platform : Platform)
    (reported : List InputEvent) : Gesture → System
  | .down contact _ =>
      { platform := platform
        pressed := system.pressed ++ reported.filterMap assigned
        touches :=
          system.touches ++
            (reported.filterMap assigned).map (Touch.mk contact) }
  | .up contact =>
      { platform := platform
        pressed := system.pressed
        touches :=
          system.touches.eraseP fun touch => touch.contact = contact }
  | .motion _ _ | .nothing => { system with platform := platform }

def step (noTouchEmulation : Bool) (system : System) (event : SdlEvent) :
    System :=
  let result := processInputEvent noTouchEmulation system.platform event
  system.after result.1 result.2 (gesture noTouchEmulation event)

/-! ## What is meant -/

/-- The ids that `set_abs_max` announces. -/
def Announced (id : Int) : Prop :=
  id ≠ -1 ∧ 0 ≤ id ∧ id ≤ maxTrackingId

/-- All tracking ids are announced ones, and contacts have their own. -/
structure Distinguished (system : System) : Prop where
  announced : ∀ id ∈ system.pressed, Announced id
  distinct : (system.touches.map Touch.trackingId).Nodup

/-- What remains of the id of a contact, with the sign of the id. -/
def remaining (contact : Contact) : Int :=
  contact.touchId.toInt.tmod maxTrackingId

/-- The remainder is not too small, and no reported contact has it. -/
def Unused (system : System) (contact : Contact) : Prop :=
  -1 ≤ remaining contact ∧
    ∀ touch ∈ system.touches, remaining touch.contact ≠ remaining contact

/-- A press that will be reported has an unused remainder. -/
def Distinguishable (noTouchEmulation : Bool) (system : System)
    (event : SdlEvent) : Prop :=
  match gesture noTouchEmulation event with
  | .down contact (some _) =>
      findTouchSlot system.platform (-1) ≠ none → Unused system contact
  | _ => True

/-! ## One event -/

theorem trackingId_eq (contact : Contact) :
    trackingId contact.touchId = remaining contact + 1 :=
  rfl

theorem announced_trackingId_iff (contact : Contact) :
    Announced (trackingId contact.touchId) ↔ -1 ≤ remaining contact := by
  have small : remaining contact < 10 :=
    Int.tmod_lt_of_pos _ (by decide)
  rw [trackingId_eq, Announced, maxTrackingId]
  omega

/-- A reported press gives one tracking id. -/
theorem assigned_pushFingerDown (platform : Platform) (x y id : Int32) :
    (pushFingerDown platform x y id).2.filterMap assigned =
      if findTouchSlot platform (-1) = none then [] else [trackingId id] := by
  unfold pushFingerDown
  split
  · next search =>
    rw [if_pos search]
    rfl
  · next slot search =>
    rw [if_neg (by rw [search]; exact Option.some_ne_none slot),
      List.filterMap_append]
    unfold pushSlot
    split <;> rfl

/-- The reported tracking ids are those of the contacts. -/
def Recorded (system : System) : Prop :=
  ∀ touch ∈ system.touches,
    touch.trackingId = trackingId touch.contact.touchId

section Events

variable {system : System}

/-- A reported press of a contact. -/
def System.press (system : System) (platform : Platform)
    (contact : Contact) : System :=
  { platform := platform
    pressed := system.pressed ++ [trackingId contact.touchId]
    touches :=
      system.touches ++ [⟨contact, trackingId contact.touchId⟩] }

theorem Recorded.press (recorded : Recorded system) (platform : Platform)
    (contact : Contact) : Recorded (system.press platform contact) := by
  intro touch member
  rcases List.mem_append.mp member with earlier | last
  · exact recorded touch earlier
  · rw [List.mem_singleton.mp last]

/-- A press keeps the contacts apart exactly if its remainder is unused. -/
theorem distinguished_press_iff (recorded : Recorded system)
    (distinguished : Distinguished system) (platform : Platform)
    (contact : Contact) :
    Distinguished (system.press platform contact) ↔
      Unused system contact := by
  have fresh :
      trackingId contact.touchId ∉ system.touches.map Touch.trackingId ↔
        ∀ touch ∈ system.touches,
          remaining touch.contact ≠ remaining contact := by
    simp only [List.mem_map, not_exists, not_and]
    refine forall₂_congr fun touch member => ?_
    rw [recorded touch member, trackingId_eq, trackingId_eq, ne_eq,
      Int.add_left_inj]
  have added :
      ((system.press platform contact).touches.map
          Touch.trackingId).Nodup ↔
        trackingId contact.touchId ∉ system.touches.map Touch.trackingId ∧
          (system.touches.map Touch.trackingId).Nodup := by
    rw [System.press, List.map_append, List.map_singleton,
      ← List.concat_eq_append, List.nodup_concat]
  constructor
  · intro next
    have announced := next.announced (trackingId contact.touchId)
      (List.mem_append_right _ (List.mem_singleton.mpr rfl))
    exact ⟨(announced_trackingId_iff contact).mp announced,
      fresh.mp (added.mp next.distinct).1⟩
  · rintro ⟨atLeast, unused⟩
    constructor
    case announced =>
      intro id member
      rcases List.mem_append.mp member with earlier | last
      · exact distinguished.announced id earlier
      · rw [List.mem_singleton.mp last]
        exact (announced_trackingId_iff contact).mpr atLeast
    case distinct =>
      exact added.mpr ⟨fresh.mpr unused, distinguished.distinct⟩

/-- A release is never in the way. -/
theorem Recorded.release (recorded : Recorded system)
    (platform : Platform) (reported : List InputEvent) (contact : Contact) :
    Recorded (system.after platform reported (.up contact)) :=
  fun touch member => recorded touch (List.mem_of_mem_eraseP member)

theorem Distinguished.release (distinguished : Distinguished system)
    (platform : Platform) (reported : List InputEvent) (contact : Contact) :
    Distinguished (system.after platform reported (.up contact)) where
  announced := distinguished.announced
  distinct :=
    distinguished.distinct.sublist (List.eraseP_sublist.map _)

/-- What an event does: a reported press, a release, or nothing to contacts. -/
theorem step_cases (noTouchEmulation : Bool) (system : System)
    (event : SdlEvent) :
    (∃ platform contact position,
        gesture noTouchEmulation event = .down contact (some position) ∧
          findTouchSlot system.platform (-1) ≠ none ∧
          step noTouchEmulation system event =
            system.press platform contact) ∨
      (Distinguishable noTouchEmulation system event ∧
        ((∃ platform reported contact,
            step noTouchEmulation system event =
              system.after platform reported (.up contact)) ∨
          ∃ platform,
            step noTouchEmulation system event =
              { system with platform := platform })) := by
  unfold step Distinguishable
  rw [processInputEvent_eq]
  match gesture noTouchEmulation event with
  | .down contact (some (x, y)) =>
      dsimp only [perform, System.after]
      rw [assigned_pushFingerDown]
      by_cases search : findTouchSlot system.platform (-1) = none
      · refine Or.inr ⟨fun free => absurd search free, Or.inr ?_⟩
        rw [if_pos search, List.map_nil, List.append_nil, List.append_nil]
        exact ⟨_, rfl⟩
      · refine Or.inl
          ⟨(pushFingerDown system.platform x y contact.touchId).1,
            contact, (x, y), rfl, search, ?_⟩
        rw [if_neg search]
        rfl
  | .down contact none =>
      refine Or.inr ⟨trivial, Or.inr ⟨system.platform, ?_⟩⟩
      simp [perform, System.after]
  | .up contact => exact Or.inr ⟨trivial, Or.inl ⟨_, _, contact, rfl⟩⟩
  | .motion id position => exact Or.inr ⟨trivial, Or.inr ⟨_, rfl⟩⟩
  | .nothing => exact Or.inr ⟨trivial, Or.inr ⟨_, rfl⟩⟩

theorem Recorded.step (recorded : Recorded system) (noTouchEmulation : Bool)
    (event : SdlEvent) : Recorded (step noTouchEmulation system event) := by
  rcases step_cases noTouchEmulation system event with
    ⟨platform, contact, -, -, -, pressed⟩ |
      ⟨-, ⟨platform, reported, contact, released⟩ | ⟨platform, same⟩⟩
  · rw [pressed]
    exact recorded.press platform contact
  · rw [released]
    exact recorded.release platform reported contact
  · rw [same]
    exact recorded

theorem distinguished_step_iff (recorded : Recorded system)
    (distinguished : Distinguished system) (noTouchEmulation : Bool)
    (event : SdlEvent) :
    Distinguishable noTouchEmulation system event ↔
      Distinguished (step noTouchEmulation system event) := by
  rcases step_cases noTouchEmulation system event with
    ⟨platform, contact, position, down, free, pressed⟩ |
      ⟨distinguishable,
        ⟨platform, reported, contact, released⟩ | ⟨platform, same⟩⟩
  · rw [pressed, distinguished_press_iff recorded distinguished,
      Distinguishable, down]
    exact ⟨fun unused => unused free, fun unused _ => unused⟩
  · rw [released]
    exact iff_of_true distinguishable
      (distinguished.release platform reported contact)
  · rw [same]
    exact iff_of_true distinguishable
      ⟨distinguished.announced, distinguished.distinct⟩

end Events

/-! ## Every run -/

theorem recorded_initial : Recorded System.initial :=
  fun _ member => absurd member List.not_mem_nil

theorem distinguished_initial : Distinguished System.initial where
  announced := fun _ member => absurd member List.not_mem_nil
  distinct := List.nodup_nil

/--
Contacts have announced tracking ids of their own all the way exactly if every
reported press has a remainder from -1 on that no reported contact has.
-/
theorem distinguished_always_iff (noTouchEmulation : Bool)
    (events : List SdlEvent) :
    Admitted (step noTouchEmulation) (Distinguishable noTouchEmulation)
        System.initial events ↔
      ∀ earlier, earlier <+: events →
        Distinguished
          (runFrom (step noTouchEmulation) System.initial earlier) :=
  @admitted_iff_always _ _ (step noTouchEmulation)
    (Distinguishable noTouchEmulation) Recorded Distinguished
    (fun _ event recorded => recorded.step noTouchEmulation event)
    (fun _ event recorded distinguished =>
      distinguished_step_iff recorded distinguished noTouchEmulation event)
    System.initial recorded_initial distinguished_initial events

/-- Ten is divided without a remainder, as zero is. -/
def fingersZeroAndTen : List SdlEvent :=
  [.fingerDown 0 (some (10, 20)), .fingerDown 10 (some (30, 40))]

/--
Both fingers have the tracking id 1, and a finger with the id -2 has the
tracking id -1.
-/
theorem fingers_not_distinguished :
    ¬ Distinguished
        (runFrom (step false) System.initial fingersZeroAndTen) ∧
      ¬ Distinguished
        (runFrom (step false) System.initial
          [.fingerDown (-2) (some (0, 0))]) := by
  constructor
  · intro distinguished
    exact absurd distinguished.distinct (by decide)
  · intro distinguished
    exact (distinguished.announced (-1) (by decide)).1 rfl

end Anbox.Sdl.TrackingIds
