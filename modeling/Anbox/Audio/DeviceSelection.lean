import Anbox.Audio.AudioDevice
import Anbox.Foundation.LowestSlot
import Anbox.Foundation.ScannedNumber
import Mathlib.Algebra.Order.Ring.Int

/-!
# The slot that a request selects

A stream is asked for with a mask of device bits and an address.  A slot of the
map suits the request if its device type has a bit in common with the mask,
and a bus has to have the number that follows `bus` in the address as well.

All input device types have `AUDIO_DEVICE_BIT_IN`, and only requests with that
bit are searched for.  The search does not leave the bit out, so the first slot
is taken every time.  `sscanf` keeps 32 bits of a number.
-/

namespace Anbox.Audio.DeviceSelection

open Anbox.Audio.AudioDevice
open Anbox.Foundation
open Anbox.Foundation.LowestSlot
open Anbox.Foundation.ScannedNumber

/-! ## The number in an address -/

/-- A reading of what follows `bus`. -/
def afterBus {Reading : Type} (read : List Char → Option Reading)
    (address : String) : Option Reading :=
  match address.toList with
  | 'b' :: 'u' :: 's' :: text => read text
  | _ => none

/-- The number after `bus`. -/
def numberAfterBus (address : String) : Option Int :=
  afterBus scanInteger address

/-- What `%u` stores for a number. -/
def stored (number : Int) : UInt32 :=
  if 2 ^ 64 ≤ number.natAbs then 0xffffffff
  else UInt32.ofNat (number % 2 ^ 32).toNat

/-- The number of a bus is not taken for that of another one. -/
def NumberKept (number : Int) : Prop :=
  number.natAbs < 2 ^ 64 → number % 2 ^ 32 < 8 → 0 ≤ number ∧ number < 8

/-! ## What suits a request -/

/-- A bit in common, other than the direction bit. -/
def SharesDeviceBit (devices deviceTypeMask : UInt32) : Prop :=
  devices &&& deviceTypeMask &&& ~~~bitIn ≠ 0

instance (devices deviceTypeMask : UInt32) :
    Decidable (SharesDeviceBit devices deviceTypeMask) :=
  inferInstanceAs (Decidable (_ ≠ _))

/-- The entry of a map suits the request. -/
def Suits (busType devices : UInt32) (address : String)
    (entry : DeviceMap) : Prop :=
  SharesDeviceBit devices entry.deviceTypeMask ∧
    (entry.deviceTypeMask = busType →
      numberAfterBus address = some (entry.busNumber.toNat : Int))

instance (busType devices : UInt32) (address : String)
    (entry : DeviceMap) : Decidable (Suits busType devices address entry) :=
  inferInstanceAs (Decidable (_ ∧ (_ → _)))

def InputSuits (devices : UInt32) (address : String) (slot : Fin 3) : Prop :=
  Suits inBus devices address (inputMap slot)

instance (devices : UInt32) (address : String) (slot : Fin 3) :
    Decidable (InputSuits devices address slot) :=
  inferInstanceAs (Decidable (Suits _ _ _ _))

def OutputSuits (devices : UInt32) (address : String)
    (slot : Fin 8) : Prop :=
  Suits outBus devices address (outputMap slot)

/--
Both searches find the lowest slot that suits the request, and no stream is
opened if none does.
-/
structure SlotsSelected (devices : UInt32) (address : String) : Prop where
  input :
    devices &&& bitIn ≠ 0 →
      IsLowest (InputSuits devices address) (findInDevice devices address)
  output :
    IsLowest (OutputSuits devices address) (findOutDevice devices address)
  inputFails :
    (∀ slot, ¬InputSuits devices address slot) →
      ∀ counts device hal config failure,
        (adevOpenInputStream counts device hal devices config address
          failure).1 ≠ 0
  outputFails :
    (∀ slot, ¬OutputSuits devices address slot) →
      ∀ counts device hal config failure,
        (adevOpenOutputStream counts device hal devices config address
          failure).1 ≠ 0

/--
A request for input includes the microphone, and in a request for an output
bus the number is not taken for another one.
-/
structure Selectable (devices : UInt32) (address : String) : Prop where
  input : devices &&& bitIn ≠ 0 → SharesDeviceBit devices inBuiltinMic
  output :
    devices &&& outBus ≠ 0 →
      ∀ number, numberAfterBus address = some number → NumberKept number

/-! ## Numbers as they are stored -/

theorem toNat_stored {number : Int} (small : number.natAbs < 2 ^ 64) :
    ((stored number).toNat : Int) = number % 2 ^ 32 := by
  rw [stored, if_neg (by omega), UInt32.toNat_ofNat']
  omega

theorem stored_of_large {number : Int} (large : 2 ^ 64 ≤ number.natAbs) :
    stored number = 0xffffffff := by
  rw [stored, if_pos large]

theorem stored_natCast (number : Nat) :
    stored number =
      if 2 ^ 64 ≤ number then UInt32.ofNat (2 ^ 64 - 1)
      else UInt32.ofNat number := by
  split
  · rename_i large
    exact stored_of_large (by omega)
  · rename_i small
    have value := @toNat_stored number (by omega)
    apply UInt32.toNat_inj.mp
    rw [UInt32.toNat_ofNat']
    omega

theorem stored_neg_natCast (number : Nat) :
    stored (-number) =
      if 2 ^ 64 ≤ number then UInt32.ofNat (2 ^ 64 - 1)
      else UInt32.ofNat (2 ^ 64 - number) := by
  split
  · rename_i large
    exact stored_of_large (by omega)
  · rename_i small
    have value := @toNat_stored (-number) (by omega)
    apply UInt32.toNat_inj.mp
    rw [UInt32.toNat_ofNat']
    omega

theorem scanUnsigned_eq (negative : Bool) (text : List Char) :
    scanUnsigned negative text =
      (digitsNumber text).map (stored ∘ signed negative) := by
  unfold scanUnsigned digitsNumber
  cases digits : text.takeWhile Char.isDigit with
  | nil => rfl
  | cons first rest =>
      cases negative with
      | false =>
          simp only [Option.map_some, Function.comp_apply, signed,
            Bool.false_eq_true, if_false, stored_natCast]
          split <;> rfl
      | true =>
          simp only [Option.map_some, Function.comp_apply, signed, if_true,
            stored_neg_natCast]
          split <;> rfl

/-- `sscanf` finds the number that is there and stores it in 32 bits. -/
theorem scanBusNumber_eq (address : String) :
    scanBusNumber address = (numberAfterBus address).map stored := by
  have scanned :
      readSigned scanUnsigned = fun text => (scanInteger text).map stored :=
    funext (readSigned_eq_map_scanInteger scanUnsigned_eq)
  calc scanBusNumber address
      = afterBus (readSigned scanUnsigned) address := rfl
    _ = (numberAfterBus address).map stored := by
        rw [scanned]
        unfold numberAfterBus afterBus
        split
        · rfl
        · rfl

/-! ## The two searches -/

theorem sharesDeviceBit_outBus (devices : UInt32) :
    SharesDeviceBit devices outBus ↔ devices &&& outBus ≠ 0 := by
  have undirected : outBus &&& ~~~bitIn = outBus := rfl
  rw [SharesDeviceBit, UInt32.and_assoc, undirected]

/-- The test of `find_out_device` at a slot. -/
theorem isLowest_findOutDevice (devices : UInt32) (address : String) :
    IsLowest
      (fun slot : Fin 8 =>
        devices &&& outBus ≠ 0 ∧
          ((numberAfterBus address).map stored).getD 0xffffffff =
            UInt32.ofNat slot.val)
      (findOutDevice devices address) := by
  unfold findOutDevice
  refine (isLowest_congr ?_ _).mp (isLowest_find? _)
  intro slot
  simp [outputMap, scanBusNumber_eq]

/-- A number that is kept is stored as the number of the bus it names. -/
theorem stored_eq_slot_iff {number : Int} (kept : NumberKept number)
    (slot : Fin 8) :
    stored number = UInt32.ofNat slot.val ↔ number = (slot.val : Int) := by
  have below := slot.isLt
  have slotValue : (UInt32.ofNat slot.val).toNat = slot.val := by
    rw [UInt32.toNat_ofNat']
    omega
  rw [← UInt32.toNat_inj, slotValue]
  by_cases small : number.natAbs < 2 ^ 64
  · have value := toNat_stored small
    have inRange := kept small
    omega
  · have value : (stored number).toNat = 0xffffffff := by
      rw [stored_of_large (by omega)]
      rfl
    omega

theorem outputSuits_iff (devices : UInt32) (address : String)
    (slot : Fin 8) :
    OutputSuits devices address slot ↔
      devices &&& outBus ≠ 0 ∧
        numberAfterBus address = some (slot.val : Int) := by
  have below := slot.isLt
  have busNumber : (UInt32.ofNat slot.val).toNat = slot.val := by
    rw [UInt32.toNat_ofNat']
    omega
  simp [OutputSuits, Suits, outputMap, sharesDeviceBit_outBus, busNumber]

/--
`find_out_device` finds the slot that suits if and only if no other number is
taken for that of a bus.
-/
theorem findOutDevice_isLowest_iff (devices : UInt32) (address : String) :
    IsLowest (OutputSuits devices address)
        (findOutDevice devices address) ↔
      (devices &&& outBus ≠ 0 →
        ∀ number, numberAfterBus address = some number →
          NumberKept number) := by
  have searched := isLowest_findOutDevice devices address
  constructor
  · intro lowest bus number written small inRange
    let slot : Fin 8 := ⟨(number % 2 ^ 32).toNat, by omega⟩
    have storedSlot : stored number = UInt32.ofNat slot.val := by
      rw [stored, if_neg (by omega)]
    have accepted :
        devices &&& outBus ≠ 0 ∧
          ((numberAfterBus address).map stored).getD 0xffffffff =
            UInt32.ofNat slot.val := by
      rw [written]
      exact ⟨bus, storedSlot⟩
    cases found : findOutDevice devices address with
    | none =>
        rw [found] at searched
        exact absurd accepted (searched slot)
    | some chosen =>
        rw [found] at lowest
        have suits := (outputSuits_iff devices address chosen).mp lowest.1
        rw [written] at suits
        have same : number = (chosen.val : Int) := Option.some.inj suits.2
        have below := chosen.isLt
        omega
  · intro kept
    refine (isLowest_congr ?_ _).mp searched
    intro slot
    rw [outputSuits_iff]
    refine and_congr_right fun bus => ?_
    cases written : numberAfterBus address with
    | none =>
        have below := slot.isLt
        have impossible : (0xffffffff : UInt32) ≠ UInt32.ofNat slot.val := by
          rw [Ne, ← UInt32.toNat_inj, UInt32.toNat_ofNat']
          have value : (0xffffffff : UInt32).toNat = 4294967295 := rfl
          omega
        simpa using impossible
    | some number =>
        simpa using stored_eq_slot_iff (kept bus number written) slot

/-- All input devices share the direction bit, so the first one is found. -/
theorem findInDevice_of_bitIn {devices : UInt32}
    (input : devices &&& bitIn ≠ 0) (address : String) :
    findInDevice devices address = some 0 := by
  have shared : devices &&& inBuiltinMic ≠ 0 := by
    intro disjoint
    apply input
    have part : bitIn = inBuiltinMic &&& bitIn := rfl
    rw [part, ← UInt32.and_assoc, disjoint, UInt32.zero_and]
  have notBus : inBuiltinMic ≠ inBus := by decide
  have searched : List.finRange 3 = [0, 1, 2] := rfl
  rw [findInDevice, searched]
  apply List.find?_cons_of_pos
  simp [inputMap, shared, notBus]

theorem inputSuits_zero_iff (devices : UInt32) (address : String) :
    InputSuits devices address 0 ↔ SharesDeviceBit devices inBuiltinMic := by
  have notBus : inBuiltinMic ≠ inBus := by decide
  simp [InputSuits, Suits, inputMap, notBus]

/--
The search for an input finds the slot that suits if and only if that is the
slot of the microphone.
-/
theorem findInDevice_isLowest_iff {devices : UInt32}
    (input : devices &&& bitIn ≠ 0) (address : String) :
    IsLowest (InputSuits devices address) (findInDevice devices address) ↔
      SharesDeviceBit devices inBuiltinMic := by
  rw [findInDevice_of_bitIn input, ← inputSuits_zero_iff devices address]
  constructor
  · exact fun lowest => lowest.1
  · intro suits
    exact ⟨suits, fun lower below => absurd below (Nat.not_lt_zero _)⟩

/-! ## Requests that fail -/

section

variable (counts : ChannelCounts) (device : Device) (hal : Hal)

/-- Without a slot no input stream is opened. -/
theorem adevOpenInputStream_fails {devices : UInt32} {address : String}
    (notFound :
      devices &&& bitIn ≠ 0 → findInDevice devices address = none)
    (config : AudioConfig) (failure : Option Int) :
    (adevOpenInputStream counts device hal devices config address
      failure).1 = einval := by
  unfold adevOpenInputStream
  split
  · rfl
  · split
    · rfl
    · rename_i input
      rw [notFound input]
      rfl

/-- Without a slot no output stream is opened. -/
theorem adevOpenOutputStream_fails {devices : UInt32} {address : String}
    (notFound : findOutDevice devices address = none)
    (config : AudioConfig) (failure : Option Int) :
    (adevOpenOutputStream counts device hal devices config address
      failure).1 = einval := by
  unfold adevOpenOutputStream
  split
  · rfl
  · split
    · rfl
    · rw [notFound]
      rfl

end

/-- Exactly these requests are given the slot that suits them. -/
theorem slotsSelected_iff_selectable (devices : UInt32)
    (address : String) :
    SlotsSelected devices address ↔ Selectable devices address := by
  have failing : einval ≠ 0 := by decide
  constructor
  · intro selected
    constructor
    case input =>
      intro input
      exact (findInDevice_isLowest_iff input address).mp
        (selected.input input)
    case output =>
      exact (findOutDevice_isLowest_iff devices address).mp selected.output
  · intro selectable
    have output := (findOutDevice_isLowest_iff devices address).mpr
      selectable.output
    have input : devices &&& bitIn ≠ 0 →
        IsLowest (InputSuits devices address)
          (findInDevice devices address) := by
      intro direction
      exact (findInDevice_isLowest_iff direction address).mpr
        (selectable.input direction)
    refine ⟨input, output, ?_, ?_⟩
    · intro nothing counts device hal config failure
      rw [adevOpenInputStream_fails]
      · exact failing
      · intro direction
        have lowest : IsLowest (InputSuits devices address) none := nothing
        exact (input direction).unique lowest
    · intro nothing counts device hal config failure
      rw [adevOpenOutputStream_fails]
      · exact failing
      · have lowest : IsLowest (OutputSuits devices address) none := nothing
        exact output.unique lowest

/--
A request for the line input is given the slot of the microphone, and one for
an input bus that does not exist is given it as well.
-/
theorem line_input_gets_microphone :
    findInDevice inLine "" = some 0 ∧
      IsLowest (InputSuits inLine "") (some 1) ∧
      findInDevice inBus "bus5" = some 0 ∧
      IsLowest (InputSuits inBus "bus5") none ∧
      ¬SlotsSelected inLine "" := by
  have found : findInDevice inLine "" = some 0 := by decide
  have line : IsLowest (InputSuits inLine "") (some 1) := by
    refine ⟨by decide, ?_⟩
    intro lower below
    obtain rfl : lower = 0 := Fin.ext (Nat.lt_one_iff.mp below)
    decide
  have none : ∀ slot, ¬InputSuits inBus "bus5" slot := by decide
  refine ⟨found, line, by decide, none, ?_⟩
  · intro selected
    have lowest := selected.input (by decide)
    rw [found] at lowest
    have same := lowest.unique line
    exact absurd same (by decide)

end Anbox.Audio.DeviceSelection
