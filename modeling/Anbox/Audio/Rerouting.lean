import Anbox.Audio.DeviceSelection

/-!
# Routing an output stream to another device

`out_set_parameters` reads the devices that a stream in standby is routed to
from a list of keys and values.  It looks them up with `find_out_device`, but
has no address to give to it, and all output devices are buses.

`errno` is compared to `ERANGE` after `strtol` and is not cleared before.  It is
an argument here, as is what the variable of `find_out_device` for the number
of a bus holds before it is set.
-/

namespace Anbox.Audio.Rerouting

open Anbox.Audio.AudioDevice
open Anbox.Foundation.ScannedNumber

def enosys : Int := -38

def erange : Int := 34

/-! ## Streams and parameters -/

/-- The members of `x_stream_out_t` that say where a stream is played. -/
structure OutStream where
  standby : Bool
  aDev : UInt32
  pCardId : UInt32
  pDevId : UInt32
deriving DecidableEq, Repr

/-- The column `pcm_card` of `xa_output_map`. -/
def pcmCard (_slot : Fin 8) : UInt32 := 0

/-- The column `pcm_device` of `xa_output_map`. -/
def pcmDevice (slot : Fin 8) : UInt32 := UInt32.ofNat slot.val

/-- The values that `str_parms_get_str` gives for the keys. -/
abbrev Values := String → Option (List Char)

/-- `str_parms_create_str`, which may give no parameters. -/
abbrev StrParms := String → Option Values

/-- `AUDIO_PARAMETER_STREAM_ROUTING`. -/
def streamRouting : String := "routing"

/-- What `char value[32]` has room for, without the zero at its end. -/
def valueRoom : Nat := 31

/-! ## Numbers -/

structure Number where
  value : Int
  /-- What is behind the number, from `end_ptr` on. -/
  rest : List Char
  outOfRange : Bool
deriving DecidableEq, Repr

/-- The end of `strtol`, where the sign is known. -/
def readDigits (text : List Char) (negative : Bool) (digits : List Char) :
    Number :=
  match digitsNumber digits with
  | none => ⟨0, text, false⟩
  | some magnitude =>
      let rest := digits.dropWhile Char.isDigit
      let value := signed negative magnitude
      if value < -2 ^ 63 then ⟨-2 ^ 63, rest, true⟩
      else if 2 ^ 63 ≤ value then ⟨2 ^ 63 - 1, rest, true⟩
      else ⟨value, rest, false⟩

/-- `strtol(text, &end_ptr, 10)`, where `long` has 64 bits. -/
def strtol (text : List Char) : Number := readSigned (readDigits text) text

/-- The devices, if the text passes the checks of `out_set_parameters`. -/
def routedDevices (errno : Int) (text : List Char) : Option UInt32 :=
  let temp := strtol (text.take valueRoom)
  if (temp.outOfRange ∨ errno = erange) ∨ temp.rest ≠ [] ∨
      (Int32.ofInt temp.value).toInt ≠ temp.value then none
  else some (UInt32.ofInt temp.value)

/-! ## Looking up the device -/

/-- The loop of `find_out_device`. -/
def searchOutDevice (devices busNumber : UInt32) : Option (Fin 8) :=
  (List.finRange 8).find? fun slot =>
    devices &&& (outputMap slot).deviceTypeMask ≠ 0 ∧
      ((outputMap slot).deviceTypeMask = outBus →
        busNumber = (outputMap slot).busNumber)

inductive Lookup where
  | found (slot : Option (Fin 8))
  /-- `sscanf` reads from a null pointer. -/
  | nullScan
deriving DecidableEq, Repr

/-- `find_out_device` for an address that may be null. -/
def lookUpOutDevice (devices : UInt32) (address : Option String)
    (unset : UInt32) : Lookup :=
  if devices &&& outBus ≠ 0 then
    match address with
    | none => .nullScan
    | some text =>
        .found
          (searchOutDevice devices
            ((scanBusNumber text).getD 0xffffffff))
  else .found (searchOutDevice devices unset)

/-- `adev_is_slot_free`. -/
def adevIsSlotFree (device : Option Device) (slot : Fin 8) : Bool :=
  device.elim false fun xdev => (xdev.xoutStreams slot).isNone

/-! ## Setting the parameters -/

inductive Outcome where
  | returned (status : Int) (stream : OutStream)
  | nullScan
deriving DecidableEq, Repr

/-- The branch of `out_set_parameters` for the key of the routing. -/
def route (device : Option Device) (stream : OutStream) (text : List Char)
    (errno : Int) (unset : UInt32) : Outcome :=
  match routedDevices errno text with
  | none => .returned einval stream
  | some devices =>
      match lookUpOutDevice devices none unset with
      | .nullScan => .nullScan
      | .found none => .returned einval stream
      | .found (some slot) =>
          if adevIsSlotFree device slot then
            .returned 0
              { stream with
                aDev := devices
                pCardId := pcmCard slot
                pDevId := pcmDevice slot }
          else .returned eexist stream

/--
`out_set_parameters`.  The keys other than that of the routing are deleted and
change nothing.
-/
def outSetParameters (parms : StrParms) (device : Option Device)
    (stream : OutStream) (kvPairs : String) (errno : Int)
    (unset : UInt32) : Outcome :=
  if !stream.standby then .returned enosys stream
  else
    match parms kvPairs with
    | none => .returned einval stream
    | some values =>
        match values streamRouting with
        | none => .returned 0 stream
        | some text => route device stream text errno unset

/-! ## What is asked of it -/

/-- The streams that are live. -/
abbrev OutStreams := StreamId → Option OutStream

/-- The text asks for another routing of a stream in standby. -/
def Reroutes (parms : StrParms) (stream : OutStream)
    (kvPairs : String) (text : List Char) : Prop :=
  stream.standby = true ∧
    ∃ values, parms kvPairs = some values ∧ values streamRouting = some text

/-- A stream is played on the PCM device of a slot. -/
def PlaysOn (stream : OutStream) (slot : Fin 8) : Prop :=
  stream.pCardId = pcmCard slot ∧ stream.pDevId = pcmDevice slot

/-- No two streams are played on the same PCM device. -/
def DevicesDistinct (streams : OutStreams) : Prop :=
  ∀ firstName secondName first second,
    streams firstName = some first → streams secondName = some second →
      first.pCardId = second.pCardId → first.pDevId = second.pDevId →
        firstName = secondName

/-- The slots of a stream are those of the device it is played on. -/
def SlotAgrees (device : Option Device) (name : StreamId)
    (stream : OutStream) : Prop :=
  ∃ xdev, device = some xdev ∧
    ∀ slot, xdev.xoutStreams slot = some name ↔ PlaysOn stream slot

/--
The call returns, in the same way whatever `errno` and the variable hold; an
error leaves the routing as it was; and a new routing agrees with the table
and with the other streams.
-/
structure ReroutingSafe (parms : StrParms) (device : Option Device)
    (streams : OutStreams) (name : StreamId) (stream : OutStream)
    (kvPairs : String) : Prop where
  returns :
    ∃ status after, ∀ errno unset,
      outSetParameters parms device stream kvPairs errno unset =
        .returned status after
  unchanged :
    ∀ errno unset status after,
      outSetParameters parms device stream kvPairs errno unset =
          .returned status after →
        status ≠ 0 →
          after.aDev = stream.aDev ∧ after.pCardId = stream.pCardId ∧
            after.pDevId = stream.pDevId
  rerouted :
    ∀ text, Reroutes parms stream kvPairs text →
      ∀ errno unset after,
        outSetParameters parms device stream kvPairs errno unset =
            .returned 0 after →
          DevicesDistinct (Function.update streams name (some after)) ∧
            SlotAgrees device name after

/-- The devices that a text asks for do not include an output bus. -/
def AvoidsBus (parms : StrParms) (stream : OutStream)
    (kvPairs : String) : Prop :=
  ∀ text, Reroutes parms stream kvPairs text →
    ∀ devices, routedDevices 0 text = some devices →
      devices &&& outBus = 0

/-! ## What the call does -/

/-- With an address, the device is looked up as for a new stream. -/
theorem lookUpOutDevice_some (devices : UInt32) (address : String)
    (unset : UInt32) :
    lookUpOutDevice devices (some address) unset =
      .found (findOutDevice devices address) := by
  unfold lookUpOutDevice
  split
  · rfl
  · rename_i notBus
    have absent : devices &&& outBus = 0 := by simpa using notBus
    simp [searchOutDevice, findOutDevice, outputMap, absent]

/-- Only a bus is found, and without an address there is none. -/
theorem lookUpOutDevice_none (devices unset : UInt32) :
    lookUpOutDevice devices none unset =
      if devices &&& outBus ≠ 0 then .nullScan else .found none := by
  unfold lookUpOutDevice
  split
  · rfl
  · rename_i notBus
    have absent : devices &&& outBus = 0 := by simpa using notBus
    simp [searchOutDevice, outputMap, absent]

/-- A text is refused, or the address that is missing is scanned. -/
theorem route_eq (device : Option Device) (stream : OutStream)
    (text : List Char) (errno : Int) (unset : UInt32) :
    route device stream text errno unset =
      match routedDevices errno text with
      | none => .returned einval stream
      | some devices =>
          if devices &&& outBus ≠ 0 then .nullScan
          else .returned einval stream := by
  unfold route
  cases routedDevices errno text with
  | none => rfl
  | some devices =>
      simp only [lookUpOutDevice_none]
      by_cases bus : devices &&& outBus ≠ 0
      · simp only [if_pos bus]
      · simp only [if_neg bus]

/-- A left-over `errno` makes that a text is refused, and nothing else. -/
theorem routedDevices_cases (errno : Int) (text : List Char) :
    routedDevices errno text = none ∨
      routedDevices errno text = routedDevices 0 text := by
  by_cases left : errno = erange
  · left
    simp [routedDevices, left]
  · right
    have zero : (0 : Int) ≠ erange := by decide
    simp [routedDevices, left, zero]

/-- A routing that avoids the buses is refused. -/
theorem route_of_avoids {text : List Char}
    (avoids :
      ∀ devices, routedDevices 0 text = some devices →
        devices &&& outBus = 0)
    (device : Option Device) (stream : OutStream) (errno : Int)
    (unset : UInt32) :
    route device stream text errno unset = .returned einval stream := by
  rw [route_eq]
  rcases routedDevices_cases errno text with refused | same
  · rw [refused]
  · rw [same]
    cases asked : routedDevices 0 text with
    | none => rfl
    | some devices => simp [avoids devices asked]

/-- No routing succeeds. -/
theorem route_ne_success (device : Option Device) (stream : OutStream)
    (text : List Char) (errno : Int) (unset : UInt32) (after : OutStream) :
    route device stream text errno unset ≠ .returned 0 after := by
  have failing : einval ≠ 0 := by decide
  rw [route_eq]
  split
  · simp [failing]
  · split
    · simp
    · simp [failing]

theorem outSetParameters_of_reroutes {parms : StrParms}
    {stream : OutStream} {kvPairs : String} {text : List Char}
    (reroutes : Reroutes parms stream kvPairs text)
    (device : Option Device) (errno : Int) (unset : UInt32) :
    outSetParameters parms device stream kvPairs errno unset =
      route device stream text errno unset := by
  rcases reroutes with ⟨standby, values, parsed, given⟩
  simp [outSetParameters, standby, parsed, given]

/-- Where no bus is asked for, the stream stays as it is. -/
theorem outSetParameters_of_avoidsBus {parms : StrParms}
    {stream : OutStream} {kvPairs : String}
    (avoids : AvoidsBus parms stream kvPairs) (device : Option Device) :
    ∃ status, ∀ errno unset,
      outSetParameters parms device stream kvPairs errno unset =
        .returned status stream := by
  by_cases standby : stream.standby = true
  · cases parsed : parms kvPairs with
    | none =>
        exact ⟨einval, fun _ _ => by simp [outSetParameters, standby, parsed]⟩
    | some values =>
        cases given : values streamRouting with
        | none =>
            exact ⟨0, fun _ _ => by
              simp [outSetParameters, standby, parsed, given]⟩
        | some text =>
            have reroutes : Reroutes parms stream kvPairs text :=
              ⟨standby, values, parsed, given⟩
            refine ⟨einval, fun errno unset => ?_⟩
            rw [outSetParameters_of_reroutes reroutes]
            exact route_of_avoids (avoids text reroutes) device stream errno
              unset
  · exact ⟨enosys, fun _ _ => by simp [outSetParameters, standby]⟩

/-- Exactly the calls that avoid the buses are safe. -/
theorem reroutingSafe_iff_avoidsBus (parms : StrParms)
    (device : Option Device) (streams : OutStreams) (name : StreamId)
    (stream : OutStream) (kvPairs : String) :
    ReroutingSafe parms device streams name stream kvPairs ↔
      AvoidsBus parms stream kvPairs := by
  constructor
  · intro safe text reroutes devices asked
    rcases safe.returns with ⟨status, after, returned⟩
    by_contra bus
    have outcome := returned 0 0
    rw [outSetParameters_of_reroutes reroutes, route_eq, asked] at outcome
    simp [bus] at outcome
  · intro avoids
    rcases outSetParameters_of_avoidsBus avoids device with
      ⟨status, returned⟩
    constructor
    case returns => exact ⟨status, stream, returned⟩
    case unchanged =>
      intro errno unset other after outcome _
      rw [returned] at outcome
      cases outcome
      exact ⟨rfl, rfl, rfl⟩
    case rerouted =>
      intro text reroutes errno unset after outcome
      rw [outSetParameters_of_reroutes reroutes] at outcome
      exact absurd outcome (route_ne_success _ _ _ _ _ _)

/-- A list with one key and its value. -/
def singleRouting (text : List Char) : StrParms := fun _ =>
  some fun key => if key = streamRouting then some text else none

/-- A stream in standby that is played on the first bus. -/
def busStream : OutStream := ⟨true, outBus, pcmCard 0, pcmDevice 0⟩

/-- The routing to an output bus, `AUDIO_DEVICE_OUT_BUS` in decimal digits. -/
theorem bus_routing_scans_null :
    outSetParameters (singleRouting "16777216".toList) (some .cleared)
        busStream "routing=16777216" 0 0 = .nullScan ∧
      outSetParameters (singleRouting "16777216".toList) (some .cleared)
        busStream "routing=16777216" erange 0 =
          .returned einval busStream ∧
      ¬ReroutingSafe (singleRouting "16777216".toList) (some .cleared)
        (Function.update (fun _ => none) 0 (some busStream)) 0 busStream
        "routing=16777216" := by
  have scanned :
      outSetParameters (singleRouting "16777216".toList) (some .cleared)
        busStream "routing=16777216" 0 0 = .nullScan := by
    decide
  refine ⟨scanned, by decide, ?_⟩
  intro safe
  rcases safe.returns with ⟨status, after, returned⟩
  have outcome := returned 0 0
  rw [scanned] at outcome
  cases outcome

end Anbox.Audio.Rerouting
