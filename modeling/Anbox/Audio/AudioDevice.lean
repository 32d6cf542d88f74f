import Anbox.Foundation.Runs
import Anbox.Foundation.ScannedNumber
import Anbox.Foundation.SlotTable
import Mathlib.Algebra.Order.Ring.Nat
import Mathlib.Data.List.FinRange

/-!
# The stream tables of the audio device

The audio HAL has one device for all its users, counted by `ref_counter`.  The
device keeps the streams that are open in two tables, one slot for each entry
of the maps of input and output devices, and two flags that say whether the
streams of a table are muted.  All methods run under the lock of the device.

The methods are called on the device that `adev_open` has returned.  Without a
device there is nothing to call them on.  Streams get a new name each time one
is created.

`adev_set_mic_mute` clears the slot of every stream that it has muted.
-/

namespace Anbox.Audio.AudioDevice

open Anbox.Foundation.Runs
open Anbox.Foundation.ScannedNumber
open Anbox.Foundation.SlotTable

/-! ## Configuration -/

def einval : Int := -22

def eexist : Int := -17

def enomem : Int := -12

/-- The fields of `audio_config` that are looked at. -/
structure AudioConfig where
  sampleRate : UInt32
  channelMask : UInt32
  format : UInt32
deriving DecidableEq, Repr

/-- `AUDIO_FORMAT_PCM_16_BIT`. -/
def pcm16Bit : UInt32 := 1

def supportedFormats : List UInt32 := [pcm16Bit]

def supportedChannelsOut : List UInt32 := [2]

def supportedChannelsIn : List UInt32 := [1, 2]

def supportedRatesOut : List UInt32 := [48000]

def supportedRatesIn : List UInt32 :=
  [8000, 11025, 12000, 16000, 22050, 24000, 32000, 44100, 48000]

/--
`audio_channel_count_from_in_mask` and `audio_channel_count_from_out_mask` of
the platform.
-/
structure ChannelCounts where
  fromInMask : UInt32 → UInt32
  fromOutMask : UInt32 → UInt32

/-- The three searches that both checks of a configuration consist of. -/
def isConfigSupported (channels rates : List UInt32)
    (channelCount : UInt32 → UInt32) (config : AudioConfig) : Bool :=
  supportedFormats.contains config.format &&
    channels.contains (channelCount config.channelMask) &&
    rates.contains config.sampleRate

def isConfigSupportedIn (counts : ChannelCounts) : AudioConfig → Bool :=
  isConfigSupported supportedChannelsIn supportedRatesIn counts.fromInMask

def isConfigSupportedOut (counts : ChannelCounts) : AudioConfig → Bool :=
  isConfigSupported supportedChannelsOut supportedRatesOut
    counts.fromOutMask

/-! ## Devices and their slots -/

/-- `AUDIO_DEVICE_BIT_IN`. -/
def bitIn : UInt32 := 0x80000000

/-- `AUDIO_DEVICE_IN_BUILTIN_MIC`. -/
def inBuiltinMic : UInt32 := 0x80000004

/-- `AUDIO_DEVICE_IN_LINE`. -/
def inLine : UInt32 := 0x80008000

/-- `AUDIO_DEVICE_IN_BUS`. -/
def inBus : UInt32 := 0x80100000

/-- `AUDIO_DEVICE_OUT_BUS`. -/
def outBus : UInt32 := 0x1000000

/-- The fields of `xa_device_map_t` by which a slot is found. -/
structure DeviceMap where
  deviceTypeMask : UInt32
  busNumber : UInt32
deriving DecidableEq, Repr

/-- `xa_input_map`. -/
def inputMap : Fin 3 → DeviceMap
  | 0 => ⟨inBuiltinMic, 0⟩
  | 1 => ⟨inLine, 0⟩
  | 2 => ⟨inBus, 0⟩

/-- `xa_output_map`: the buses from 0 to 7. -/
def outputMap (slot : Fin 8) : DeviceMap :=
  ⟨outBus, UInt32.ofNat slot.val⟩

/-- The magnitude of a number, saturated at 64 bits. -/
def scanUnsigned (negative : Bool) (text : List Char) : Option UInt32 :=
  match text.takeWhile Char.isDigit with
  | [] => none
  | digits =>
      let magnitude := decimal digits
      if 2 ^ 64 ≤ magnitude then some (UInt32.ofNat (2 ^ 64 - 1))
      else if negative then some (UInt32.ofNat (2 ^ 64 - magnitude))
      else some (UInt32.ofNat magnitude)

/-- `sscanf(address, "bus%u", ..)`. -/
def scanBusNumber (address : String) : Option UInt32 :=
  match address.toList with
  | 'b' :: 'u' :: 's' :: text =>
      readSigned scanUnsigned text
  | _ => none

/-- `find_out_device`. -/
def findOutDevice (devices : UInt32) (address : String) :
    Option (Fin 8) :=
  let busNumber := (scanBusNumber address).getD 0xffffffff
  (List.finRange 8).find? fun slot =>
    devices &&& (outputMap slot).deviceTypeMask ≠ 0 ∧
      ((outputMap slot).deviceTypeMask = outBus →
        busNumber = (outputMap slot).busNumber)

/-- The search of `adev_open_input_stream`. -/
def findInDevice (devices : UInt32) (address : String) :
    Option (Fin 3) :=
  (List.finRange 3).find? fun slot =>
    devices &&& (inputMap slot).deviceTypeMask ≠ 0 ∧
      ((inputMap slot).deviceTypeMask = inBus →
        scanBusNumber address = some (inputMap slot).busNumber)

/-! ## Streams and their slots -/

abbrev StreamId := Nat

/-- What the device reads or writes of a stream. -/
structure Stream where
  muted : Bool
deriving DecidableEq, Repr

/-- `in_set_mute` and `out_set_mute`. -/
def setMute (mute : Bool) (_stream : Stream) : Stream := ⟨mute⟩

/-- A table of the device and the streams of its direction. -/
abbrev Streams (count : Nat) := Bank (Fin count) StreamId Stream

section

variable {count : Nat}

/--
The end of `adev_open_output_stream` and `adev_open_input_stream`.  If the
stream cannot be created then `failure` is the error of `out_create` or
`in_create`.
-/
def openInSlot (isMuted : Bool) (bank : Streams count)
    (found : Option (Fin count)) (name : StreamId)
    (failure : Option Int) : Int × Streams count :=
  match found with
  | none => (einval, bank)
  | some slot =>
      if (bank.table slot).isSome then (eexist, bank)
      else
        match failure with
        | some code => (code, bank)
        | none =>
            let created := bank.place slot name ⟨false⟩
            (0,
              if isMuted then created.modifyAt (setMute true) slot
              else created)

/-- The loops of `adev_close_output_stream` and `adev_close_input_stream`. -/
def closeStream (bank : Streams count) (stream : StreamId) :
    Streams count :=
  match (List.finRange count).find? fun slot =>
      bank.table slot = some stream with
  | some slot => bank.destroyAt slot
  | none => bank

/-- The loops that destroy all streams of a table. -/
def destroyStreams (bank : Streams count) : Streams count :=
  bank.destroyAll (List.finRange count)

/-- The loop of `adev_set_master_mute`. -/
def muteStreams (mute : Bool) (bank : Streams count) : Streams count :=
  bank.modifyAll (setMute mute) (List.finRange count)

/-- The body of the loop of `adev_set_mic_mute`. -/
def muteAndClear (state : Bool) (bank : Streams count)
    (slot : Fin count) : Streams count :=
  match bank.table slot with
  | some _ => (bank.modifyAt (setMute state) slot).clear slot
  | none => bank

/-- The loop of `adev_set_mic_mute`. -/
def muteAndClearStreams (state : Bool) (bank : Streams count) :
    Streams count :=
  (List.finRange count).foldl (muteAndClear state) bank

end

/-! ## The device -/

/-- `x_audio_device_t`. -/
structure Device where
  micIsMuted : Bool
  masterIsMuted : Bool
  xinStreams : Fin 3 → Option StreamId
  xoutStreams : Fin 8 → Option StreamId

/-- A device as `calloc` clears it. -/
def Device.cleared : Device := ⟨false, false, fun _ => none, fun _ => none⟩

structure Hal where
  xadev : Option Device
  refCounter : UInt32
  inStreams : Store StreamId Stream
  outStreams : Store StreamId Stream
  nextStream : StreamId

def Hal.initial : Hal := ⟨none, 0, .empty, .empty, 0⟩

/-- The table of input streams and the input streams there are. -/
def Hal.inputs (hal : Hal) : Streams 3 :=
  ⟨hal.xadev.elim (fun _ => none) Device.xinStreams, hal.inStreams⟩

/-- The table of output streams and the output streams there are. -/
def Hal.outputs (hal : Hal) : Streams 8 :=
  ⟨hal.xadev.elim (fun _ => none) Device.xoutStreams, hal.outStreams⟩

/-- Write back the table of input streams. -/
def Hal.setInputs (hal : Hal) (device : Device) (bank : Streams 3) : Hal :=
  { hal with
    xadev := some { device with xinStreams := bank.table }
    inStreams := bank.store }

/-- Write back the table of output streams. -/
def Hal.setOutputs (hal : Hal) (device : Device) (bank : Streams 8) : Hal :=
  { hal with
    xadev := some { device with xoutStreams := bank.table }
    outStreams := bank.store }

/-- `AUDIO_HARDWARE_INTERFACE`. -/
def audioHardwareInterface : String := "audio_hw_if"

def adevOpen (name : String) (allocated : Bool) (hal : Hal) : Int × Hal :=
  if name ≠ audioHardwareInterface then (einval, hal)
  else if hal.refCounter ≠ 0 then
    (0, { hal with refCounter := hal.refCounter + 1 })
  else if allocated then
    (0,
      { hal with
        xadev := some .cleared
        refCounter := hal.refCounter + 1 })
  else (enomem, { hal with xadev := none })

/-- The flag says whether the caller's pointer is the device. -/
def adevClose (isDevice : Bool) (hal : Hal) : Int × Hal :=
  if hal.xadev.isNone || !isDevice then (einval, hal)
  else if hal.refCounter = 0 then (einval, hal)
  else if hal.refCounter - 1 = 0 then
    (0,
      { hal with
        xadev := none
        refCounter := hal.refCounter - 1
        inStreams := (destroyStreams hal.inputs).store
        outStreams := (destroyStreams hal.outputs).store })
  else (0, { hal with refCounter := hal.refCounter - 1 })

/-! ## The methods of the device -/

section Methods

variable (counts : ChannelCounts) (device : Device) (hal : Hal)

def adevSetMicMute (state : Bool) : Int × Hal :=
  (0,
    hal.setInputs { device with micIsMuted := state }
      (muteAndClearStreams state hal.inputs))

def adevSetMasterMute (mute : Bool) : Int × Hal :=
  (0,
    hal.setOutputs { device with masterIsMuted := mute }
      (muteStreams mute hal.outputs))

/-- The parameter is the value that is given for `restarting`, if any. -/
def adevSetParameters (restarting : Option String) : Int × Hal :=
  if restarting = some "true" then
    (0,
      { hal with
        xadev := some
          { device with
            xinStreams := (destroyStreams hal.inputs).table
            xoutStreams := (destroyStreams hal.outputs).table }
        inStreams := (destroyStreams hal.inputs).store
        outStreams := (destroyStreams hal.outputs).store })
  else (0, hal)

def adevOpenOutputStream (devices : UInt32) (config : AudioConfig)
    (address : String) (failure : Option Int) : Int × Hal :=
  if !isConfigSupportedOut counts config then (einval, hal)
  else if devices &&& bitIn ≠ 0 then (einval, hal)
  else
    let opened :=
      openInSlot device.masterIsMuted hal.outputs
        (findOutDevice devices address) hal.nextStream failure
    (opened.1,
      { hal.setOutputs device opened.2 with
        nextStream := hal.nextStream + 1 })

def adevOpenInputStream (devices : UInt32) (config : AudioConfig)
    (address : String) (failure : Option Int) : Int × Hal :=
  if !isConfigSupportedIn counts config then (einval, hal)
  else if devices &&& bitIn = 0 then (einval, hal)
  else
    let opened :=
      openInSlot device.micIsMuted hal.inputs
        (findInDevice devices address) hal.nextStream failure
    (opened.1,
      { hal.setInputs device opened.2 with
        nextStream := hal.nextStream + 1 })

def adevCloseOutputStream (stream : StreamId) : Hal :=
  hal.setOutputs device (closeStream hal.outputs stream)

def adevCloseInputStream (stream : StreamId) : Hal :=
  hal.setInputs device (closeStream hal.inputs stream)

end Methods

/-! ## Runs -/

/-- The calls of the users of the HAL. -/
inductive Call where
  | adevOpen (name : String) (allocated : Bool)
  | adevClose (isDevice : Bool)
  | adevSetMicMute (state : Bool)
  | adevSetMasterMute (mute : Bool)
  | adevSetParameters (restarting : Option String)
  | adevOpenOutputStream (devices : UInt32) (config : AudioConfig)
      (address : String) (failure : Option Int)
  | adevOpenInputStream (devices : UInt32) (config : AudioConfig)
      (address : String) (failure : Option Int)
  | adevCloseOutputStream (stream : StreamId)
  | adevCloseInputStream (stream : StreamId)

/-- A method needs a device. -/
def Hal.onDevice (hal : Hal) (method : Device → Hal) : Hal :=
  hal.xadev.elim hal method

def step (counts : ChannelCounts) (hal : Hal) : Call → Hal
  | .adevOpen name allocated => (adevOpen name allocated hal).2
  | .adevClose isDevice => (adevClose isDevice hal).2
  | .adevSetMicMute state =>
      hal.onDevice fun device => (adevSetMicMute device hal state).2
  | .adevSetMasterMute mute =>
      hal.onDevice fun device => (adevSetMasterMute device hal mute).2
  | .adevSetParameters restarting =>
      hal.onDevice fun device =>
        (adevSetParameters device hal restarting).2
  | .adevOpenOutputStream devices config address failure =>
      hal.onDevice fun device =>
        (adevOpenOutputStream counts device hal devices config address
          failure).2
  | .adevOpenInputStream devices config address failure =>
      hal.onDevice fun device =>
        (adevOpenInputStream counts device hal devices config address
          failure).2
  | .adevCloseOutputStream stream =>
      hal.onDevice fun device => adevCloseOutputStream device hal stream
  | .adevCloseInputStream stream =>
      hal.onDevice fun device => adevCloseInputStream device hal stream

def reached (counts : ChannelCounts) (calls : List Call) : Hal :=
  runFrom (step counts) Hal.initial calls

/-! ## What holds of the tables -/

/--
The streams of one direction: those that are there have exactly one slot, and
no other stream has one; each is muted as the flag of the device says; and
each stream that was created is there or has been destroyed once.
-/
structure TableKept {count : Nat} (bank : Streams count) (isMuted : Bool) :
    Prop where
  slots :
    ∀ stream,
      bank.store.Live stream ↔ ∃! slot, bank.table slot = some stream
  muted :
    ∀ name stream,
      bank.store.objects name = some stream → stream.muted = isMuted
  once :
    ∀ name ∈ bank.store.created,
      (bank.store.destroyed.count name +
        if bank.store.Live name then 1 else 0) = 1

/-- The flag for the input streams; there is none without a device. -/
def Hal.micIsMuted (hal : Hal) : Bool :=
  hal.xadev.elim false Device.micIsMuted

/-- The flag for the output streams; there is none without a device. -/
def Hal.masterIsMuted (hal : Hal) : Bool :=
  hal.xadev.elim false Device.masterIsMuted

/--
Both tables are kept, and without a device all streams that were created have
been destroyed.
-/
structure StreamTables (hal : Hal) : Prop where
  inputs : TableKept hal.inputs hal.micIsMuted
  outputs : TableKept hal.outputs hal.masterIsMuted
  closed :
    hal.xadev = none →
      (∀ name ∈ hal.inStreams.created,
        hal.inStreams.destroyed.count name = 1) ∧
      ∀ name ∈ hal.outStreams.created,
        hal.outStreams.destroyed.count name = 1

/-- No stream is open. -/
def Unused {count : Nat} (bank : Streams count) : Prop :=
  ∀ slot, bank.table slot = none

/--
The microphone is muted or unmuted only while no input stream is open, and a
device is not replaced while streams are open on it, as it is when the counter
has wrapped around.
-/
def CallsSparely (hal : Hal) : Call → Prop
  | .adevSetMicMute _ => Unused hal.inputs
  | .adevOpen name _ =>
      name = audioHardwareInterface → hal.refCounter = 0 →
        Unused hal.inputs ∧ Unused hal.outputs
  | _ => True

/-! ## One table -/

/-- Every stream has a slot and is muted as the flag says. -/
structure Tended {count : Nat} (bank : Streams count) (isMuted : Bool) :
    Prop where
  covered : bank.Covered
  muted :
    ∀ name stream,
      bank.store.objects name = some stream → stream.muted = isMuted

section

variable {count : Nat} {bank : Streams count} {isMuted : Bool}

theorem tableKept_iff_tended (managed : bank.Managed) :
    TableKept bank isMuted ↔ Tended bank isMuted := by
  constructor
  · intro kept
    refine ⟨?_, kept.muted⟩
    intro name live
    rcases (kept.slots name).mp live with ⟨slot, refers, _⟩
    exact ⟨slot, refers⟩
  · intro tended
    exact
      ⟨managed.live_iff_existsUnique tended.covered, tended.muted,
        fun _ => managed.balanced.exactly_once⟩

/-- Where there is no stream, there is nothing to tend. -/
theorem tended_of_nothing (nothing : ∀ name, ¬bank.store.Live name) :
    Tended bank isMuted := by
  refine ⟨Bank.covered_of_nothing nothing, ?_⟩
  intro name stream found
  exact absurd (by rw [Store.Live, found]; rfl) (nothing name)

theorem openInSlot_cases (found : Option (Fin count)) (name : StreamId)
    (failure : Option Int) :
    (openInSlot isMuted bank found name failure).2 = bank ∨
      ∃ slot, bank.table slot = none ∧
        (openInSlot isMuted bank found name failure).2 =
          if isMuted then
            (bank.place slot name ⟨false⟩).modifyAt (setMute true) slot
          else bank.place slot name ⟨false⟩ := by
  unfold openInSlot
  split
  · exact Or.inl rfl
  · split
    · exact Or.inl rfl
    · rename_i slot free
      split
      · exact Or.inl rfl
      · exact Or.inr ⟨slot, by simpa using free, rfl⟩

theorem managed_openInSlot (managed : bank.Managed)
    (found : Option (Fin count)) {name : StreamId}
    (fresh : name ∉ bank.store.created) (failure : Option Int) :
    (openInSlot isMuted bank found name failure).2.Managed := by
  rcases @openInSlot_cases _ bank isMuted found name failure with
    same | ⟨slot, free, opened⟩
  · rwa [same]
  · have placed : (bank.place slot name ⟨false⟩).Managed :=
      managed.place fresh ⟨false⟩
    rw [opened]
    split
    · exact placed.modifyAt (setMute true) slot
    · exact placed

theorem created_openInSlot (found : Option (Fin count)) {name : StreamId}
    (failure : Option Int) {other : StreamId}
    (member :
      other ∈
        (openInSlot isMuted bank found name failure).2.store.created) :
    other ∈ bank.store.created ∨ other = name := by
  rcases @openInSlot_cases _ bank isMuted found name failure with
    same | ⟨slot, free, opened⟩
  · rw [same] at member
    exact Or.inl member
  · have placed :
        (openInSlot isMuted bank found name failure).2.store.created =
          bank.store.created ++ [name] := by
      rw [opened]
      split
      · exact Bank.created_modifyAt _ _ _
      · rfl
    rw [placed] at member
    simpa using member

/-- A stream that the loop has come to is muted as it was asked to be. -/
theorem modifyAll_setMute {mute : Bool} {name : StreamId}
    (slots : List (Fin count)) (bank : Streams count)
    (visited :
      (∃ slot ∈ slots, bank.table slot = some name) ∨
        ∀ stream,
          bank.store.objects name = some stream → stream.muted = mute) :
    ∀ stream,
      (bank.modifyAll (setMute mute) slots).store.objects name =
          some stream →
        stream.muted = mute :=
  @Bank.modifyAll_holds _ _ _ _ (setMute mute)
    (fun stream => stream.muted = mute) (fun _ => rfl) name slots bank visited

/-- A new stream is muted if the flag is set. -/
theorem Tended.openInSlot (tended : Tended bank isMuted)
    (found : Option (Fin count)) (name : StreamId)
    (failure : Option Int) :
    Tended (openInSlot isMuted bank found name failure).2 isMuted := by
  rcases @openInSlot_cases _ bank isMuted found name failure with
    same | ⟨slot, free, opened⟩
  · rwa [same]
  · have covered := tended.covered.place free name ⟨false⟩
    rw [opened]
    cases isMuted with
    | true =>
        refine ⟨covered.modifyAll (setMute true) [slot], ?_⟩
        intro other stream held
        refine modifyAll_setMute [slot] (bank.place slot name ⟨false⟩) ?_
          stream held
        by_cases same : other = name
        · left
          exact ⟨slot, List.mem_singleton.mpr rfl, by simp [Bank.place, same]⟩
        · right
          intro before beforeHeld
          apply tended.muted other before
          simpa [Bank.place, Store.create, same] using beforeHeld
    | false =>
        refine ⟨covered, ?_⟩
        intro other stream held
        by_cases same : other = name
        · subst same
          have new : (⟨false⟩ : Stream) = stream := by
            simpa [Bank.place, Store.create] using held
          rw [← new]
        · apply tended.muted other stream
          simpa [Bank.place, Store.create, same] using held

theorem closeStream_cases (bank : Streams count) (stream : StreamId) :
    closeStream bank stream = bank ∨
      ∃ slot, closeStream bank stream = bank.destroyAt slot := by
  unfold closeStream
  split
  · exact Or.inr ⟨_, rfl⟩
  · exact Or.inl rfl

theorem managed_closeStream (managed : bank.Managed) (stream : StreamId) :
    (closeStream bank stream).Managed := by
  rcases closeStream_cases bank stream with same | ⟨slot, closed⟩
  · rwa [same]
  · rw [closed]
    exact managed.destroyAt slot

@[simp]
theorem created_closeStream (stream : StreamId) :
    (closeStream bank stream).store.created = bank.store.created := by
  rcases closeStream_cases bank stream with same | ⟨slot, closed⟩
  · rw [same]
  · rw [closed, Bank.created_destroyAt]

theorem Tended.closeStream (tended : Tended bank isMuted)
    (stream : StreamId) : Tended (closeStream bank stream) isMuted := by
  rcases closeStream_cases bank stream with same | ⟨slot, closed⟩
  · rwa [same]
  · rw [closed]
    refine ⟨tended.covered.destroyAt slot, ?_⟩
    intro name held found
    exact tended.muted name held (Bank.objects_of_destroyAt found)

/-- The loops over a whole table leave no reference. -/
theorem unused_destroyStreams : Unused (destroyStreams bank) := by
  intro slot
  rw [destroyStreams, Bank.table_destroyAll,
    if_pos (List.mem_finRange slot)]

/-- Streams with a slot do not outlive the loop over the table. -/
theorem Tended.nothing_destroyStreams (tended : Tended bank isMuted) :
    ∀ name, ¬(destroyStreams bank).store.Live name :=
  (tended.covered.destroyAll (List.finRange count)).nothing
    unused_destroyStreams

/-- Streams without a slot are not looked after, so there must be none. -/
theorem tended_iff_unused (managed : bank.Managed) (covered : bank.Covered)
    {after : Streams count} (empty : Unused after)
    (same :
      ∀ name, after.store.Live name ↔ bank.store.Live name) :
    Tended after isMuted ↔ Unused bank := by
  constructor
  · intro tended slot
    cases refers : bank.table slot with
    | none => rfl
    | some name =>
        have live := (same name).mpr (managed.live slot name refers)
        exact absurd live (tended.covered.nothing empty name)
  · intro unused
    apply tended_of_nothing
    intro name live
    exact covered.nothing unused name ((same name).mp live)

/-- The microphone's loop keeps the streams and forgets their slots. -/
theorem muteAndClear_facts (state : Bool) (slots : List (Fin count))
    (managed : bank.Managed) :
    let after := slots.foldl (muteAndClear state) bank
    after.Managed ∧
      (∀ name, after.store.Live name ↔ bank.store.Live name) ∧
      after.store.created = bank.store.created ∧
      ∀ slot,
        after.table slot = if slot ∈ slots then none
          else bank.table slot := by
  induction slots generalizing bank with
  | nil => exact ⟨managed, fun _ => Iff.rfl, rfl, fun _ => rfl⟩
  | cons first slots inductionHypothesis =>
      have head :
          (muteAndClear state bank first).Managed ∧
            (∀ name,
              (muteAndClear state bank first).store.Live name ↔
                bank.store.Live name) ∧
            (muteAndClear state bank first).store.created =
              bank.store.created ∧
            (muteAndClear state bank first).table =
              Function.update bank.table first none := by
        unfold muteAndClear
        split
        · refine
            ⟨(managed.modifyAt (setMute state) first).clear first,
              fun name => Bank.live_modifyAt (setMute state) bank first name,
              Bank.created_modifyAt (setMute state) bank first, ?_⟩
          rw [Bank.clear, Bank.table_modifyAt]
        · rename_i empty
          refine ⟨managed, fun _ => Iff.rfl, rfl, ?_⟩
          rw [← empty, Function.update_eq_self]
      rcases head with ⟨headManaged, headLive, headCreated, headTable⟩
      rcases inductionHypothesis headManaged with
        ⟨tailManaged, tailLive, tailCreated, tailTable⟩
      refine ⟨tailManaged, fun name => (tailLive name).trans (headLive name),
        tailCreated.trans headCreated, ?_⟩
      intro slot
      rw [List.foldl_cons, tailTable slot, headTable]
      by_cases same : slot = first
      · simp [same]
      · simp [same]

theorem Tended.muteStreams (tended : Tended bank isMuted) (mute : Bool) :
    Tended (muteStreams mute bank) mute := by
  have covered :=
    tended.covered.modifyAll (setMute mute) (List.finRange count)
  refine ⟨covered, ?_⟩
  intro name stream held
  have live : (AudioDevice.muteStreams mute bank).store.Live name := by
    rw [Store.Live, held]
    rfl
  rcases covered name live with ⟨slot, refers⟩
  rw [Bank.table_modifyAll] at refers
  exact modifyAll_setMute (List.finRange count) bank
    (Or.inl ⟨slot, List.mem_finRange slot, refers⟩) stream held

end

/-! ## The device -/

/-- What no call can break. -/
structure Valid (hal : Hal) : Prop where
  inputs : hal.inputs.Managed
  outputs : hal.outputs.Managed
  inputsNamed : ∀ name ∈ hal.inStreams.created, name < hal.nextStream
  outputsNamed : ∀ name ∈ hal.outStreams.created, name < hal.nextStream

/-- Both tables look after their streams. -/
def Sound (hal : Hal) : Prop :=
  Tended hal.inputs hal.micIsMuted ∧
    Tended hal.outputs hal.masterIsMuted

theorem valid_initial : Valid Hal.initial := by
  have managed :
      ∀ count,
        (⟨fun _ => none, Store.empty⟩ : Streams count).Managed := by
    intro count
    refine ⟨?_, ?_, Store.balanced_empty⟩
    · intro slot name refers
      cases refers
    · intro first second name refers
      cases refers
  refine ⟨managed 3, managed 8, ?_, ?_⟩
  · intro name member
    cases member
  · intro name member
    cases member

theorem sound_initial : Sound Hal.initial := by
  constructor
  · apply tended_of_nothing
    intro name live
    cases live
  · apply tended_of_nothing
    intro name live
    cases live

/-- The tables are kept exactly if they look after their streams. -/
theorem Valid.streamTables_iff_sound {hal : Hal} (valid : Valid hal) :
    StreamTables hal ↔ Sound hal := by
  constructor
  · intro tables
    exact ⟨(tableKept_iff_tended valid.inputs).mp tables.inputs,
      (tableKept_iff_tended valid.outputs).mp tables.outputs⟩
  · rintro ⟨inputs, outputs⟩
    have inputsKept := (tableKept_iff_tended valid.inputs).mpr inputs
    have outputsKept := (tableKept_iff_tended valid.outputs).mpr outputs
    refine ⟨inputsKept, outputsKept, ?_⟩
    intro absent
    have noInput : ∀ name, ¬hal.inputs.store.Live name :=
      inputs.covered.nothing (by intro slot; simp [Hal.inputs, absent])
    have noOutput : ∀ name, ¬hal.outputs.store.Live name :=
      outputs.covered.nothing (by intro slot; simp [Hal.outputs, absent])
    constructor
    · intro name created
      have once := inputsKept.once name created
      rwa [if_neg (noInput name)] at once
    · intro name created
      have once := outputsKept.once name created
      rwa [if_neg (noOutput name)] at once

section Steps

variable {counts : ChannelCounts} {hal : Hal} {device old : Device}

theorem outputs_setInputs (present : hal.xadev = some old)
    (same : device.xoutStreams = old.xoutStreams) (bank : Streams 3) :
    (hal.setInputs device bank).outputs = hal.outputs := by
  simp [Hal.outputs, Hal.setInputs, present, same]

theorem inputs_setOutputs (present : hal.xadev = some old)
    (same : device.xinStreams = old.xinStreams) (bank : Streams 8) :
    (hal.setOutputs device bank).inputs = hal.inputs := by
  simp [Hal.inputs, Hal.setOutputs, present, same]

theorem Valid.setInputs (valid : Valid hal) (device : Device)
    (present : hal.xadev = some old)
    (same : device.xoutStreams = old.xoutStreams) {bank : Streams 3}
    (managed : bank.Managed) {next : StreamId}
    (named : ∀ name ∈ bank.store.created, name < next)
    (later : hal.nextStream ≤ next) :
    Valid { hal.setInputs device bank with nextStream := next } := by
  refine ⟨managed, ?_, named, ?_⟩
  · have kept := outputs_setInputs present same bank
    exact kept.symm ▸ valid.outputs
  · intro name member
    exact Nat.lt_of_lt_of_le (valid.outputsNamed name member) later

theorem Valid.setOutputs (valid : Valid hal) (device : Device)
    (present : hal.xadev = some old)
    (same : device.xinStreams = old.xinStreams) {bank : Streams 8}
    (managed : bank.Managed) {next : StreamId}
    (named : ∀ name ∈ bank.store.created, name < next)
    (later : hal.nextStream ≤ next) :
    Valid { hal.setOutputs device bank with nextStream := next } := by
  refine ⟨?_, managed, ?_, named⟩
  · have kept := inputs_setOutputs present same bank
    exact kept.symm ▸ valid.inputs
  · intro name member
    exact Nat.lt_of_lt_of_le (valid.inputsNamed name member) later

/-- A method that keeps what holds without a device keeps it with one. -/
theorem onDevice_holds {Holds : Hal → Prop} {method : Device → Hal}
    (holds : Holds hal)
    (kept : ∀ device, hal.xadev = some device → Holds (method device)) :
    Holds (hal.onDevice method) := by
  unfold Hal.onDevice
  cases present : hal.xadev with
  | none => exact holds
  | some device => exact kept device present

theorem Valid.adevOpen (valid : Valid hal) (name : String)
    (allocated : Bool) :
    Valid (AudioDevice.adevOpen name allocated hal).2 := by
  unfold AudioDevice.adevOpen
  split
  · exact valid
  · split
    · exact ⟨valid.inputs, valid.outputs, valid.inputsNamed,
        valid.outputsNamed⟩
    · split
      · exact ⟨valid.inputs.forget, valid.outputs.forget,
          valid.inputsNamed, valid.outputsNamed⟩
      · exact ⟨valid.inputs.forget, valid.outputs.forget,
          valid.inputsNamed, valid.outputsNamed⟩

theorem named_destroyStreams {count : Nat} {bank : Streams count}
    {next : StreamId} (named : ∀ name ∈ bank.store.created, name < next) :
    ∀ name ∈ (destroyStreams bank).store.created, name < next := by
  rw [destroyStreams, Bank.created_destroyAll]
  exact named

theorem Valid.adevClose (valid : Valid hal) (isDevice : Bool) :
    Valid (AudioDevice.adevClose isDevice hal).2 := by
  unfold AudioDevice.adevClose
  split
  · exact valid
  · split
    · exact valid
    · split
      · exact ⟨(valid.inputs.destroyAll _).forget,
          (valid.outputs.destroyAll _).forget,
          named_destroyStreams valid.inputsNamed,
          named_destroyStreams valid.outputsNamed⟩
      · exact ⟨valid.inputs, valid.outputs, valid.inputsNamed,
          valid.outputsNamed⟩

theorem Valid.adevSetMicMute (valid : Valid hal)
    (present : hal.xadev = some device) (state : Bool) :
    Valid (AudioDevice.adevSetMicMute device hal state).2 := by
  rcases muteAndClear_facts state (List.finRange 3) valid.inputs with
    ⟨managed, _, created, _⟩
  refine valid.setInputs { device with micIsMuted := state } present rfl
    managed ?_ le_rfl
  intro name member
  exact valid.inputsNamed name (created ▸ member)

theorem Valid.adevSetMasterMute (valid : Valid hal)
    (present : hal.xadev = some device) (mute : Bool) :
    Valid (AudioDevice.adevSetMasterMute device hal mute).2 := by
  refine valid.setOutputs { device with masterIsMuted := mute } present rfl
    (valid.outputs.modifyAll (setMute mute) _) ?_ le_rfl
  intro name member
  rw [Bank.created_modifyAll] at member
  exact valid.outputsNamed name member

theorem Valid.adevSetParameters (valid : Valid hal)
    (restarting : Option String) :
    Valid (AudioDevice.adevSetParameters device hal restarting).2 := by
  unfold AudioDevice.adevSetParameters
  split
  · exact ⟨valid.inputs.destroyAll _, valid.outputs.destroyAll _,
      named_destroyStreams valid.inputsNamed,
      named_destroyStreams valid.outputsNamed⟩
  · exact valid

/-- Names that were given, and the one given now, are below the next name. -/
theorem named_openInSlot {count : Nat} {bank : Streams count}
    {isMuted : Bool} {found : Option (Fin count)} {next : StreamId}
    {failure : Option Int} (named : ∀ name ∈ bank.store.created, name < next) :
    ∀ name ∈
        (openInSlot isMuted bank found next failure).2.store.created,
      name < next + 1 := by
  intro name member
  rcases created_openInSlot found failure member with before | rfl
  · exact Nat.lt_succ_of_lt (named name before)
  · exact Nat.lt_succ_self name

theorem Valid.adevOpenOutputStream (valid : Valid hal)
    (present : hal.xadev = some device) (devices : UInt32)
    (config : AudioConfig) (address : String) (failure : Option Int) :
    Valid
      (AudioDevice.adevOpenOutputStream counts device hal devices config
        address failure).2 := by
  unfold AudioDevice.adevOpenOutputStream
  split
  · exact valid
  · split
    · exact valid
    · refine valid.setOutputs _ present rfl
        (managed_openInSlot valid.outputs _ ?_ failure)
        (named_openInSlot valid.outputsNamed) (Nat.le_succ _)
      intro used
      exact Nat.lt_irrefl _ (valid.outputsNamed _ used)

theorem Valid.adevOpenInputStream (valid : Valid hal)
    (present : hal.xadev = some device) (devices : UInt32)
    (config : AudioConfig) (address : String) (failure : Option Int) :
    Valid
      (AudioDevice.adevOpenInputStream counts device hal devices config
        address failure).2 := by
  unfold AudioDevice.adevOpenInputStream
  split
  · exact valid
  · split
    · exact valid
    · refine valid.setInputs _ present rfl
        (managed_openInSlot valid.inputs _ ?_ failure)
        (named_openInSlot valid.inputsNamed) (Nat.le_succ _)
      intro used
      exact Nat.lt_irrefl _ (valid.inputsNamed _ used)

/-- Every call keeps the references and the accounts in order. -/
theorem Valid.step (valid : Valid hal) (call : Call) :
    Valid (step counts hal call) := by
  cases call with
  | adevOpen name allocated => exact valid.adevOpen name allocated
  | adevClose isDevice => exact valid.adevClose isDevice
  | adevSetMicMute state =>
      exact onDevice_holds valid fun _ present =>
        valid.adevSetMicMute present state
  | adevSetMasterMute mute =>
      exact onDevice_holds valid fun _ present =>
        valid.adevSetMasterMute present mute
  | adevSetParameters restarting =>
      exact onDevice_holds valid fun _ _ =>
        valid.adevSetParameters restarting
  | adevOpenOutputStream devices config address failure =>
      exact onDevice_holds valid fun _ present =>
        valid.adevOpenOutputStream present devices config address failure
  | adevOpenInputStream devices config address failure =>
      exact onDevice_holds valid fun _ present =>
        valid.adevOpenInputStream present devices config address failure
  | adevCloseOutputStream stream =>
      refine onDevice_holds valid fun _ present => ?_
      refine valid.setOutputs _ present rfl
        (managed_closeStream valid.outputs stream) ?_ le_rfl
      rw [created_closeStream]
      exact valid.outputsNamed
  | adevCloseInputStream stream =>
      refine onDevice_holds valid fun _ present => ?_
      refine valid.setInputs _ present rfl
        (managed_closeStream valid.inputs stream) ?_ le_rfl
      rw [created_closeStream]
      exact valid.inputsNamed

theorem Sound.setInputs (sound : Sound hal) (device : Device)
    (present : hal.xadev = some old)
    (sameTable : device.xoutStreams = old.xoutStreams)
    (sameFlag : device.masterIsMuted = old.masterIsMuted)
    {bank : Streams 3} (tended : Tended bank device.micIsMuted) :
    Sound (hal.setInputs device bank) := by
  have outputs := outputs_setInputs present sameTable bank
  have flag : (hal.setInputs device bank).masterIsMuted =
      hal.masterIsMuted := by
    simp [Hal.masterIsMuted, Hal.setInputs, present, sameFlag]
  refine ⟨tended, ?_⟩
  rw [outputs, flag]
  exact sound.2

theorem Sound.setOutputs (sound : Sound hal) (device : Device)
    (present : hal.xadev = some old)
    (sameTable : device.xinStreams = old.xinStreams)
    (sameFlag : device.micIsMuted = old.micIsMuted)
    {bank : Streams 8} (tended : Tended bank device.masterIsMuted) :
    Sound (hal.setOutputs device bank) := by
  have inputs := inputs_setOutputs present sameTable bank
  have flag : (hal.setOutputs device bank).micIsMuted =
      hal.micIsMuted := by
    simp [Hal.micIsMuted, Hal.setOutputs, present, sameFlag]
  refine ⟨?_, tended⟩
  rw [inputs, flag]
  exact sound.1

theorem Sound.inputsOf (sound : Sound hal)
    (present : hal.xadev = some device) :
    Tended hal.inputs device.micIsMuted := by
  have flag : hal.micIsMuted = device.micIsMuted := by
    simp [Hal.micIsMuted, present]
  exact flag ▸ sound.1

theorem Sound.outputsOf (sound : Sound hal)
    (present : hal.xadev = some device) :
    Tended hal.outputs device.masterIsMuted := by
  have flag : hal.masterIsMuted = device.masterIsMuted := by
    simp [Hal.masterIsMuted, present]
  exact flag ▸ sound.2

/-- A device that replaces another one knows none of its streams. -/
theorem sound_adevOpen_iff (valid : Valid hal) (sound : Sound hal)
    (name : String) (allocated : Bool) :
    CallsSparely hal (.adevOpen name allocated) ↔
      Sound (adevOpen name allocated hal).2 := by
  simp only [CallsSparely]
  unfold adevOpen
  split
  · rename_i other
    exact ⟨fun _ => sound, fun _ named => absurd named other⟩
  · rename_i named
    split
    · rename_i counted
      exact ⟨fun _ => sound, fun _ _ unused => absurd unused counted⟩
    · rename_i unused
      have inputs :
          Tended (⟨fun _ => none, hal.inStreams⟩ : Streams 3) false ↔
            Unused hal.inputs :=
        tended_iff_unused valid.inputs sound.1.covered (fun _ => rfl)
          (fun _ => Iff.rfl)
      have outputs :
          Tended (⟨fun _ => none, hal.outStreams⟩ : Streams 8) false ↔
            Unused hal.outputs :=
        tended_iff_unused valid.outputs sound.2.covered (fun _ => rfl)
          (fun _ => Iff.rfl)
      have condition :
          (name = audioHardwareInterface → hal.refCounter = 0 →
              Unused hal.inputs ∧ Unused hal.outputs) ↔
            Unused hal.inputs ∧ Unused hal.outputs := by
        constructor
        · intro spare
          exact spare (by simpa using named) (by simpa using unused)
        · exact fun both _ _ => both
      rw [condition, ← inputs, ← outputs]
      split
      · exact Iff.rfl
      · exact Iff.rfl

/-- Muting the microphone forgets the input streams. -/
theorem sound_adevSetMicMute_iff (valid : Valid hal) (sound : Sound hal)
    (present : hal.xadev = some device) (state : Bool) :
    Unused hal.inputs ↔ Sound (adevSetMicMute device hal state).2 := by
  rcases muteAndClear_facts state (List.finRange 3) valid.inputs with
    ⟨_, live, _, table⟩
  have empty : Unused (muteAndClearStreams state hal.inputs) := by
    intro slot
    rw [muteAndClearStreams, table slot, if_pos (List.mem_finRange slot)]
  have forgotten :=
    @tended_iff_unused _ hal.inputs state valid.inputs sound.1.covered _
      empty live
  rw [← forgotten]
  constructor
  · intro tended
    exact sound.setInputs { device with micIsMuted := state } present rfl
      rfl tended
  · exact fun after => after.1

theorem Sound.adevClose (sound : Sound hal) (isDevice : Bool) :
    Sound (AudioDevice.adevClose isDevice hal).2 := by
  unfold AudioDevice.adevClose
  split
  · exact sound
  · split
    · exact sound
    · split
      · exact ⟨tended_of_nothing sound.1.nothing_destroyStreams,
          tended_of_nothing sound.2.nothing_destroyStreams⟩
      · exact sound

theorem Sound.adevSetParameters (sound : Sound hal)
    (restarting : Option String) :
    Sound (AudioDevice.adevSetParameters device hal restarting).2 := by
  unfold AudioDevice.adevSetParameters
  split
  · exact ⟨tended_of_nothing sound.1.nothing_destroyStreams,
      tended_of_nothing sound.2.nothing_destroyStreams⟩
  · exact sound

theorem Sound.adevOpenOutputStream (sound : Sound hal)
    (present : hal.xadev = some device) (devices : UInt32)
    (config : AudioConfig) (address : String) (failure : Option Int) :
    Sound
      (AudioDevice.adevOpenOutputStream counts device hal devices config
        address failure).2 := by
  unfold AudioDevice.adevOpenOutputStream
  split
  · exact sound
  · split
    · exact sound
    · exact sound.setOutputs device present rfl rfl
        ((sound.outputsOf present).openInSlot _ _ failure)

theorem Sound.adevOpenInputStream (sound : Sound hal)
    (present : hal.xadev = some device) (devices : UInt32)
    (config : AudioConfig) (address : String) (failure : Option Int) :
    Sound
      (AudioDevice.adevOpenInputStream counts device hal devices config
        address failure).2 := by
  unfold AudioDevice.adevOpenInputStream
  split
  · exact sound
  · split
    · exact sound
    · exact sound.setInputs device present rfl rfl
        ((sound.inputsOf present).openInSlot _ _ failure)

/-- Exactly the sparing calls keep the tables in order. -/
theorem callsSparely_iff_sound_step (valid : Valid hal)
    (sound : Sound hal) (call : Call) :
    CallsSparely hal call ↔ Sound (step counts hal call) := by
  cases call with
  | adevOpen name allocated =>
      exact sound_adevOpen_iff valid sound name allocated
  | adevClose isDevice => exact iff_of_true trivial (sound.adevClose _)
  | adevSetMicMute state =>
      simp only [CallsSparely, step, Hal.onDevice]
      cases present : hal.xadev with
      | none =>
          refine iff_of_true ?_ sound
          intro slot
          simp [Hal.inputs, present]
      | some device =>
          exact sound_adevSetMicMute_iff valid sound present state
  | adevSetMasterMute mute =>
      refine iff_of_true trivial (onDevice_holds sound ?_)
      intro device present
      exact sound.setOutputs { device with masterIsMuted := mute } present
        rfl rfl ((sound.outputsOf present).muteStreams mute)
  | adevSetParameters restarting =>
      refine iff_of_true trivial (onDevice_holds sound ?_)
      exact fun _ _ => sound.adevSetParameters restarting
  | adevOpenOutputStream devices config address failure =>
      refine iff_of_true trivial (onDevice_holds sound ?_)
      exact fun _ present =>
        sound.adevOpenOutputStream present devices config address failure
  | adevOpenInputStream devices config address failure =>
      refine iff_of_true trivial (onDevice_holds sound ?_)
      exact fun _ present =>
        sound.adevOpenInputStream present devices config address failure
  | adevCloseOutputStream stream =>
      refine iff_of_true trivial (onDevice_holds sound ?_)
      intro device present
      exact sound.setOutputs device present rfl rfl
        ((sound.outputsOf present).closeStream stream)
  | adevCloseInputStream stream =>
      refine iff_of_true trivial (onDevice_holds sound ?_)
      intro device present
      exact sound.setInputs device present rfl rfl
        ((sound.inputsOf present).closeStream stream)

end Steps

/--
The stream tables are in order all through a run if and only if the microphone
is muted and unmuted only while no input stream is open, and no device is
replaced while streams are open on it.
-/
theorem streamTables_always_iff_callsSparely (counts : ChannelCounts)
    (calls : List Call) :
    (∀ earlier, earlier <+: calls →
        StreamTables (reached counts earlier)) ↔
      Admitted (step counts) CallsSparely Hal.initial calls := by
  have valid : ∀ earlier, Valid (reached counts earlier) :=
    run_invariant (fun _ call before => before.step call) valid_initial
  have always :=
    @admitted_iff_always Hal Call (step counts) CallsSparely Valid Sound
      (fun _ call before => before.step call)
      (fun _ call before sound =>
        callsSparely_iff_sound_step before sound call)
      Hal.initial valid_initial sound_initial calls
  rw [always]
  constructor
  · intro tables earlier isPrefix
    exact (valid earlier).streamTables_iff_sound.mp
      (tables earlier isPrefix)
  · intro sound earlier isPrefix
    exact (valid earlier).streamTables_iff_sound.mpr
      (sound earlier isPrefix)

/-- Channel counts as the platform has them for mono and stereo. -/
def plainCounts : ChannelCounts := ⟨fun _ => 1, fun _ => 2⟩

/-- An input stream is open when the microphone is muted. -/
def mutedMicrophone : List Call :=
  [.adevOpen audioHardwareInterface true,
    .adevOpenInputStream inBuiltinMic ⟨48000, 0x10, pcm16Bit⟩ "" none,
    .adevSetMicMute true]

/--
The stream is there, and no slot refers to it.  Closing it does nothing, and
it outlives the device.
-/
theorem muted_microphone_stream_lost :
    (∃ slot, (reached plainCounts (mutedMicrophone.take 2)).inputs.table slot =
      some 0) ∧
    (reached plainCounts mutedMicrophone).inStreams.Live 0 ∧
    (∀ slot,
      (reached plainCounts mutedMicrophone).inputs.table slot ≠ some 0) ∧
    ¬StreamTables (reached plainCounts mutedMicrophone) ∧
    (reached plainCounts
      (mutedMicrophone ++
        [.adevCloseInputStream 0, .adevClose true])).xadev.isNone ∧
    (reached plainCounts
      (mutedMicrophone ++
        [.adevCloseInputStream 0, .adevClose true])).inStreams.Live 0 := by
  have lost :
      ∀ slot,
        (reached plainCounts mutedMicrophone).inputs.table slot ≠
          some 0 := by
    decide
  have live : (reached plainCounts mutedMicrophone).inStreams.Live 0 := by
    decide
  refine ⟨by decide, live, lost, ?_, by decide, by decide⟩
  intro tables
  rcases (tables.inputs.slots 0).mp live with ⟨slot, refers, _⟩
  exact lost slot refers

end Anbox.Audio.AudioDevice
