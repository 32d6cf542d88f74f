import Mathlib.Algebra.Order.Ring.Nat
import Anbox.Foundation.FixedNumerals

/-!
# The serial connection of the qemud daemon

The daemon sends and receives packets over a serial port.  A packet has a
header of six hexadecimal digits: two for the number of a channel and four for
the size of the payload behind it.

`serialFdReceive` is called with whatever could be read from the port.  It
keeps the header or the payload it has begun in `in_packet`, which is filled
with `memcpy`: four digits can announce more than a packet has room for, and
nothing checks this.
-/

namespace Anbox.Qemud.SerialPort

open Anbox.Foundation.FixedNumerals

/-! ## Numbers in the header -/

/-- The digits that `hex2int` knows, of either case. -/
def hexDigit? (character : UInt8) : Option Nat :=
  if 0x30 ≤ character && character ≤ 0x39 then
    some (character.toNat - 0x30)
  else if 0x61 ≤ character && character ≤ 0x66 then
    some (character.toNat - 0x61 + 10)
  else if 0x41 ≤ character && character ≤ 0x46 then
    some (character.toNat - 0x41 + 10)
  else none

/-- A character of `hexchars`. -/
def hexchar (digit : Nat) : UInt8 :=
  if digit < 10 then UInt8.ofNat (0x30 + digit)
  else UInt8.ofNat (0x61 + (digit - 10))

/-- The number that hexadecimal digits stand for, or -1. -/
def hex2int (data : List UInt8) : Int :=
  match readNumeral hexDigit? 16 data with
  | some value => value
  | none => -1

/-- The lowest `width` hexadecimal digits of a number. -/
def int2hex (value : Int) (width : Nat) : List UInt8 :=
  writeNumeral hexchar 16 value width

theorem hexDigit?_hexchar (digit : Nat) (small : digit < 16) :
    hexDigit? (hexchar digit) = some digit := by
  have all : ∀ digit : Fin 16, hexDigit? (hexchar digit) = some digit.val := by
    decide
  exact all ⟨digit, small⟩

/-- A number is read back as far as its digits go. -/
theorem hex2int_int2hex (value : Int) (width : Nat) :
    hex2int (int2hex value width) = value % 16 ^ width := by
  have positive : (0 : Int) < 16 ^ width := by positivity
  rw [hex2int, int2hex,
    readNumeral_writeNumeral (by decide) hexDigit?_hexchar]
  exact Int.toNat_of_nonneg (Int.emod_nonneg value positive.ne')

@[simp]
theorem length_int2hex (value : Int) (width : Nat) :
    (int2hex value width).length = width :=
  length_writeNumeral hexchar value width

/-! ## Receiving -/

/-- The number of bytes that `data` of a packet has room for. -/
def maxPayload : Nat := 4000

def headerSize : Nat := 6
def channelOffset : Nat := 0
def lengthOffset : Nat := 2
def channelSize : Nat := 2
def lengthSize : Nat := 4

/-- The channel control messages are exchanged on. -/
def channelControl : Int := 0

structure Packet where
  channel : Int
  data : List UInt8
deriving DecidableEq, Repr

/--
The reading half of a `Serial`.  The bytes that `in_packet` holds so far are
`inPacket`, so `in_len` is their number; `inDatalen` is the size of the payload,
or zero while the header is read.
-/
structure Serial where
  inDatalen : Nat
  inChannel : Int
  inPacket : List UInt8
  unfinished :
    inPacket.length < if inDatalen = 0 then headerSize else inDatalen

/-- The reader made by `serial_init`. -/
def Serial.initial : Serial where
  inDatalen := 0
  inChannel := 0
  inPacket := []
  unfinished := by decide

/-- The size of the payload; a malformed or negative one counts as none. -/
def announced (header : List UInt8) : Nat :=
  (hex2int ((header.drop lengthOffset).take lengthSize)).toNat

/-- The channel the payload is addressed to. -/
def addressed (header : List UInt8) : Int :=
  hex2int ((header.drop channelOffset).take channelSize)

/-- What one turn of the loop in `serial_fd_receive` leaves. -/
structure Turn where
  serial : Serial
  rest : List UInt8
  posted : List Packet

/-- Copy bytes of the header, and look at it once it is complete. -/
def receiveHeader (serial : Serial) (bytes : List UInt8) : Turn :=
  let avail := min bytes.length (headerSize - serial.inPacket.length)
  let data := serial.inPacket ++ bytes.take avail
  if more : data.length < headerSize then
    { serial := ⟨0, serial.inChannel, data, by simpa using more⟩
      rest := bytes.drop avail
      posted := [] }
  else
    { serial :=
        ⟨announced data, addressed data, [], by
          simp only [List.length_nil, headerSize]
          split <;> omega⟩
      rest := bytes.drop avail
      posted := [] }

/--
Copy bytes of the payload, and post the packet once it is complete.  The copy
goes to `in_packet->data + inpos` whether or not there is room for it.
-/
def receivePayload (serial : Serial) (begun : serial.inDatalen ≠ 0)
    (bytes : List UInt8) : Option Turn :=
  let avail := min bytes.length (serial.inDatalen - serial.inPacket.length)
  let data := serial.inPacket ++ bytes.take avail
  if maxPayload < serial.inPacket.length + avail then none
  else if more : data.length < serial.inDatalen then
    some
      { serial :=
          ⟨serial.inDatalen, serial.inChannel, data, by
            rwa [if_neg begun]⟩
        rest := bytes.drop avail
        posted := [] }
  else
    some
      { serial := ⟨0, serial.inChannel, [], by decide⟩
        rest := bytes.drop avail
        posted :=
          if serial.inChannel < 0 then [] else [⟨serial.inChannel, data⟩] }

/-- One turn of the loop. -/
def receiveTurn (serial : Serial) (bytes : List UInt8) : Option Turn :=
  if begun : serial.inDatalen ≠ 0 then receivePayload serial begun bytes
  else some (receiveHeader serial bytes)

/-- The loop of `serial_fd_receive`, for at most `fuel` turns. -/
def serialFdReceiveFuel :
    Nat → Serial → List UInt8 → Option (Serial × List Packet)
  | 0, serial, _ => some (serial, [])
  | _, serial, [] => some (serial, [])
  | fuel + 1, serial, byte :: bytes => do
      let turn ← receiveTurn serial (byte :: bytes)
      let later ← serialFdReceiveFuel fuel turn.serial turn.rest
      return (later.1, turn.posted ++ later.2)

/--
`serial_fd_receive`: the packets that are posted, or `none` if a copy ran past
the end of a packet.
-/
def serialFdReceive (serial : Serial) (bytes : List UInt8) :
    Option (Serial × List Packet) :=
  serialFdReceiveFuel bytes.length serial bytes

/-- One call for each successful read of the port. -/
def receiveAll :
    Serial → List (List UInt8) → Option (Serial × List Packet)
  | serial, [] => some (serial, [])
  | serial, chunk :: chunks => do
      let first ← serialFdReceive serial chunk
      let later ← receiveAll first.1 chunks
      return (later.1, first.2 ++ later.2)

/-! ## Sending -/

/-- The header and the payload that `serial_send` enqueues. -/
def serialSend (packet : Packet) : List (List UInt8) :=
  [int2hex packet.channel channelSize ++
      int2hex packet.data.length lengthSize,
    packet.data]

end Anbox.Qemud.SerialPort
