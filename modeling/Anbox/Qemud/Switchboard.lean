import Mathlib.Logic.Function.Basic
import Anbox.Qemud.Multiplexing

/-!
# What the qemud daemon is for

A switchboard connects lines to channels of the emulator.  It knows neither
frames nor queues: a message is said to a line or told to the emulator at once.
A line is asked for with a number that no other line has.

The moves are a relation because the switchboard may choose any free number.
-/

namespace Anbox.Qemud.Switchboard

open Anbox.Qemud.SerialPort
open Anbox.Qemud.Multiplexing

/-- The state of a line. -/
inductive Line where
  | absent
  | fresh
  | waiting (channel : Int)
  | connected (channel : Int)
deriving DecidableEq, Repr

/-- The channel a line has or has been asked for. -/
def Line.channel? : Line → Option Int
  | .absent => none
  | .fresh => none
  | .waiting channel => some channel
  | .connected channel => some channel

/-- The lines, what was said to them, and what the emulator was told. -/
structure Board where
  lines : Nat → Line
  heard : Nat → List UInt8
  told : List Packet

def Board.initial : Board where
  lines := fun _ => .absent
  heard := fun _ => []
  told := []

def Board.setLine (board : Board) (id : Nat) (line : Line) : Board :=
  { board with lines := Function.update board.lines id line }

/-- Say something to a line. -/
def Board.say (board : Board) (id : Nat) (message : List UInt8) : Board :=
  { board with
    heard := Function.update board.heard id (board.heard id ++ message) }

def Board.tell (board : Board) (packet : Packet) : Board :=
  { board with told := board.told ++ [packet] }

/-- What happens at the switchboard. -/
inductive Occurrence where
  | arrives (id : Nat)
  | speaks (id : Nat) (message : List UInt8)
  | leaves (id : Nat)
  | announces (packet : Packet)
deriving DecidableEq, Repr

/-- Nobody has the channel. -/
def Board.Free (board : Board) (channel : Int) : Prop :=
  ∀ id, (board.lines id).channel? ≠ some channel

/-- The moves of the switchboard. -/
inductive Move : Board → Occurrence → Board → Prop
  | arrives {board : Board} {id : Nat} :
      board.lines id = .absent → board.heard id = [] →
        Move board (.arrives id) (board.setLine id .fresh)
  | passes {board : Board} {id : Nat} {channel : Int}
      {message : List UInt8} :
      board.lines id = .connected channel →
        Move board (.speaks id message) (board.tell ⟨channel, message⟩)
  | impatient {board : Board} {id : Nat} {channel : Int}
      {message : List UInt8} :
      board.lines id = .waiting channel →
        Move board (.speaks id message) (board.setLine id .absent)
  | asks {board : Board} {id : Nat} {channel : Int}
      {service : List UInt8} :
      board.lines id = .fresh → board.Free channel → 0 < channel →
        channel < 256 →
        Move board (.speaks id service)
          ((board.setLine id (.waiting channel)).tell
            ⟨channelControl, connectMessage service channel⟩)
  | tooLong {board : Board} {id : Nat} {channel : Int}
      {service : List UInt8} :
      board.lines id = .fresh →
        maxPayload ≤ (connectMessage service channel).length →
        Move board (.speaks id service) (board.setLine id .absent)
  | leaves {board : Board} {id : Nat} {channel : Int} :
      (board.lines id).channel? = some channel →
        Move board (.leaves id)
          ((board.tell ⟨channelControl, disconnectMessage channel⟩).setLine
            id .absent)
  | leavesEarly {board : Board} {id : Nat} :
      (board.lines id).channel? = none →
        Move board (.leaves id) (board.setLine id .absent)
  | connects {board : Board} {id : Nat} {channel : Int}
      {data : List UInt8} :
      controlMessage data = .connected channel →
        (board.lines id).channel? = some channel →
        Move board (.announces ⟨channelControl, data⟩)
          ((board.setLine id (.connected channel)).say id (ascii "OK"))
  | refuses {board : Board} {id : Nat} {channel : Int}
      {data : List UInt8} :
      controlMessage data = .refused channel →
        (board.lines id).channel? = some channel →
        Move board (.announces ⟨channelControl, data⟩)
          ((board.setLine id .fresh).say id (ascii "KO"))
  | disconnects {board : Board} {id : Nat} {channel : Int}
      {data : List UInt8} :
      controlMessage data = .disconnected channel →
        (board.lines id).channel? = some channel →
        Move board (.announces ⟨channelControl, data⟩)
          (board.setLine id .absent)
  | nobody {board : Board} {data : List UInt8} :
      (∀ channel, (controlMessage data).channel? = some channel →
        board.Free channel) →
        Move board (.announces ⟨channelControl, data⟩) board
  | delivers {board : Board} {id : Nat} {packet : Packet} :
      packet.channel ≠ channelControl →
        (board.lines id).channel? = some packet.channel →
        Move board (.announces packet) (board.say id packet.data)
  | drops {board : Board} {packet : Packet} :
      packet.channel ≠ channelControl → board.Free packet.channel →
        Move board (.announces packet) board

/-- One move for each of some occurrences. -/
inductive Moves : Board → List Occurrence → Board → Prop
  | nil {board : Board} : Moves board [] board
  | cons {board middle final : Board} {occurrence : Occurrence}
      {occurrences : List Occurrence} :
      Move board occurrence middle → Moves middle occurrences final →
        Moves board (occurrence :: occurrences) final

theorem Moves.single {board final : Board} {occurrence : Occurrence}
    (move : Move board occurrence final) :
    Moves board [occurrence] final :=
  Moves.cons move Moves.nil

theorem Moves.append {board middle final : Board}
    {first second : List Occurrence} (before : Moves board first middle)
    (after : Moves middle second final) :
    Moves board (first ++ second) final := by
  induction before with
  | nil => exact after
  | cons move _ inductionHypothesis =>
      exact Moves.cons move (inductionHypothesis after)

end Anbox.Qemud.Switchboard
