import Anbox.Foundation.Framing
import Anbox.Qemud.SerialPort

/-!
# Reception on the serial port

`nextFrame` takes one frame off a whole stream.  The loop of
`serial_fd_receive`, which keeps its place between two calls, agrees with it
for every way of cutting the stream into reads.
-/

namespace Anbox.Qemud.SerialReception

open Anbox.Foundation.Framing
open Anbox.Qemud.SerialPort

/-! ## Frames of a stream -/

/-- What a frame of the stream comes to. -/
inductive Received where
  | packet (packet : Packet)
  | ignored
  | overrun
deriving DecidableEq, Repr

/-- The packets that are posted for a frame. -/
def posted : Received → List Packet
  | .packet packet => [packet]
  | .ignored => []
  | .overrun => []

/-- The packet a payload makes; nobody has a negative channel. -/
def arrival (header payload : List UInt8) : Received :=
  if addressed header < 0 then .ignored
  else .packet ⟨addressed header, payload⟩

/--
The first frame.  A header without a size stands for itself, and a payload runs
over as soon as more of it is there than a packet has room for.
-/
def nextFrame (input : List UInt8) : Option (Received × List UInt8) :=
  let header := input.take headerSize
  let payload := input.drop headerSize
  if input.length < headerSize then none
  else if announced header = 0 then some (.ignored, payload)
  else if maxPayload < min (announced header) payload.length then
    some (.overrun, payload.drop (maxPayload + 1))
  else if payload.length < announced header then none
  else
    some (arrival header (payload.take (announced header)),
      payload.drop (announced header))

/-- A header in front of some of its payload. -/
theorem nextFrame_append {header : List UInt8}
    (complete : header.length = headerSize) (payload : List UInt8) :
    nextFrame (header ++ payload) =
      if announced header = 0 then some (.ignored, payload)
      else if maxPayload < min (announced header) payload.length then
        some (.overrun, payload.drop (maxPayload + 1))
      else if payload.length < announced header then none
      else
        some (arrival header (payload.take (announced header)),
          payload.drop (announced header)) := by
  have long : ¬(header ++ payload).length < headerSize := by
    rw [List.length_append]
    omega
  have front : (header ++ payload).take headerSize = header := by
    rw [← complete, List.take_left]
  have behind : (header ++ payload).drop headerSize = payload := by
    rw [← complete, List.drop_left]
  simp only [nextFrame, if_neg long, front, behind]

/-- An input with a header is its header and what is behind it. -/
theorem exists_header {input : List UInt8}
    (long : ¬input.length < headerSize) :
    ∃ header payload, header.length = headerSize ∧
      input = header ++ payload := by
  refine ⟨input.take headerSize, input.drop headerSize, ?_, ?_⟩
  · rw [List.length_take]
    omega
  · rw [List.take_append_drop]

theorem nextFrame_shorter {input rest : List UInt8} {frame : Received}
    (recognised : nextFrame input = some (frame, rest)) :
    rest.length < input.length := by
  by_cases short : input.length < headerSize
  · simp [nextFrame, short] at recognised
  · obtain ⟨header, payload, complete, rfl⟩ := exists_header short
    have positive : 0 < header.length := by
      rw [complete]
      decide
    rw [nextFrame_append complete] at recognised
    rw [List.length_append]
    split at recognised
    · cases recognised
      omega
    · split at recognised
      · cases recognised
        rw [List.length_drop]
        omega
      · split at recognised
        · cases recognised
        · cases recognised
          rw [List.length_drop]
          omega

theorem nextFrame_stable {input rest : List UInt8} {frame : Received}
    (more : List UInt8)
    (recognised : nextFrame input = some (frame, rest)) :
    nextFrame (input ++ more) = some (frame, rest ++ more) := by
  by_cases short : input.length < headerSize
  · simp [nextFrame, short] at recognised
  · obtain ⟨header, payload, complete, rfl⟩ := exists_header short
    rw [nextFrame_append complete] at recognised
    rw [List.append_assoc, nextFrame_append complete, List.length_append]
    split at recognised
    · next none =>
      cases recognised
      rw [if_pos none]
    · next some =>
      rw [if_neg some]
      split at recognised
      · next overruns =>
        cases recognised
        rw [if_pos (by omega), List.drop_append_of_le_length (by omega)]
      · next fits =>
        split at recognised
        · cases recognised
        · next whole =>
          cases recognised
          rw [if_neg (by omega), if_neg (by omega),
            List.take_append_of_le_length (by omega),
            List.drop_append_of_le_length (by omega)]

/-- Frames of the serial port. -/
def recogniser : Recogniser UInt8 Received where
  next := nextFrame
  shorter := nextFrame_shorter
  stable := nextFrame_stable

/-! ## One turn of the loop -/

/-- The bytes of the stream that the reader has taken but not finished. -/
inductive Represents (serial : Serial) : List UInt8 → Prop
  | header : serial.inDatalen = 0 → Represents serial serial.inPacket
  | payload {header : List UInt8} :
      serial.inDatalen ≠ 0 → header.length = headerSize →
        announced header = serial.inDatalen →
        addressed header = serial.inChannel →
        serial.inPacket.length ≤ maxPayload →
        Represents serial (header ++ serial.inPacket)

/-- How a turn changes what is left of the stream. -/
inductive Turned (input : List UInt8) (turn : Turn) : Prop
  | within {pending : List UInt8} :
      Represents turn.serial pending → turn.posted = [] →
        pending ++ turn.rest = input → Turned input turn
  | frame {pending : List UInt8} (frame : Received) :
      Represents turn.serial pending → turn.posted = posted frame →
        frame ≠ .overrun →
        nextFrame input = some (frame, pending ++ turn.rest) →
        Turned input turn

theorem receiveHeader_spec {serial : Serial} (idle : serial.inDatalen = 0)
    {bytes : List UInt8} (something : bytes ≠ []) :
    (receiveHeader serial bytes).rest.length < bytes.length ∧
      Turned (serial.inPacket ++ bytes) (receiveHeader serial bytes) := by
  have unfinished : serial.inPacket.length < headerSize := by
    simpa [idle] using serial.unfinished
  have positive := List.length_pos_of_ne_nil something
  set avail := min bytes.length (headerSize - serial.inPacket.length)
    with availEq
  have joined :
      (serial.inPacket ++ bytes.take avail) ++ bytes.drop avail =
        serial.inPacket ++ bytes := by
    rw [List.append_assoc, List.take_append_drop]
  have length :
      (serial.inPacket ++ bytes.take avail).length =
        serial.inPacket.length + avail := by
    rw [List.length_append, List.length_take]
    omega
  have shorter : (bytes.drop avail).length < bytes.length := by
    rw [List.length_drop]
    omega
  by_cases more :
      (serial.inPacket ++ bytes.take avail).length < headerSize
  · rw [receiveHeader]
    simp only [← availEq, dif_pos more]
    exact ⟨shorter, Turned.within (Represents.header rfl) rfl joined⟩
  · have complete :
        (serial.inPacket ++ bytes.take avail).length = headerSize := by
      omega
    rw [receiveHeader]
    simp only [← availEq, dif_neg more]
    refine ⟨shorter, ?_⟩
    by_cases size : announced (serial.inPacket ++ bytes.take avail) = 0
    · refine Turned.frame .ignored (Represents.header size) rfl nofun ?_
      rw [← joined, nextFrame_append complete, if_pos size]
      rfl
    · refine Turned.within
        (Represents.payload size complete rfl rfl (Nat.zero_le _)) rfl ?_
      rw [List.append_nil]
      exact joined

theorem receivePayload_spec {serial : Serial} {header : List UInt8}
    (begun : serial.inDatalen ≠ 0) (complete : header.length = headerSize)
    (size : announced header = serial.inDatalen)
    (channel : addressed header = serial.inChannel)
    {bytes : List UInt8} (something : bytes ≠ []) :
    match receivePayload serial begun bytes with
    | none =>
        ∃ rest,
          nextFrame (header ++ serial.inPacket ++ bytes) =
            some (.overrun, rest)
    | some turn =>
        turn.rest.length < bytes.length ∧
          Turned (header ++ serial.inPacket ++ bytes) turn := by
  have unfinished : serial.inPacket.length < serial.inDatalen := by
    simpa [begun] using serial.unfinished
  have positive := List.length_pos_of_ne_nil something
  set avail := min bytes.length (serial.inDatalen - serial.inPacket.length)
    with availEq
  have joined :
      (serial.inPacket ++ bytes.take avail) ++ bytes.drop avail =
        serial.inPacket ++ bytes := by
    rw [List.append_assoc, List.take_append_drop]
  have length :
      (serial.inPacket ++ bytes.take avail).length =
        serial.inPacket.length + avail := by
    rw [List.length_append, List.length_take]
    omega
  have shorter : (bytes.drop avail).length < bytes.length := by
    rw [List.length_drop]
    omega
  have frames := nextFrame_append complete (serial.inPacket ++ bytes)
  rw [← List.append_assoc, size, if_neg begun, List.length_append] at frames
  rw [receivePayload]
  simp only [← availEq]
  split
  · next result overruns =>
    split at overruns
    · next past =>
      rw [if_pos (by omega)] at frames
      exact ⟨_, frames⟩
    · split at overruns <;> cases overruns
  · next result turn ended =>
    split at ended
    · cases ended
    · next inside =>
      rw [if_neg (by omega)] at frames
      split at ended
      · next more =>
        cases ended
        refine ⟨shorter, Turned.within
          (Represents.payload begun complete size channel ?_) rfl ?_⟩
        · show (serial.inPacket ++ bytes.take avail).length ≤ maxPayload
          omega
        · show header ++ (serial.inPacket ++ bytes.take avail) ++
            bytes.drop avail = _
          rw [List.append_assoc, joined, List.append_assoc]
      · next more =>
        cases ended
        have whole : serial.inPacket.length + avail = serial.inDatalen := by
          omega
        refine ⟨shorter, Turned.frame
          (arrival header (serial.inPacket ++ bytes.take avail))
          (Represents.header rfl) ?_ ?_ ?_⟩
        · rw [arrival, channel]
          split <;> rfl
        · rw [arrival]
          split <;> nofun
        · rw [if_neg (by omega)] at frames
          rw [frames, ← joined,
            List.take_left' (by omega), List.drop_left' (by omega)]
          rfl

/-! ## The loop -/

/-- The packets a stream brings in, or `none` if a packet runs over. -/
def outcome (frames : List Received) : Option (List Packet) :=
  if .overrun ∈ frames then none else some (frames.flatMap posted)

/-- What a reader has made of a stream. -/
inductive Made (input : List UInt8) : Option (Serial × List Packet) → Prop
  | overruns :
      Received.overrun ∈ (recogniser.decode input).1 → Made input none
  | done {serial : Serial} :
      Received.overrun ∉ (recogniser.decode input).1 →
        Represents serial (recogniser.decode input).2 →
        Made input
          (some (serial, (recogniser.decode input).1.flatMap posted))

/-- What the reader keeps is not a whole frame. -/
theorem nextFrame_of_represents {serial : Serial} {pending : List UInt8}
    (represents : Represents serial pending) : nextFrame pending = none := by
  have unfinished := serial.unfinished
  cases represents with
  | header idle =>
      rw [if_pos idle] at unfinished
      simp [nextFrame, unfinished]
  | payload begun complete size channel room =>
      rw [if_neg begun] at unfinished
      rw [nextFrame_append complete, size, if_neg begun, if_neg (by omega),
        if_pos unfinished]

theorem made_of_represents {serial : Serial} {pending : List UInt8}
    (represents : Represents serial pending) :
    Made (pending ++ []) (some (serial, [])) := by
  have decoded : recogniser.decode pending = ([], pending) :=
    Recogniser.decode_of_none (nextFrame_of_represents represents)
  rw [List.append_nil]
  have made : Made pending
      (some (serial, (recogniser.decode pending).1.flatMap posted)) := by
    refine Made.done ?_ ?_
    · rw [decoded]
      exact List.not_mem_nil
    · rwa [decoded]
  rwa [decoded] at made

/-- A frame that is done is the first one of the stream. -/
theorem Made.cons {input rest : List UInt8} {frame : Received}
    {result : Option (Serial × List Packet)} (made : Made rest result)
    (sound : frame ≠ .overrun)
    (recognised : nextFrame input = some (frame, rest)) :
    Made input
      (result.map fun later => (later.1, posted frame ++ later.2)) := by
  have whole : recogniser.decode input =
      (frame :: (recogniser.decode rest).1, (recogniser.decode rest).2) :=
    Recogniser.decode_of_some recognised
  cases made with
  | overruns member =>
      refine Made.overruns ?_
      rw [whole]
      exact List.mem_cons_of_mem frame member
  | done notOver represents =>
      rw [Option.map_some]
      have posts :
          posted frame ++ (recogniser.decode rest).1.flatMap posted =
            (recogniser.decode input).1.flatMap posted := by
        rw [whole, List.flatMap_cons]
      rw [posts]
      refine Made.done ?_ ?_
      · rw [whole, List.mem_cons]
        rintro (same | later)
        · exact sound same.symm
        · exact notOver later
      · rwa [whole]

theorem receiveTurn_spec {serial : Serial} {pending bytes : List UInt8}
    (represents : Represents serial pending) (something : bytes ≠ []) :
    match receiveTurn serial bytes with
    | none => ∃ rest, nextFrame (pending ++ bytes) = some (.overrun, rest)
    | some turn =>
        turn.rest.length < bytes.length ∧ Turned (pending ++ bytes) turn := by
  cases represents with
  | header idle =>
      rw [receiveTurn, dif_neg (not_not.mpr idle)]
      exact receiveHeader_spec idle something
  | payload begun complete size channel room =>
      rw [receiveTurn, dif_pos begun]
      exact receivePayload_spec begun complete size channel something

/-- What is made of the rest of a stream is made of the stream. -/
theorem Made.append {input more : List UInt8}
    {result : Option (Serial × List Packet)}
    {next : Serial → Option (Serial × List Packet)}
    (made : Made input result)
    (later :
      ∀ serial, Represents serial (recogniser.decode input).2 →
        Made ((recogniser.decode input).2 ++ more) (next serial)) :
    Made (input ++ more)
      (result.bind fun first =>
        (next first.1).map fun later => (later.1, first.2 ++ later.2)) := by
  have split := recogniser.decode_append input more
  cases made with
  | overruns member =>
      refine Made.overruns ?_
      rw [split]
      exact List.mem_append_left _ member
  | done notOver represents =>
      rw [Option.bind_some]
      have rest := later _ represents
      revert rest
      cases next _ with
      | none =>
          rintro (member | _)
          refine Made.overruns ?_
          rw [split]
          exact List.mem_append_right _ member
      | some final =>
          rintro (_ | @⟨serial, notOver', represents'⟩)
          rw [Option.map_some]
          have posts :
              (recogniser.decode input).1.flatMap posted ++
                  (recogniser.decode
                    ((recogniser.decode input).2 ++ more)).1.flatMap posted =
                (recogniser.decode (input ++ more)).1.flatMap posted := by
            rw [split, List.flatMap_append]
          rw [posts]
          refine Made.done ?_ ?_
          · rw [split, List.mem_append]
            rintro (member | member)
            · exact notOver member
            · exact notOver' member
          · rwa [split]

theorem serialFdReceiveFuel_cons {serial : Serial} {byte : UInt8}
    {bytes : List UInt8} {turn : Turn}
    (taken : receiveTurn serial (byte :: bytes) = some turn) (fuel : Nat) :
    serialFdReceiveFuel (fuel + 1) serial (byte :: bytes) =
      (serialFdReceiveFuel fuel turn.serial turn.rest).map fun later =>
        (later.1, turn.posted ++ later.2) := by
  rw [serialFdReceiveFuel, taken]
  exact Option.map_eq_bind.symm

/-- A call with any bytes goes on with the stream where the last one ended. -/
theorem serialFdReceiveFuel_made {fuel : Nat} {serial : Serial}
    {pending bytes : List UInt8} (represents : Represents serial pending)
    (enough : bytes.length ≤ fuel) :
    Made (pending ++ bytes) (serialFdReceiveFuel fuel serial bytes) := by
  induction fuel generalizing serial pending bytes with
  | zero =>
      obtain rfl := List.length_eq_zero_iff.mp (Nat.le_zero.mp enough)
      exact made_of_represents represents
  | succ fuel inductionHypothesis =>
      cases bytes with
      | nil => exact made_of_represents represents
      | cons byte bytes =>
          have turned :=
            receiveTurn_spec represents (List.cons_ne_nil byte bytes)
          cases taken : receiveTurn serial (byte :: bytes) with
          | none =>
              rw [taken] at turned
              rcases turned with ⟨rest, overruns⟩
              have failed :
                  serialFdReceiveFuel (fuel + 1) serial (byte :: bytes) =
                    none := by
                rw [serialFdReceiveFuel, taken]
                rfl
              have whole :
                  recogniser.decode (pending ++ byte :: bytes) =
                    (.overrun :: (recogniser.decode rest).1,
                      (recogniser.decode rest).2) :=
                Recogniser.decode_of_some overruns
              rw [failed]
              refine Made.overruns ?_
              rw [whole]
              exact List.mem_cons_self
          | some turn =>
              rw [taken] at turned
              rcases turned with ⟨shorter, turned⟩
              have less : turn.rest.length ≤ fuel := by
                rw [List.length_cons] at shorter enough
                omega
              rw [serialFdReceiveFuel_cons taken]
              cases turned with
              | within represents none same =>
                  have made := inductionHypothesis represents less
                  rw [same] at made
                  simpa [none] using made
              | frame frame represents posts sound recognised =>
                  rw [posts]
                  exact (inductionHypothesis represents less).cons sound
                    recognised

/-- One call after another goes on with the stream. -/
theorem receiveAll_made {serial : Serial} {pending : List UInt8}
    (represents : Represents serial pending) (chunks : List (List UInt8)) :
    Made (pending ++ chunks.flatten) (receiveAll serial chunks) := by
  induction chunks generalizing serial pending with
  | nil => exact made_of_represents represents
  | cons chunk chunks inductionHypothesis =>
      have first :
          Made (pending ++ chunk) (serialFdReceive serial chunk) :=
        serialFdReceiveFuel_made represents (Nat.le_refl _)
      have both := first.append fun serial represents =>
        inductionHypothesis represents
      rw [List.append_assoc, ← List.flatten_cons] at both
      rw [receiveAll]
      simp only [Option.map_eq_bind] at both
      exact both

/-- What a new reader makes of a stream, however it is cut into reads. -/
theorem receiveAll_initial_made (chunks : List (List UInt8)) :
    Made chunks.flatten (receiveAll Serial.initial chunks) :=
  @receiveAll_made Serial.initial [] (Represents.header rfl) chunks

theorem Made.outcome_eq {input : List UInt8}
    {result : Option (Serial × List Packet)} (made : Made input result) :
    result.map Prod.snd = outcome (recogniser.decode input).1 := by
  cases made with
  | overruns member => rw [outcome, if_pos member, Option.map_none]
  | done notOver _ => rw [outcome, if_neg notOver, Option.map_some]

/-- The packets that are posted depend on the stream only. -/
theorem receiveAll_outcome (chunks : List (List UInt8)) :
    (receiveAll Serial.initial chunks).map Prod.snd =
      outcome (recogniser.decode chunks.flatten).1 :=
  (receiveAll_initial_made chunks).outcome_eq

/--
However a stream is cut into reads, the packets are those of a single read, and
a copy runs past a packet in both cases or in none.
-/
theorem receiveAll_eq_single (chunks : List (List UInt8)) :
    (receiveAll Serial.initial chunks).map Prod.snd =
      (serialFdReceive Serial.initial chunks.flatten).map Prod.snd := by
  have single :
      Made ([] ++ chunks.flatten)
        (serialFdReceive Serial.initial chunks.flatten) :=
    serialFdReceiveFuel_made
      (@Represents.header Serial.initial rfl) (Nat.le_refl _)
  exact (receiveAll_outcome chunks).trans single.outcome_eq.symm

/-! ## Streams of whole frames -/

/-- A header with a payload of the size it announces. -/
structure Frame where
  header : List UInt8
  payload : List UInt8
  complete : header.length = headerSize
  sized : payload.length = announced header

/-- The frame on the port. -/
def Frame.bytes (frame : Frame) : List UInt8 := frame.header ++ frame.payload

/-- The packets that are posted for a frame if it has room. -/
def Frame.packets (frame : Frame) : List Packet :=
  if frame.payload = [] then []
  else posted (arrival frame.header frame.payload)

theorem arrival_ne_overrun (header payload : List UInt8) :
    arrival header payload ≠ .overrun := by
  rw [arrival]
  split <;> nofun

/-- A frame with room in front of a stream. -/
theorem outcome_decode_cons {frame : Frame}
    (room : frame.payload.length ≤ maxPayload) (rest : List UInt8) :
    outcome (recogniser.decode (frame.bytes ++ rest)).1 =
      (outcome (recogniser.decode rest).1).map (frame.packets ++ ·) := by
  have step : ∃ found,
      nextFrame (frame.bytes ++ rest) = some (found, rest) ∧
        found ≠ .overrun ∧ posted found = frame.packets := by
    rw [Frame.bytes, List.append_assoc, nextFrame_append frame.complete,
      List.length_append, ← frame.sized, Frame.packets]
    by_cases empty : frame.payload = []
    · refine ⟨.ignored, ?_, nofun, ?_⟩
      · simp [empty]
      · rw [if_pos empty]
        rfl
    · refine ⟨arrival frame.header frame.payload, ?_,
        arrival_ne_overrun _ _, ?_⟩
      · have positive := List.length_pos_of_ne_nil empty
        rw [if_neg (by omega), if_neg (by omega), if_neg (by omega),
          List.take_left, List.drop_left]
      · rw [if_neg empty]
  rcases step with ⟨found, recognised, sound, posts⟩
  have whole : recogniser.decode (frame.bytes ++ rest) =
      (found :: (recogniser.decode rest).1, (recogniser.decode rest).2) :=
    Recogniser.decode_of_some recognised
  rw [whole, outcome, outcome]
  by_cases overruns : .overrun ∈ (recogniser.decode rest).1
  · rw [if_pos overruns, if_pos (List.mem_cons_of_mem found overruns),
      Option.map_none]
  · have none : .overrun ∉ found :: (recogniser.decode rest).1 := by
      rw [List.mem_cons]
      rintro (same | later)
      · exact sound same.symm
      · exact overruns later
    rw [if_neg overruns, if_neg none, List.flatMap_cons, posts, Option.map_some]

/-- A frame without room in front of a stream. -/
theorem outcome_decode_overruns {frame : Frame}
    (large : maxPayload < frame.payload.length) (rest : List UInt8) :
    outcome (recogniser.decode (frame.bytes ++ rest)).1 = none := by
  have recognised :
      nextFrame (frame.bytes ++ rest) =
        some (.overrun,
          (frame.payload ++ rest).drop (maxPayload + 1)) := by
    rw [Frame.bytes, List.append_assoc, nextFrame_append frame.complete,
      List.length_append, ← frame.sized, if_neg (by omega),
      if_pos (by omega)]
  have whole := @Recogniser.decode_of_some _ _ recogniser _ _ _ recognised
  rw [whole, outcome, if_pos List.mem_cons_self]

/--
A stream of whole frames, however it is cut: a copy runs past a packet if and
only if one of the frames announces more than a packet has room for, and
otherwise the packets are posted one by one.
-/
theorem receiveAll_frames (frames : List Frame)
    (chunks : List (List UInt8))
    (cut : chunks.flatten = frames.flatMap Frame.bytes) :
    (receiveAll Serial.initial chunks = none ↔
        ∃ frame ∈ frames, maxPayload < frame.payload.length) ∧
      ((∀ frame ∈ frames, frame.payload.length ≤ maxPayload) →
        (receiveAll Serial.initial chunks).map Prod.snd =
          some (frames.flatMap Frame.packets)) := by
  have result := receiveAll_outcome chunks
  rw [cut] at result
  have fails : receiveAll Serial.initial chunks = none ↔
      (receiveAll Serial.initial chunks).map Prod.snd = none :=
    Option.map_eq_none_iff.symm
  rw [fails, result]
  clear fails result cut
  induction frames with
  | nil =>
      have empty : recogniser.decode [] = ([], []) := rfl
      simp [empty, outcome]
  | cons frame frames inductionHypothesis =>
      rcases inductionHypothesis with ⟨overruns, delivers⟩
      rw [List.flatMap_cons, List.flatMap_cons, List.exists_mem_cons_iff,
        List.forall_mem_cons]
      by_cases large : maxPayload < frame.payload.length
      · rw [outcome_decode_overruns large]
        refine ⟨by simp [large], ?_⟩
        rintro ⟨room, -⟩
        omega
      · rw [outcome_decode_cons (Nat.le_of_not_lt large),
          Option.map_eq_none_iff, overruns]
        refine ⟨by simp [large], ?_⟩
        rintro ⟨-, rooms⟩
        rw [delivers rooms, Option.map_some]

/-- A frame whose header names no channel. -/
def strayFrame : Frame :=
  ⟨[0x78, 0x78, 0x30, 0x30, 0x30, 0x32], [0x68, 0x69], by decide, by decide⟩

/-- A frame of two bytes for channel 1. -/
def channelFrame : Frame :=
  ⟨[0x30, 0x31, 0x30, 0x30, 0x30, 0x32], [0x68, 0x69], by decide, by decide⟩

/-- Two frames in three reads, the first of which is ignored. -/
theorem receiveAll_frames_three_reads :
    (receiveAll Serial.initial
        [[0x78, 0x78, 0x30],
          [0x30, 0x30, 0x32, 0x68, 0x69, 0x30, 0x31, 0x30, 0x30],
          [0x30, 0x32, 0x68, 0x69]]).map Prod.snd =
      some [⟨1, [0x68, 0x69]⟩] := by
  have packets : [strayFrame, channelFrame].flatMap Frame.packets =
      [⟨1, [0x68, 0x69]⟩] := by decide
  rw [← packets]
  exact (receiveAll_frames [strayFrame, channelFrame]
    [[0x78, 0x78, 0x30],
      [0x30, 0x30, 0x32, 0x68, 0x69, 0x30, 0x31, 0x30, 0x30],
      [0x30, 0x32, 0x68, 0x69]] (by decide)).2 (by decide)

/-! ## What was sent -/

/-- A packet that the daemon sends has a payload and fits. -/
def Sendable (packet : Packet) : Prop :=
  packet.data ≠ [] ∧ packet.data.length ≤ maxPayload

/-- A header has two digits for the channel. -/
def onWire (packet : Packet) : Packet :=
  ⟨packet.channel % 16 ^ channelSize, packet.data⟩

theorem header_serialSend (packet : Packet) :
    announced
        (int2hex packet.channel channelSize ++
          int2hex packet.data.length lengthSize) =
          packet.data.length % 16 ^ lengthSize ∧
      addressed
        (int2hex packet.channel channelSize ++
          int2hex packet.data.length lengthSize) =
          packet.channel % 16 ^ channelSize := by
  have channelWidth := length_int2hex packet.channel channelSize
  have lengthWidth := length_int2hex packet.data.length lengthSize
  constructor
  · have behind : lengthOffset = channelSize := rfl
    rw [announced, behind, List.drop_left' channelWidth,
      List.take_of_length_le lengthWidth.le, hex2int_int2hex]
    rfl
  · rw [addressed, channelOffset, List.drop_zero,
      List.take_left' channelWidth, hex2int_int2hex]

/-- The frame that `serial_send` makes of a packet. -/
def sentFrame (packet : Packet) (sendable : Sendable packet) : Frame where
  header :=
    int2hex packet.channel channelSize ++
      int2hex packet.data.length lengthSize
  payload := packet.data
  complete := by
    rw [List.length_append, length_int2hex, length_int2hex]
    rfl
  sized := by
    have room := sendable.2
    rw [(header_serialSend packet).1, lengthSize, Nat.mod_eq_of_lt]
    rw [maxPayload] at room
    omega

theorem sentFrame_packets (packet : Packet) (sendable : Sendable packet) :
    (sentFrame packet sendable).packets = [onWire packet] := by
  have channel :
      addressed (sentFrame packet sendable).header =
        packet.channel % 16 ^ channelSize :=
    (header_serialSend packet).2
  have nonneg : ¬packet.channel % 16 ^ channelSize < 0 :=
    Int.not_lt.mpr (Int.emod_nonneg _ (by decide))
  have something : (sentFrame packet sendable).payload ≠ [] := sendable.1
  rw [Frame.packets, if_neg something, arrival, channel, if_neg nonneg]
  rfl

theorem sentFrame_bytes (packet : Packet) (sendable : Sendable packet) :
    (sentFrame packet sendable).bytes = (serialSend packet).flatten := by
  rw [Frame.bytes, serialSend, List.flatten_cons, List.flatten_cons,
    List.flatten_nil, List.append_nil]
  rfl

/-- Nothing is recognised in a frame that is still under way. -/
theorem nextFrame_part {frame : Frame}
    (room : frame.payload.length ≤ maxPayload) {part : List UInt8}
    (isPrefix : part <+: frame.bytes) (proper : part ≠ frame.bytes) :
    nextFrame part = none := by
  by_cases short : part.length < headerSize
  · rw [nextFrame]
    exact if_pos short
  · have atFront : frame.header <+: part :=
      List.prefix_of_prefix_length_le (List.prefix_append _ _) isPrefix
        (by rw [frame.complete]; omega)
    rcases atFront with ⟨payload, rfl⟩
    rw [Frame.bytes] at isPrefix proper
    have inside : payload <+: frame.payload :=
      (List.prefix_append_right_inj frame.header).mp isPrefix
    have less : payload.length < frame.payload.length := by
      refine Nat.lt_of_le_of_ne inside.length_le ?_
      intro same
      exact proper (congrArg _ (inside.eq_of_length same))
    rw [nextFrame_append frame.complete, ← frame.sized, if_neg (by omega),
      if_neg (by omega), if_pos less]

/--
What `serial_send` has written is received, packet by packet, however it is cut
into reads and whatever part of the next packet has arrived.
-/
theorem receiveAll_serialSend (packets : List Packet) (next : Packet)
    (sendable : ∀ packet ∈ next :: packets, Sendable packet)
    (part : List UInt8) (isPrefix : part <+: (serialSend next).flatten)
    (proper : part ≠ (serialSend next).flatten)
    (chunks : List (List UInt8))
    (cut :
      chunks.flatten =
        packets.flatMap (fun packet => (serialSend packet).flatten) ++
          part) :
    (receiveAll Serial.initial chunks).map Prod.snd =
      some (packets.map onWire) := by
  rw [receiveAll_outcome, cut]
  rcases List.forall_mem_cons.mp sendable with ⟨nextSendable, allSendable⟩
  clear cut sendable
  induction packets with
  | nil =>
      rw [← sentFrame_bytes next nextSendable] at isPrefix proper
      have none : nextFrame part = none :=
        @nextFrame_part (sentFrame next nextSendable) nextSendable.2 part
          isPrefix proper
      have whole : recogniser.decode part = ([], part) :=
        Recogniser.decode_of_none none
      rw [List.flatMap_nil, List.nil_append, whole]
      rfl
  | cons packet packets inductionHypothesis =>
      rcases List.forall_mem_cons.mp allSendable with ⟨first, others⟩
      rw [List.flatMap_cons, List.append_assoc,
        ← sentFrame_bytes packet first,
        @outcome_decode_cons (sentFrame packet first) first.2,
        inductionHypothesis others, sentFrame_packets]
      rfl

/-- A packet is received although the next one has only begun. -/
theorem receiveAll_serialSend_begun :
    (receiveAll Serial.initial
        [[0x30, 0x31, 0x30], [0x30, 0x30, 0x31, 0x68, 0x30]]).map
          Prod.snd = some [⟨1, [0x68]⟩] :=
  receiveAll_serialSend [⟨1, [0x68]⟩] ⟨2, [0x69]⟩
    (by simp [Sendable, maxPayload])
    [0x30] (by decide) (by decide)
    [[0x30, 0x31, 0x30], [0x30, 0x30, 0x31, 0x68, 0x30]] (by decide)

end Anbox.Qemud.SerialReception
