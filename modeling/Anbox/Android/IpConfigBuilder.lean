import Anbox.Foundation.ByteFields

/-!
# The network configuration for Android

`LxcContainer::setup_network` writes the address of the container, its gateway
and its DNS servers to a file that Android reads when it starts.  The file is
a version and then records, each behind its key.  `IpConfigBuilder::write`
puts the servers behind one key.  Android takes one text behind each key.
-/

namespace Anbox.Android.IpConfigBuilder

open Anbox.Foundation.ByteFields

/-! ## The writer -/

inductive Order where
  | big
  | little
deriving DecidableEq, Repr

/-- What is in front of `current_`, and how much room there is behind it. -/
structure BinaryWriter where
  written : Bytes
  room : Nat
  byteOrder : Order
deriving DecidableEq, Repr

/-- A writer on a buffer, with the byte order of the machine. -/
def BinaryWriter.initial (native : Order) (capacity : Nat) : BinaryWriter :=
  ⟨[], capacity, native⟩

def BinaryWriter.setByteOrder (writer : BinaryWriter) (order : Order) :
    BinaryWriter :=
  { writer with byteOrder := order }

/-- `memcpy` behind `current_`, unless the buffer is exhausted. -/
def BinaryWriter.copy (writer : BinaryWriter) (bytes : Bytes) :
    Except String BinaryWriter :=
  if writer.room < bytes.length then .error "Write buffer exhausted"
  else
    .ok
      { writer with
        written := writer.written ++ bytes
        room := writer.room - bytes.length }

/-- The bytes of a number in the order of the writer. -/
def BinaryWriter.ordered (writer : BinaryWriter) (bytes : Bytes) : Bytes :=
  match writer.byteOrder with
  | .big => bytes
  | .little => bytes.reverse

def writeUint16 (value : UInt16) (writer : BinaryWriter) :
    Except String BinaryWriter :=
  writer.copy (writer.ordered (bytes16 value))

def writeUint32 (value : UInt32) (writer : BinaryWriter) :
    Except String BinaryWriter :=
  writer.copy (writer.ordered (bytes32 value))

def writeString (text : Bytes) (writer : BinaryWriter) :
    Except String BinaryWriter :=
  writer.copy text

def writeStringWithSize (text : Bytes) (writer : BinaryWriter) :
    Except String BinaryWriter := do
  let writer ← writeUint16 (UInt16.ofNat text.length) writer
  writeString text writer

/-! ## The builder -/

/-- The bytes of a text that has only ASCII characters. -/
def ascii (text : String) : Bytes :=
  text.toList.map fun character => UInt8.ofNat character.toNat

def assignmentKey : Bytes := ascii "ipAssignment"
def linkAddressKey : Bytes := ascii "linkAddress"
def gatewayKey : Bytes := ascii "gateway"
def dnsKey : Bytes := ascii "dns"
def idKey : Bytes := ascii "id"
def eosKey : Bytes := ascii "eos"

def isDefaultGateway : UInt32 := 0
def gatewayIsPresent : UInt32 := 1

inductive Version where
  | version1
  | version2
deriving DecidableEq, Repr

def Version.toUInt32 : Version → UInt32
  | .version1 => 1
  | .version2 => 2

inductive Assignment where
  | static
  | dhcp
deriving DecidableEq, Repr

/-- No assignment is left for the text `UNKNOWN`. -/
def assignmentToString : Assignment → Bytes
  | .static => ascii "STATIC"
  | .dhcp => ascii "DHCP"

/-- The members of an `IpConfigBuilder`. -/
structure Builder where
  version : Version
  assignment : Assignment
  address : Bytes
  prefixLength : UInt32
  gateway : Bytes
  dnsServers : List Bytes
  id : UInt32
deriving DecidableEq, Repr

/-- The writer that `write` leaves behind; what is returned is how much. -/
def write (builder : Builder) (writer : BinaryWriter) :
    Except String BinaryWriter := do
  let writer ←
    writeUint32 builder.version.toUInt32 (writer.setByteOrder .big)
  let writer ← writeStringWithSize assignmentKey writer
  let writer ←
    writeStringWithSize (assignmentToString builder.assignment) writer
  let writer ← writeStringWithSize linkAddressKey writer
  let writer ← writeStringWithSize builder.address writer
  let writer ← writeUint32 builder.prefixLength writer
  let writer ← writeStringWithSize gatewayKey writer
  let writer ← writeUint32 isDefaultGateway writer
  let writer ← writeUint32 gatewayIsPresent writer
  let writer ← writeStringWithSize builder.gateway writer
  let writer ← writeStringWithSize dnsKey writer
  let writer ←
    builder.dnsServers.foldlM
      (fun writer server => writeStringWithSize server writer) writer
  let writer ← writeStringWithSize idKey writer
  let writer ← writeUint32 builder.id writer
  writeStringWithSize eosKey writer

/-! ## What Android reads -/

/-- What the records of a file say. -/
structure Stored where
  version : UInt32
  assignment : Option Bytes
  linkAddress : Option (Bytes × UInt32)
  gateway : Option Bytes
  dnsServers : List Bytes
  id : Option UInt32
deriving DecidableEq, Repr

/-- One record behind its key.  An unknown key is an error or is skipped. -/
def readRecord (skips : Bool) (key : Bytes) (stored : Stored)
    (bytes : Bytes) : Option (Stored × Bytes) :=
  if key = assignmentKey then do
    let (assignment, rest) ← readText bytes
    some ({ stored with assignment := some assignment }, rest)
  else if key = linkAddressKey then do
    let (address, rest) ← readText bytes
    let (prefixLength, rest) ← read32 rest
    some ({ stored with linkAddress := some (address, prefixLength) }, rest)
  else if key = gatewayKey then do
    let (_, rest) ← read32 bytes
    let (_, rest) ← read32 rest
    let (gateway, rest) ← readText rest
    some ({ stored with gateway := some gateway }, rest)
  else if key = dnsKey then do
    let (server, rest) ← readText bytes
    some ({ stored with dnsServers := stored.dnsServers ++ [server] }, rest)
  else if key = idKey then do
    let (id, rest) ← read32 bytes
    some ({ stored with id := some id }, rest)
  else if skips then some (stored, bytes)
  else none

/-- Records until the last key; each has at least the length of its key. -/
def readRecords (skips : Bool) : Nat → Stored → Bytes → Option Stored
  | 0, _, _ => none
  | fuel + 1, stored, bytes => do
      let (key, rest) ← readText bytes
      if key = eosKey then some stored
      else
        let (next, rest) ← readRecord skips key stored rest
        readRecords skips fuel next rest

def readStore (skips : Bool) (bytes : Bytes) : Option Stored := do
  let (version, rest) ← read32 bytes
  readRecords skips rest.length ⟨version, none, none, none, [], none⟩ rest

/-- What the file is meant to say. -/
def Builder.stored (builder : Builder) : Stored :=
  { version := builder.version.toUInt32
    assignment := some (assignmentToString builder.assignment)
    linkAddress := some (builder.address, builder.prefixLength)
    gateway := some builder.gateway
    dnsServers := builder.dnsServers
    id := some builder.id }

/-! ## The bytes of a file -/

def Builder.settingsBytes (builder : Builder) : Bytes :=
  textBytes assignmentKey ++
    (textBytes (assignmentToString builder.assignment) ++
      (textBytes linkAddressKey ++
        (textBytes builder.address ++
          (bytes32 builder.prefixLength ++
            (textBytes gatewayKey ++
              (bytes32 isDefaultGateway ++
                (bytes32 gatewayIsPresent ++ textBytes builder.gateway)))))))

def Builder.serversBytes (builder : Builder) : Bytes :=
  textBytes dnsKey ++ builder.dnsServers.flatMap textBytes

def Builder.endBytes (builder : Builder) : Bytes :=
  textBytes idKey ++ (bytes32 builder.id ++ textBytes eosKey)

def Builder.bytes (builder : Builder) : Bytes :=
  bytes32 builder.version.toUInt32 ++
    (builder.settingsBytes ++ (builder.serversBytes ++ builder.endBytes))

/-- A step of the writer that writes these bytes if there is room for them. -/
def Writes (action : BinaryWriter → Except String BinaryWriter)
    (bytes : Bytes) : Prop :=
  ∀ writer, writer.byteOrder = .big → bytes.length ≤ writer.room →
    action writer =
      .ok
        { writer with
          written := writer.written ++ bytes
          room := writer.room - bytes.length }

theorem Writes.bind
    {first second : BinaryWriter → Except String BinaryWriter}
    {bytes more : Bytes} (before : Writes first bytes)
    (behind : Writes second more) :
    Writes (fun writer => first writer >>= second) (bytes ++ more) := by
  intro writer big enough
  rw [List.length_append] at enough
  have rest : more.length ≤ writer.room - bytes.length := by omega
  have later :=
    behind
      { writer with
        written := writer.written ++ bytes
        room := writer.room - bytes.length } big rest
  rw [List.append_assoc, Nat.sub_sub, ← List.length_append] at later
  simp only [before writer big (by omega)]
  exact later

theorem Writes.copy (bytes : Bytes) :
    Writes (fun writer => writer.copy bytes) bytes := by
  intro writer _ enough
  exact if_neg (Nat.not_lt.mpr enough)

theorem BinaryWriter.ordered_of_big {writer : BinaryWriter}
    (big : writer.byteOrder = .big) (bytes : Bytes) :
    writer.ordered bytes = bytes := by
  unfold BinaryWriter.ordered
  rw [big]

theorem writes_uint16 (value : UInt16) :
    Writes (writeUint16 value) (bytes16 value) := by
  intro writer big enough
  rw [writeUint16, writer.ordered_of_big big]
  exact Writes.copy _ writer big enough

theorem writes_uint32 (value : UInt32) :
    Writes (writeUint32 value) (bytes32 value) := by
  intro writer big enough
  rw [writeUint32, writer.ordered_of_big big]
  exact Writes.copy _ writer big enough

theorem writes_stringWithSize (text : Bytes) :
    Writes (writeStringWithSize text) (textBytes text) :=
  (writes_uint16 _).bind (Writes.copy text)

theorem writes_servers (servers : List Bytes) :
    Writes
      (fun writer =>
        servers.foldlM
          (fun writer server => writeStringWithSize server writer) writer)
      (servers.flatMap textBytes) := by
  induction servers with
  | nil =>
      intro writer _ _
      simp [pure, Except.pure]
  | cons server servers inductionHypothesis =>
      exact (writes_stringWithSize server).bind inductionHypothesis

/-- All bytes are written if the buffer is large enough. -/
theorem write_eq (builder : Builder) {writer : BinaryWriter}
    (large : builder.bytes.length ≤ writer.room) :
    write builder writer =
      .ok
        { written := writer.written ++ builder.bytes
          room := writer.room - builder.bytes.length
          byteOrder := .big } := by
  have texts := writes_stringWithSize
  have settings :=
    (texts assignmentKey).bind
      ((texts (assignmentToString builder.assignment)).bind
        ((texts linkAddressKey).bind
          ((texts builder.address).bind
            ((writes_uint32 builder.prefixLength).bind
              ((texts gatewayKey).bind
                ((writes_uint32 isDefaultGateway).bind
                  ((writes_uint32 gatewayIsPresent).bind
                    ((texts builder.gateway).bind
                      ((texts dnsKey).bind
                        ((writes_servers builder.dnsServers).bind
                          ((texts idKey).bind
                            ((writes_uint32 builder.id).bind
                              (texts eosKey)))))))))))))
  have whole := (writes_uint32 builder.version.toUInt32).bind settings
  have written := whole (writer.setByteOrder .big) rfl
  simp only [Builder.bytes, Builder.settingsBytes, Builder.serversBytes,
    Builder.endBytes, List.append_assoc] at large ⊢
  exact written large

/-! ## Reading the records -/

section Records

variable {skips : Bool} {stored : Stored}

theorem readRecords_key {key : Bytes} (short : key.length < 2 ^ 16)
    (notEnd : key ≠ eosKey) (fuel : Nat) (body : Bytes) :
    readRecords skips (fuel + 1) stored (textBytes key ++ body) =
      (readRecord skips key stored body).bind fun (next, rest) =>
        readRecords skips fuel next rest := by
  simp only [readRecords, readText_textBytes short, Option.bind_eq_bind,
    Option.bind_some, if_neg notEnd]

theorem readRecords_end (fuel : Nat) (rest : Bytes) :
    readRecords skips (fuel + 1) stored (textBytes eosKey ++ rest) =
      some stored := by
  have short : eosKey.length < 2 ^ 16 := by decide
  simp [readRecords, readText_textBytes short]

theorem readRecords_assignment {assignment : Bytes}
    (short : assignment.length < 2 ^ 16) (fuel : Nat) (rest : Bytes) :
    readRecords skips (fuel + 1) stored
        (textBytes assignmentKey ++ (textBytes assignment ++ rest)) =
      readRecords skips fuel { stored with assignment := some assignment }
        rest := by
  rw [readRecords_key (by decide) (by decide), readRecord, if_pos rfl,
    readText_textBytes short]
  rfl

theorem readRecords_linkAddress {address : Bytes}
    (short : address.length < 2 ^ 16) (prefixLength : UInt32) (fuel : Nat)
    (rest : Bytes) :
    readRecords skips (fuel + 1) stored
        (textBytes linkAddressKey ++
          (textBytes address ++ (bytes32 prefixLength ++ rest))) =
      readRecords skips fuel
        { stored with linkAddress := some (address, prefixLength) } rest := by
  rw [readRecords_key (by decide) (by decide), readRecord,
    if_neg (by decide), if_pos rfl, readText_textBytes short]
  simp

theorem readRecords_gateway {gateway : Bytes}
    (short : gateway.length < 2 ^ 16) (first second : UInt32) (fuel : Nat)
    (rest : Bytes) :
    readRecords skips (fuel + 1) stored
        (textBytes gatewayKey ++
          (bytes32 first ++
            (bytes32 second ++ (textBytes gateway ++ rest)))) =
      readRecords skips fuel { stored with gateway := some gateway }
        rest := by
  rw [readRecords_key (by decide) (by decide), readRecord,
    if_neg (by decide), if_neg (by decide), if_pos rfl]
  simp [readText_textBytes short]

theorem readRecords_dns {server : Bytes} (short : server.length < 2 ^ 16)
    (fuel : Nat) (rest : Bytes) :
    readRecords skips (fuel + 1) stored
        (textBytes dnsKey ++ (textBytes server ++ rest)) =
      readRecords skips fuel
        { stored with dnsServers := stored.dnsServers ++ [server] }
        rest := by
  rw [readRecords_key (by decide) (by decide), readRecord,
    if_neg (by decide), if_neg (by decide), if_neg (by decide), if_pos rfl,
    readText_textBytes short]
  rfl

theorem readRecords_id (id : UInt32) (fuel : Nat) (rest : Bytes) :
    readRecords skips (fuel + 1) stored
        (textBytes idKey ++ (bytes32 id ++ rest)) =
      readRecords skips fuel { stored with id := some id } rest := by
  rw [readRecords_key (by decide) (by decide), readRecord,
    if_neg (by decide), if_neg (by decide), if_neg (by decide),
    if_neg (by decide), if_pos rfl, read32_bytes32]
  rfl

end Records

/-- All texts have a length of 16 bits. -/
structure Builder.Short (builder : Builder) : Prop where
  address : builder.address.length < 2 ^ 16
  gateway : builder.gateway.length < 2 ^ 16
  servers : ∀ server ∈ builder.dnsServers, server.length < 2 ^ 16

/-- What is known when the key of the servers is read. -/
def Builder.settings (builder : Builder) : Stored :=
  { builder.stored with dnsServers := [], id := none }

theorem readRecords_settings {builder : Builder} (short : builder.Short)
    (skips : Bool) (fuel : Nat) (rest : Bytes) :
    readRecords skips (fuel + 3)
        ⟨builder.version.toUInt32, none, none, none, [], none⟩
        (builder.settingsBytes ++ rest) =
      readRecords skips fuel builder.settings rest := by
  have assignment :
      (assignmentToString builder.assignment).length < 2 ^ 16 := by
    cases builder.assignment with
    | static => decide
    | dhcp => decide
  simp only [Builder.settingsBytes, List.append_assoc]
  rw [readRecords_assignment assignment,
    readRecords_linkAddress short.address,
    readRecords_gateway short.gateway]
  rfl

/-- The settings are read, and then the records behind them. -/
theorem readStore_bytes {builder : Builder} (short : builder.Short)
    (skips : Bool) :
    ∃ fuel, 3 ≤ fuel ∧
      readStore skips builder.bytes =
        readRecords skips fuel builder.settings
          (builder.serversBytes ++ builder.endBytes) := by
  have long : 6 ≤ (builder.settingsBytes ++
      (builder.serversBytes ++ builder.endBytes)).length := by
    simp only [Builder.endBytes, List.length_append, length_textBytes,
      length_bytes32]
    omega
  rcases Nat.exists_eq_add_of_le long with ⟨more, length⟩
  refine ⟨3 + more, Nat.le_add_right 3 more, ?_⟩
  have fuel : 6 + more = 3 + more + 3 := by omega
  rw [readStore, Builder.bytes, read32_bytes32, Option.bind_eq_bind,
    Option.bind_some]
  simp only [length, fuel]
  exact readRecords_settings short skips (3 + more) _

/-! ## How much a file can say

A server that was read has used up its key, its length and its text.  So a
file has room for as many keys as it was given.
-/

/-- The bytes that the servers and the id were read from. -/
def Stored.weight (stored : Stored) : Nat :=
  (stored.dnsServers.map fun server => server.length + 7).sum +
    if stored.id.isSome then 8 else 0

/-- What a record brings about. -/
structure Extends (stored next : Stored) (used : Nat) : Prop where
  servers : stored.dnsServers <+: next.dnsServers
  weight : next.weight ≤ stored.weight + used

theorem Extends.trans {first second third : Stored} {used more : Nat}
    (before : Extends first second used)
    (behind : Extends second third more) :
    Extends first third (used + more) where
  servers := before.servers.trans behind.servers
  weight := by
    have firstWeight := before.weight
    have secondWeight := behind.weight
    omega

/-- A record that is neither a server nor the id. -/
theorem Extends.of_same {stored next : Stored}
    (servers : next.dnsServers = stored.dnsServers)
    (id : next.id = stored.id) (used : Nat) : Extends stored next used where
  servers := servers ▸ List.prefix_rfl
  weight := by
    rw [Stored.weight, Stored.weight, servers, id]
    exact Nat.le_add_right _ used

theorem readRecord_extends {skips : Bool} {key bytes rest : Bytes}
    {stored next : Stored}
    (found : readRecord skips key stored bytes = some (next, rest)) :
    rest.length ≤ bytes.length ∧
      Extends stored next (key.length + 2 + (bytes.length - rest.length)) := by
  unfold readRecord at found
  simp only [Option.bind_eq_bind] at found
  split_ifs at found with isAssignment isLink isGateway isDns isId skipped
  · simp only [Option.bind_eq_some_iff, Option.some.injEq,
      Prod.mk.injEq] at found
    rcases found with ⟨⟨assignment, behind⟩, text, rfl, rfl⟩
    have length := length_of_readText text
    exact ⟨Nat.le.intro length.symm, Extends.of_same (by rfl) (by rfl) _⟩
  · simp only [Option.bind_eq_some_iff, Option.some.injEq,
      Prod.mk.injEq] at found
    rcases found with
      ⟨⟨address, middle⟩, text, ⟨number, behind⟩, word, rfl, rfl⟩
    have length := length_of_readText text
    have wordLength := length_of_read32 word
    refine ⟨?_, Extends.of_same (by rfl) (by rfl) _⟩
    dsimp only at wordLength ⊢
    omega
  · simp only [Option.bind_eq_some_iff, Option.some.injEq,
      Prod.mk.injEq] at found
    rcases found with ⟨⟨first, afterFirst⟩, firstWord,
      ⟨second, afterSecond⟩, secondWord, ⟨gateway, behind⟩, text, rfl, rfl⟩
    have firstLength := length_of_read32 firstWord
    have secondLength := length_of_read32 secondWord
    have length := length_of_readText text
    refine ⟨?_, Extends.of_same (by rfl) (by rfl) _⟩
    dsimp only at firstLength secondLength length ⊢
    omega
  · simp only [Option.bind_eq_some_iff, Option.some.injEq,
      Prod.mk.injEq] at found
    rcases found with ⟨⟨server, behind⟩, text, rfl, rfl⟩
    have length := length_of_readText text
    have keyLength : key.length = 3 := by
      rw [isDns]
      decide
    refine ⟨Nat.le.intro length.symm, List.prefix_append _ _, ?_⟩
    simp only [Stored.weight, List.map_append, List.sum_append,
      List.map_cons, List.map_nil, List.sum_cons, List.sum_nil]
    omega
  · simp only [Option.bind_eq_some_iff, Option.some.injEq,
      Prod.mk.injEq] at found
    rcases found with ⟨⟨id, behind⟩, word, rfl, rfl⟩
    have length := length_of_read32 word
    have keyLength : key.length = 2 := by
      rw [isId]
      decide
    refine ⟨Nat.le.intro length.symm, List.prefix_rfl, ?_⟩
    simp only [Stored.weight, Option.isSome_some, if_true]
    omega
  · cases found
    exact ⟨Nat.le_refl _, Extends.of_same (by rfl) (by rfl) _⟩

/-- All records together use up the bytes, and the last key is one of them. -/
theorem readRecords_extends {skips : Bool} {fuel : Nat} {bytes : Bytes}
    {stored final : Stored}
    (found : readRecords skips fuel stored bytes = some final) :
    5 ≤ bytes.length ∧ Extends stored final (bytes.length - 5) := by
  induction fuel generalizing stored bytes with
  | zero => cases found
  | succ fuel inductionHypothesis =>
      simp only [readRecords, Option.bind_eq_bind,
        Option.bind_eq_some_iff] at found
      rcases found with ⟨⟨key, rest⟩, text, found⟩
      have length := length_of_readText text
      split at found
      · rename_i isEnd
        cases found
        have keyLength : key.length = 3 := by
          rw [show key = eosKey from isEnd]
          decide
        exact ⟨by omega, Extends.of_same (by rfl) (by rfl) _⟩
      · simp only [Option.bind_eq_some_iff] at found
        rcases found with ⟨⟨next, behind⟩, record, found⟩
        rcases readRecord_extends record with ⟨shorter, recorded⟩
        rcases inductionHypothesis found with ⟨atLeast, later⟩
        have whole := recorded.trans later
        have weight := whole.weight
        dsimp only at shorter atLeast weight
        exact ⟨by omega, whole.servers, by omega⟩

/-! ## One server exactly -/

theorem length_flatMap_textBytes (servers : List Bytes) :
    (servers.flatMap textBytes).length + 5 * servers.length =
      (servers.map fun server => server.length + 7).sum := by
  induction servers with
  | nil => rfl
  | cons server servers inductionHypothesis =>
      simp only [List.flatMap_cons, List.length_append, length_textBytes,
        List.length_cons, List.map_cons, List.sum_cons]
      omega

theorem length_serversBytes (builder : Builder) :
    (builder.serversBytes ++ builder.endBytes).length =
      (builder.dnsServers.flatMap textBytes).length + 18 := by
  have dns : dnsKey.length = 3 := by decide
  have id : idKey.length = 2 := by decide
  have eos : eosKey.length = 3 := by decide
  simp only [Builder.serversBytes, Builder.endBytes, List.length_append,
    length_textBytes, length_bytes32, dns, id, eos]
  omega

/-- More than one server takes more keys than there are in the file. -/
theorem length_le_one_of_read {builder : Builder} {skips : Bool} {fuel : Nat}
    (found :
      readRecords skips fuel builder.settings
        (builder.serversBytes ++ builder.endBytes) = some builder.stored) :
    builder.dnsServers.length ≤ 1 := by
  rcases readRecords_extends found with ⟨-, extended⟩
  have weight := extended.weight
  have meant : builder.stored.weight =
      (builder.dnsServers.map fun server => server.length + 7).sum + 8 :=
    rfl
  have nothing : builder.settings.weight = 0 := rfl
  rw [length_serversBytes, meant, nothing, ← length_flatMap_textBytes]
    at weight
  omega

/-- Behind the key of the servers there is one, whatever it was meant to be. -/
theorem servers_ne_nil_of_read {builder : Builder} {skips : Bool}
    {fuel : Nat}
    (found :
      readRecords skips fuel builder.settings
        (builder.serversBytes ++ builder.endBytes) = some builder.stored) :
    builder.dnsServers ≠ [] := by
  intro none
  have key : idKey.length < 2 ^ 16 := by decide
  cases fuel with
  | zero => cases found
  | succ fuel =>
      rw [Builder.serversBytes, none, Builder.endBytes, List.flatMap_nil,
        List.append_nil, readRecords_dns key] at found
      have servers := (readRecords_extends found).2.servers
      have meant : builder.stored.dnsServers = [] := none
      rw [meant, List.prefix_nil] at servers
      simp at servers

theorem read_single {builder : Builder} {server : Bytes}
    (single : builder.dnsServers = [server])
    (short : server.length < 2 ^ 16) (skips : Bool) {fuel : Nat}
    (enough : 3 ≤ fuel) :
    readRecords skips fuel builder.settings
        (builder.serversBytes ++ builder.endBytes) =
      some builder.stored := by
  rcases Nat.exists_eq_add_of_le' enough with ⟨more, rfl⟩
  rw [Builder.serversBytes, single, Builder.endBytes, List.flatMap_cons,
    List.flatMap_nil, List.append_nil, List.append_assoc,
    readRecords_dns short, readRecords_id,
    ← List.append_nil (textBytes eosKey), readRecords_end]
  simp [Builder.stored, Builder.settings, single]

/--
In a buffer that is large enough everything is written, and Android reads it
back exactly if there is one DNS server, whether or not it skips keys that it
does not know.
-/
theorem write_readStore_iff (builder : Builder) (short : builder.Short)
    (native : Order) (capacity : Nat)
    (large : builder.bytes.length ≤ capacity) (skips : Bool) :
    (∃ writer,
        write builder (BinaryWriter.initial native capacity) = .ok writer ∧
          readStore skips writer.written = some builder.stored) ↔
      builder.dnsServers.length = 1 := by
  have written :=
    @write_eq builder (BinaryWriter.initial native capacity) large
  rcases readStore_bytes short skips with ⟨fuel, enough, read⟩
  constructor
  · rintro ⟨writer, same, found⟩
    rw [written, Except.ok.injEq] at same
    subst same
    rw [BinaryWriter.initial, List.nil_append, read] at found
    have atMost := length_le_one_of_read found
    have some := List.length_pos_of_ne_nil (servers_ne_nil_of_read found)
    omega
  · intro one
    rcases List.length_eq_one_iff.mp one with ⟨server, single⟩
    refine ⟨_, written, ?_⟩
    rw [BinaryWriter.initial, List.nil_append, read]
    have member : server ∈ builder.dnsServers := by simp [single]
    exact read_single single (short.servers server member) skips enough

/-- The configuration of a container with the default addresses. -/
def defaultConfiguration (dnsServers : List Bytes) : Builder :=
  { version := .version2
    assignment := .static
    address := ascii "192.168.250.2"
    prefixLength := 24
    gateway := ascii "192.168.250.1"
    dnsServers := dnsServers
    id := 0 }

set_option maxRecDepth 4000 in
theorem write_readStore_default :
    ∃ writer,
      write (defaultConfiguration [ascii "8.8.8.8"])
          (BinaryWriter.initial .little 512) = .ok writer ∧
        readStore false writer.written =
          some (defaultConfiguration [ascii "8.8.8.8"]).stored := by
  have short : (defaultConfiguration [ascii "8.8.8.8"]).Short :=
    ⟨by decide, by decide, by decide⟩
  exact (write_readStore_iff _ short .little 512 (by decide) false).mpr rfl

set_option maxRecDepth 8000 in
/-- The second server is taken for a key; without one, the next key is. -/
theorem two_servers_not_read :
    (∃ writer,
        write (defaultConfiguration [ascii "8.8.8.8", ascii "8.8.4.4"])
            (BinaryWriter.initial .little 512) = .ok writer ∧
          readStore false writer.written = none ∧
          (readStore true writer.written).map Stored.dnsServers =
            some [ascii "8.8.8.8"]) ∧
      ∃ writer,
        write (defaultConfiguration [])
            (BinaryWriter.initial .little 512) = .ok writer ∧
          readStore false writer.written = none := by
  refine ⟨⟨_, write_eq _ (by decide), ?_, ?_⟩,
    ⟨_, write_eq _ (by decide), ?_⟩⟩
  · decide
  · decide
  · decide

end Anbox.Android.IpConfigBuilder
