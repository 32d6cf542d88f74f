import Mathlib.Data.List.Basic
import Mathlib.Data.List.DropRight
import Mathlib.Data.Nat.Digits.Lemmas
import Mathlib.Logic.Basic

/-!
# JSON texts

A reader for JSON texts, given as bytes.  `Denotes` relates a text to its value
and is what "a text is a JSON text" means.  Numbers are kept as they are
written.  The contents of strings are bytes, with escaped characters in UTF-8;
other bytes beyond ASCII stand for themselves.

The reading functions take a bound on their recursion.  A larger bound gives
the same result, so `Reads` and its companions, which leave the bound open,
are functions of the input.
-/

namespace Anbox.Foundation.JsonText

abbrev Text := List UInt8

/-- The bytes of a text in ASCII. -/
def ascii (text : String) : Text := text.toByteArray.data.toList

inductive Value where
  | null
  | boolean (value : Bool)
  | number (literal : Text)
  | string (content : Text)
  | array (elements : List Value)
  | object (members : List (Text × Value))

def space : UInt8 := 0x20
def quote : UInt8 := 0x22
def comma : UInt8 := 0x2c
def colon : UInt8 := 0x3a
def openBracket : UInt8 := 0x5b
def backslash : UInt8 := 0x5c
def closeBracket : UInt8 := 0x5d
def openBrace : UInt8 := 0x7b
def closeBrace : UInt8 := 0x7d

/-! ## Spaces and signs -/

def isSpace (byte : UInt8) : Bool :=
  byte ∈ [0x20, 0x09, 0x0a, 0x0d]

def skipSpaces (input : Text) : Text :=
  input.dropWhile isSpace

/-- What follows this sign, which may have spaces before it. -/
def expect (sign : UInt8) (input : Text) : Option Text :=
  match skipSpaces input with
  | [] => none
  | first :: rest => if first = sign then some rest else none

/-! ## Strings -/

def hexValue (byte : UInt8) : Option Nat :=
  if 0x30 ≤ byte ∧ byte ≤ 0x39 then some (byte.toNat - 0x30)
  else if 0x41 ≤ byte ∧ byte ≤ 0x46 then some (byte.toNat - 0x37)
  else if 0x61 ≤ byte ∧ byte ≤ 0x66 then some (byte.toNat - 0x57)
  else none

/-- Four hexadecimal digits. -/
def readUnit : Text → Option (Nat × Text)
  | a :: b :: c :: d :: rest => do
      let a ← hexValue a
      let b ← hexValue b
      let c ← hexValue c
      let d ← hexValue d
      return (((a * 16 + b) * 16 + c) * 16 + d, rest)
  | _ => none

/-- The UTF-8 encoding of a character. -/
def utf8 (code : Nat) : Text :=
  if code < 0x80 then [UInt8.ofNat code]
  else if code < 0x800 then
    [UInt8.ofNat (0xc0 + code / 0x40), UInt8.ofNat (0x80 + code % 0x40)]
  else if code < 0x10000 then
    [UInt8.ofNat (0xe0 + code / 0x1000),
      UInt8.ofNat (0x80 + code / 0x40 % 0x40),
      UInt8.ofNat (0x80 + code % 0x40)]
  else
    [UInt8.ofNat (0xf0 + code / 0x40000),
      UInt8.ofNat (0x80 + code / 0x1000 % 0x40),
      UInt8.ofNat (0x80 + code / 0x40 % 0x40),
      UInt8.ofNat (0x80 + code % 0x40)]

/-- The second half of a surrogate pair. -/
def readLowSurrogate : Text → Option (Nat × Text)
  | first :: second :: input => do
      if first = backslash ∧ second = 0x75 then
        let (low, rest) ← readUnit input
        if 0xdc00 ≤ low ∧ low < 0xe000 then some (low - 0xdc00, rest)
        else none
      else none
  | _ => none

/-- A character given by its number; half a surrogate pair is none. -/
def readUnicode (input : Text) : Option (Text × Text) := do
  let (unit, rest) ← readUnit input
  if unit < 0xd800 ∨ 0xe000 ≤ unit then some (utf8 unit, rest)
  else if unit < 0xdc00 then
    let (low, rest) ← readLowSurrogate rest
    return (utf8 (0x10000 + (unit - 0xd800) * 0x400 + low), rest)
  else none

/-- The escapes of a single letter. -/
def simpleEscape (byte : UInt8) : Option UInt8 :=
  if byte ∈ [quote, backslash, 0x2f] then some byte
  else if byte = 0x62 then some 0x08
  else if byte = 0x66 then some 0x0c
  else if byte = 0x6e then some 0x0a
  else if byte = 0x72 then some 0x0d
  else if byte = 0x74 then some 0x09
  else none

/-- What follows a backslash. -/
def readEscape : Text → Option (Text × Text)
  | [] => none
  | byte :: rest =>
      if byte = 0x75 then readUnicode rest
      else (simpleEscape byte).map fun escaped => ([escaped], rest)

/-- A character of a string, control characters apart. -/
def readCharacter : Text → Option (Text × Text)
  | [] => none
  | byte :: rest =>
      if byte < 0x20 then none
      else if byte = backslash then readEscape rest
      else some ([byte], rest)

/-- A string after its opening quote. -/
def readString : Nat → Text → Option (Text × Text)
  | 0, _ => none
  | _ + 1, [] => none
  | bound + 1, byte :: rest =>
      if byte = quote then some ([], rest)
      else do
        let (character, rest) ← readCharacter (byte :: rest)
        let (content, rest) ← readString bound rest
        return (character ++ content, rest)

/-! ## Numbers and literals -/

def isDigit (byte : UInt8) : Bool := 0x30 ≤ byte ∧ byte ≤ 0x39

def isExponent : Text → Bool
  | [] => true
  | byte :: rest =>
      let digits :=
        match rest with
        | [] => []
        | sign :: digits =>
            if sign = 0x2b ∨ sign = 0x2d then digits else rest
      (byte = 0x45 ∨ byte = 0x65) ∧ digits ≠ [] ∧ digits.all isDigit

def isFraction : Text → Bool
  | [] => true
  | byte :: rest =>
      if byte = 0x2e then
        rest.takeWhile isDigit ≠ [] ∧ isExponent (rest.dropWhile isDigit)
      else isExponent (byte :: rest)

/-- Digits without a leading zero, with a fraction and an exponent. -/
def isUnsigned (literal : Text) : Bool :=
  let whole := literal.takeWhile isDigit
  whole ≠ [] ∧ (whole.head? = some 0x30 → whole.length = 1) ∧
    isFraction (literal.dropWhile isDigit)

def isNumber : Text → Bool
  | [] => false
  | byte :: rest =>
      if byte = 0x2d then isUnsigned rest else isUnsigned (byte :: rest)

/-- The letters, digits and signs of numbers and literals. -/
def isWord (byte : UInt8) : Bool :=
  isDigit byte ∨ 0x41 ≤ byte ∧ byte ≤ 0x5a ∨ 0x61 ≤ byte ∧ byte ≤ 0x7a ∨
    byte ∈ [0x2b, 0x2d, 0x2e]

def scalar (word : Text) : Option Value :=
  if word = ascii "null" then some .null
  else if word = ascii "true" then some (.boolean true)
  else if word = ascii "false" then some (.boolean false)
  else if isNumber word then some (.number word)
  else none

def readScalar (input : Text) : Option (Value × Text) :=
  (scalar (input.takeWhile isWord)).map fun value =>
    (value, input.dropWhile isWord)

/-! ## Values -/

mutual

/-- A value at the start of the input, and what follows it. -/
def readValue : Nat → Text → Option (Value × Text)
  | 0, _ => none
  | _ + 1, [] => none
  | bound + 1, first :: rest =>
      if first = quote then
        (readString bound rest).map fun (content, rest) =>
          (.string content, rest)
      else if first = openBrace then
        match expect closeBrace rest with
        | some rest => some (.object [], rest)
        | none =>
            (readMembers bound (skipSpaces rest)).map fun (members, rest) =>
              (.object members, rest)
      else if first = openBracket then
        match expect closeBracket rest with
        | some rest => some (.array [], rest)
        | none =>
            (readElements bound (skipSpaces rest)).map
              fun (elements, rest) => (.array elements, rest)
      else readScalar (first :: rest)
termination_by structural bound => bound

/-- The elements of an array up to its closing bracket. -/
def readElements : Nat → Text → Option (List Value × Text)
  | 0, _ => none
  | bound + 1, input => do
      let (value, rest) ← readValue bound input
      match expect comma rest with
      | some rest => do
          let (values, rest) ← readElements bound (skipSpaces rest)
          return (value :: values, rest)
      | none => do
          let rest ← expect closeBracket rest
          return ([value], rest)
termination_by structural bound => bound

/-- The members of an object up to its closing brace. -/
def readMembers : Nat → Text → Option (List (Text × Value) × Text)
  | 0, _ => none
  | bound + 1, input => do
      let rest ← expect quote input
      let (name, rest) ← readString bound rest
      let rest ← expect colon rest
      let (value, rest) ← readValue bound (skipSpaces rest)
      match expect comma rest with
      | some rest => do
          let (members, rest) ← readMembers bound (skipSpaces rest)
          return ((name, value) :: members, rest)
      | none => do
          let rest ← expect closeBrace rest
          return ([(name, value)], rest)
termination_by structural bound => bound

end

/-- The text is a JSON text with this value. -/
def Denotes (text : Text) (value : Value) : Prop :=
  ∃ bound rest,
    readValue bound (skipSpaces text) = some (value, rest) ∧
      skipSpaces rest = []

/-! ## The bound on the recursion -/

theorem readString_mono {bound more : Nat} (le : bound ≤ more)
    {input : Text} {outcome : Text × Text}
    (read : readString bound input = some outcome) :
    readString more input = some outcome := by
  induction bound generalizing more input outcome with
  | zero => cases read
  | succ bound inductionHypothesis =>
      cases more with
      | zero => cases le
      | succ more =>
          cases input with
          | nil => cases read
          | cons byte rest =>
              simp only [readString] at read ⊢
              split at read
              · next closed =>
                rw [if_pos closed]
                exact read
              · next notClosed =>
                rw [if_neg notClosed]
                rcases Option.bind_eq_some_iff.mp read with
                  ⟨⟨character, after⟩, first, continued⟩
                rcases Option.bind_eq_some_iff.mp continued with
                  ⟨⟨content, last⟩, later, returned⟩
                rw [first]
                refine Option.bind_eq_some_iff.mpr
                  ⟨⟨character, after⟩, rfl, ?_⟩
                exact Option.bind_eq_some_iff.mpr
                  ⟨⟨content, last⟩,
                    inductionHypothesis (Nat.le_of_succ_le_succ le) later,
                    returned⟩

/-- What is read with a bound is read with a larger one. -/
structure MoreReads (bound more : Nat) : Prop where
  value :
    ∀ {input : Text} {outcome : Value × Text},
      readValue bound input = some outcome →
        readValue more input = some outcome
  elements :
    ∀ {input : Text} {outcome : List Value × Text},
      readElements bound input = some outcome →
        readElements more input = some outcome
  members :
    ∀ {input : Text} {outcome : List (Text × Value) × Text},
      readMembers bound input = some outcome →
        readMembers more input = some outcome

theorem MoreReads.value_succ {bound more : Nat} (below : MoreReads bound more)
    (le : bound ≤ more) {input : Text} {outcome : Value × Text}
    (read : readValue (bound + 1) input = some outcome) :
    readValue (more + 1) input = some outcome := by
  cases input with
  | nil => cases read
  | cons first rest =>
      simp only [readValue] at read ⊢
      split at read
      · next isQuote =>
        rw [if_pos isQuote]
        rcases Option.map_eq_some_iff.mp read with
          ⟨content, string, rfl⟩
        rw [readString_mono le string]
        rfl
      · next notQuote =>
        rw [if_neg notQuote]
        split at read
        · next isBrace =>
          rw [if_pos isBrace]
          split at read
          · next rest closed => exact read
          · rcases Option.map_eq_some_iff.mp read with
              ⟨members, inside, rfl⟩
            rw [below.members inside]
            rfl
        · next notBrace =>
          rw [if_neg notBrace]
          split at read
          · next isBracket =>
            rw [if_pos isBracket]
            split at read
            · next rest closed => exact read
            · rcases Option.map_eq_some_iff.mp read with
                ⟨elements, inside, rfl⟩
              rw [below.elements inside]
              rfl
          · next notBracket =>
            rw [if_neg notBracket]
            exact read

theorem MoreReads.elements_succ {bound more : Nat}
    (below : MoreReads bound more) {input : Text}
    {outcome : List Value × Text}
    (read : readElements (bound + 1) input = some outcome) :
    readElements (more + 1) input = some outcome := by
  rcases Option.bind_eq_some_iff.mp read with
    ⟨⟨value, after⟩, first, continued⟩
  refine Option.bind_eq_some_iff.mpr
    ⟨⟨value, after⟩, below.value first, ?_⟩
  simp only at continued ⊢
  split at continued
  · rcases Option.bind_eq_some_iff.mp continued with
      ⟨others, later, returned⟩
    exact Option.bind_eq_some_iff.mpr
      ⟨others, below.elements later, returned⟩
  · exact continued

theorem MoreReads.members_succ {bound more : Nat}
    (below : MoreReads bound more) (le : bound ≤ more) {input : Text}
    {outcome : List (Text × Value) × Text}
    (read : readMembers (bound + 1) input = some outcome) :
    readMembers (more + 1) input = some outcome := by
  rcases Option.bind_eq_some_iff.mp read with
    ⟨opened, isQuote, read⟩
  rcases Option.bind_eq_some_iff.mp read with
    ⟨⟨name, after⟩, string, read⟩
  rcases Option.bind_eq_some_iff.mp read with
    ⟨behind, isColon, read⟩
  rcases Option.bind_eq_some_iff.mp read with
    ⟨⟨value, last⟩, valueRead, continued⟩
  refine Option.bind_eq_some_iff.mpr ⟨opened, isQuote, ?_⟩
  refine Option.bind_eq_some_iff.mpr
    ⟨⟨name, after⟩, readString_mono le string, ?_⟩
  refine Option.bind_eq_some_iff.mpr ⟨behind, isColon, ?_⟩
  refine Option.bind_eq_some_iff.mpr
    ⟨⟨value, last⟩, below.value valueRead, ?_⟩
  simp only at continued ⊢
  split at continued
  · rcases Option.bind_eq_some_iff.mp continued with
      ⟨others, later, returned⟩
    exact Option.bind_eq_some_iff.mpr
      ⟨others, below.members later, returned⟩
  · exact continued

theorem moreReads {bound more : Nat} (le : bound ≤ more) :
    MoreReads bound more := by
  induction bound generalizing more with
  | zero =>
      constructor
      · intro input outcome impossible
        cases impossible
      · intro input outcome impossible
        cases impossible
      · intro input outcome impossible
        cases impossible
  | succ bound inductionHypothesis =>
      cases more with
      | zero => cases le
      | succ more =>
          have leBelow : bound ≤ more := Nat.le_of_succ_le_succ le
          have below := inductionHypothesis leBelow
          exact ⟨below.value_succ leBelow, below.elements_succ,
            below.members_succ leBelow⟩

/-! ## Reading as a relation -/

def ReadsString (input content rest : Text) : Prop :=
  ∃ bound, readString bound input = some (content, rest)

def Reads (input : Text) (value : Value) (rest : Text) : Prop :=
  ∃ bound, readValue bound input = some (value, rest)

def ReadsElements (input : Text) (elements : List Value) (rest : Text) :
    Prop :=
  ∃ bound, readElements bound input = some (elements, rest)

def ReadsMembers (input : Text) (members : List (Text × Value))
    (rest : Text) : Prop :=
  ∃ bound, readMembers bound input = some (members, rest)

theorem denotes_iff {text : Text} {value : Value} :
    Denotes text value ↔
      ∃ rest, Reads (skipSpaces text) value rest ∧ skipSpaces rest = [] := by
  constructor
  · rintro ⟨bound, rest, read, ended⟩
    exact ⟨rest, ⟨bound, read⟩, ended⟩
  · rintro ⟨rest, ⟨bound, read⟩, ended⟩
    exact ⟨bound, rest, read, ended⟩

section

variable {input rest rest' : Text}

theorem ReadsString.unique {content content' : Text}
    (reads : ReadsString input content rest)
    (also : ReadsString input content' rest') :
    content' = content ∧ rest' = rest := by
  rcases reads with ⟨bound, read⟩
  rcases also with ⟨bound', read'⟩
  have larger := readString_mono (Nat.le_max_left bound bound') read
  rw [readString_mono (Nat.le_max_right bound bound') read'] at larger
  cases larger
  exact ⟨rfl, rfl⟩

theorem Reads.unique {value value' : Value}
    (reads : Reads input value rest) (also : Reads input value' rest') :
    value' = value ∧ rest' = rest := by
  rcases reads with ⟨bound, read⟩
  rcases also with ⟨bound', read'⟩
  have larger := (moreReads (Nat.le_max_left bound bound')).value read
  rw [(moreReads (Nat.le_max_right bound bound')).value read'] at larger
  cases larger
  exact ⟨rfl, rfl⟩

theorem readsString_cons_iff {byte : UInt8} {content : Text} :
    ReadsString (byte :: input) content rest ↔
      byte = quote ∧ content = [] ∧ rest = input ∨
        byte ≠ quote ∧ ∃ character after later,
          readCharacter (byte :: input) = some (character, after) ∧
            ReadsString after later rest ∧ content = character ++ later := by
  constructor
  · rintro ⟨bound, read⟩
    cases bound with
    | zero => cases read
    | succ bound =>
        simp only [readString] at read
        split at read
        · next closed =>
          cases read
          exact Or.inl ⟨closed, rfl, rfl⟩
        · next notClosed =>
          rcases Option.bind_eq_some_iff.mp read with
            ⟨⟨character, after⟩, first, continued⟩
          rcases Option.bind_eq_some_iff.mp continued with
            ⟨⟨later, last⟩, readLater, ⟨⟩⟩
          exact Or.inr ⟨notClosed, character, after, later, first,
            ⟨bound, readLater⟩, rfl⟩
  · rintro (⟨rfl, rfl, rfl⟩ |
      ⟨notClosed, character, after, later, first, ⟨bound, readLater⟩, rfl⟩)
    · exact ⟨1, rfl⟩
    · refine ⟨bound + 1, ?_⟩
      simp only [readString, if_neg notClosed, first]
      refine Option.bind_eq_some_iff.mpr ⟨(character, after), rfl, ?_⟩
      exact Option.bind_eq_some_iff.mpr ⟨(later, rest), readLater, rfl⟩

theorem reads_quote_iff {value : Value} :
    Reads (quote :: input) value rest ↔
      ∃ content, value = .string content ∧
        ReadsString input content rest := by
  constructor
  · rintro ⟨bound, read⟩
    cases bound with
    | zero => cases read
    | succ bound =>
        simp only [readValue, if_true] at read
        rcases Option.map_eq_some_iff.mp read with
          ⟨⟨content, after⟩, string, ⟨⟩⟩
        exact ⟨content, rfl, bound, string⟩
  · rintro ⟨content, rfl, bound, string⟩
    refine ⟨bound + 1, ?_⟩
    simp only [readValue, if_true, string]
    rfl

/-- An object that is not closed at once has members. -/
theorem reads_openBrace_iff {value : Value}
    (notClosed : expect closeBrace input = none) :
    Reads (openBrace :: input) value rest ↔
      ∃ members, value = .object members ∧
        ReadsMembers (skipSpaces input) members rest := by
  have notQuote : openBrace ≠ quote := by decide
  constructor
  · rintro ⟨bound, read⟩
    cases bound with
    | zero => cases read
    | succ bound =>
        simp only [readValue, if_neg notQuote, if_true, notClosed] at read
        rcases Option.map_eq_some_iff.mp read with
          ⟨⟨members, after⟩, inside, ⟨⟩⟩
        exact ⟨members, rfl, bound, inside⟩
  · rintro ⟨members, rfl, bound, inside⟩
    refine ⟨bound + 1, ?_⟩
    simp only [readValue, if_neg notQuote, if_true, notClosed, inside]
    rfl

theorem reads_openBracket_iff {value : Value}
    (notClosed : expect closeBracket input = none) :
    Reads (openBracket :: input) value rest ↔
      ∃ elements, value = .array elements ∧
        ReadsElements (skipSpaces input) elements rest := by
  have notQuote : openBracket ≠ quote := by decide
  have notBrace : openBracket ≠ openBrace := by decide
  constructor
  · rintro ⟨bound, read⟩
    cases bound with
    | zero => cases read
    | succ bound =>
        simp only [readValue, if_neg notQuote, if_neg notBrace, if_true,
          notClosed] at read
        rcases Option.map_eq_some_iff.mp read with
          ⟨⟨elements, after⟩, inside, ⟨⟩⟩
        exact ⟨elements, rfl, bound, inside⟩
  · rintro ⟨elements, rfl, bound, inside⟩
    refine ⟨bound + 1, ?_⟩
    simp only [readValue, if_neg notQuote, if_neg notBrace, if_true,
      notClosed, inside]
    rfl

theorem readsElements_iff {elements : List Value} :
    ReadsElements input elements rest ↔
      ∃ value after, Reads input value after ∧
        ((∃ behind others, expect comma after = some behind ∧
            ReadsElements (skipSpaces behind) others rest ∧
            elements = value :: others) ∨
          expect comma after = none ∧
            expect closeBracket after = some rest ∧ elements = [value]) := by
  constructor
  · rintro ⟨bound, read⟩
    cases bound with
    | zero => cases read
    | succ bound =>
        rcases Option.bind_eq_some_iff.mp read with
          ⟨⟨value, after⟩, first, continued⟩
        simp only at continued
        refine ⟨value, after, ⟨bound, first⟩, ?_⟩
        split at continued
        · next behind isComma =>
          rcases Option.bind_eq_some_iff.mp continued with
            ⟨⟨others, last⟩, later, ⟨⟩⟩
          exact Or.inl ⟨behind, others, isComma, ⟨bound, later⟩, rfl⟩
        · next noComma =>
          rcases Option.bind_eq_some_iff.mp continued with
            ⟨last, closed, ⟨⟩⟩
          exact Or.inr ⟨noComma, closed, rfl⟩
  · rintro ⟨value, after, ⟨bound, first⟩,
      (⟨behind, others, isComma, ⟨bound', later⟩, rfl⟩ |
        ⟨noComma, closed, rfl⟩)⟩
    · refine ⟨max bound bound' + 1, ?_⟩
      have firstMore :=
        (moreReads (Nat.le_max_left bound bound')).value first
      have laterMore :=
        (moreReads (Nat.le_max_right bound bound')).elements later
      simp only [readElements, firstMore]
      refine Option.bind_eq_some_iff.mpr ⟨(value, after), rfl, ?_⟩
      simp only [isComma]
      exact Option.bind_eq_some_iff.mpr ⟨(others, rest), laterMore, rfl⟩
    · refine ⟨bound + 1, ?_⟩
      simp only [readElements, first]
      refine Option.bind_eq_some_iff.mpr ⟨(value, after), rfl, ?_⟩
      simp only [noComma]
      exact Option.bind_eq_some_iff.mpr ⟨rest, closed, rfl⟩

theorem readsMembers_iff {members : List (Text × Value)} :
    ReadsMembers input members rest ↔
      ∃ opened name after behind value last,
        expect quote input = some opened ∧ ReadsString opened name after ∧
          expect colon after = some behind ∧
          Reads (skipSpaces behind) value last ∧
          ((∃ next others, expect comma last = some next ∧
              ReadsMembers (skipSpaces next) others rest ∧
              members = (name, value) :: others) ∨
            expect comma last = none ∧ expect closeBrace last = some rest ∧
              members = [(name, value)]) := by
  constructor
  · rintro ⟨bound, read⟩
    cases bound with
    | zero => cases read
    | succ bound =>
        rcases Option.bind_eq_some_iff.mp read with ⟨opened, isQuote, read⟩
        rcases Option.bind_eq_some_iff.mp read with
          ⟨⟨name, after⟩, string, read⟩
        rcases Option.bind_eq_some_iff.mp read with ⟨behind, isColon, read⟩
        rcases Option.bind_eq_some_iff.mp read with
          ⟨⟨value, last⟩, valueRead, continued⟩
        simp only at continued
        refine ⟨opened, name, after, behind, value, last, isQuote,
          ⟨bound, string⟩, isColon, ⟨bound, valueRead⟩, ?_⟩
        split at continued
        · next next isComma =>
          rcases Option.bind_eq_some_iff.mp continued with
            ⟨⟨others, final⟩, later, ⟨⟩⟩
          exact Or.inl ⟨next, others, isComma, ⟨bound, later⟩, rfl⟩
        · next noComma =>
          rcases Option.bind_eq_some_iff.mp continued with
            ⟨end_, closed, ⟨⟩⟩
          exact Or.inr ⟨noComma, closed, rfl⟩
  · rintro ⟨opened, name, after, behind, value, last, isQuote,
      ⟨bound, string⟩, isColon, ⟨bound', valueRead⟩,
      (⟨next, others, isComma, ⟨bound'', later⟩, rfl⟩ |
        ⟨noComma, closed, rfl⟩)⟩
    · let larger := max bound (max bound' bound'')
      have stringMore : readString larger opened = some (name, after) :=
        readString_mono (by omega) string
      have valueMore :
          readValue larger (skipSpaces behind) = some (value, last) :=
        (moreReads (by omega)).value valueRead
      have laterMore :
          readMembers larger (skipSpaces next) = some (others, rest) :=
        (moreReads (by omega)).members later
      refine ⟨larger + 1, ?_⟩
      refine Option.bind_eq_some_iff.mpr ⟨opened, isQuote, ?_⟩
      refine Option.bind_eq_some_iff.mpr ⟨(name, after), stringMore, ?_⟩
      refine Option.bind_eq_some_iff.mpr ⟨behind, isColon, ?_⟩
      refine Option.bind_eq_some_iff.mpr ⟨(value, last), valueMore, ?_⟩
      simp only [isComma]
      exact Option.bind_eq_some_iff.mpr ⟨(others, rest), laterMore, rfl⟩
    · let larger := max bound bound'
      have stringMore : readString larger opened = some (name, after) :=
        readString_mono (by omega) string
      have valueMore :
          readValue larger (skipSpaces behind) = some (value, last) :=
        (moreReads (by omega)).value valueRead
      refine ⟨larger + 1, ?_⟩
      refine Option.bind_eq_some_iff.mpr ⟨opened, isQuote, ?_⟩
      refine Option.bind_eq_some_iff.mpr ⟨(name, after), stringMore, ?_⟩
      refine Option.bind_eq_some_iff.mpr ⟨behind, isColon, ?_⟩
      refine Option.bind_eq_some_iff.mpr ⟨(value, last), valueMore, ?_⟩
      simp only [noComma]
      exact Option.bind_eq_some_iff.mpr ⟨rest, closed, rfl⟩

end

/-! ## Spaces -/

theorem skipSpaces_cons_of_space {byte : UInt8} (isSpace' : isSpace byte = true)
    (input : Text) : skipSpaces (byte :: input) = skipSpaces input := by
  simp [skipSpaces, isSpace']

theorem skipSpaces_cons_of_not_space {byte : UInt8}
    (notSpace : isSpace byte = false) (input : Text) :
    skipSpaces (byte :: input) = byte :: input := by
  simp [skipSpaces, notSpace]

/-- Spaces before the input make no difference. -/
theorem skipSpaces_append_left {spaces : Text}
    (all : spaces.all isSpace = true) (input : Text) :
    skipSpaces (spaces ++ input) = skipSpaces input :=
  List.dropWhile_append_of_pos (List.all_eq_true.mp all)

/-- Unless there is nothing else, what follows makes no difference. -/
theorem skipSpaces_append_right {input : Text}
    (more : skipSpaces input ≠ []) (tail : Text) :
    skipSpaces (input ++ tail) = skipSpaces input ++ tail := by
  unfold skipSpaces at more ⊢
  rw [List.dropWhile_append, if_neg (by simpa using more)]

theorem skipSpaces_append_of_eq_nil {input : Text}
    (none : skipSpaces input = []) (tail : Text) :
    skipSpaces (input ++ tail) = skipSpaces tail := by
  unfold skipSpaces at none ⊢
  rw [List.dropWhile_append, if_pos (by simpa using none)]

theorem skipSpaces_skipSpaces (input : Text) :
    skipSpaces (skipSpaces input) = skipSpaces input :=
  @List.dropWhile_idempotent _ isSpace input

theorem expect_skipSpaces (sign : UInt8) (input : Text) :
    expect sign (skipSpaces input) = expect sign input := by
  simp only [expect, skipSpaces_skipSpaces]

theorem skipSpaces_eq_of_expect {sign : UInt8} {input rest : Text}
    (found : expect sign input = some rest) :
    skipSpaces input = sign :: rest := by
  unfold expect at found
  split at found
  · cases found
  · next first after skipped =>
    split at found
    · next same =>
      cases found
      rw [skipped, same]
    · cases found

theorem expect_of_skipSpaces_eq {sign first : UInt8} {input rest : Text}
    (skipped : skipSpaces input = first :: rest) :
    expect sign input = if first = sign then some rest else none := by
  simp only [expect, skipped]

theorem expect_cons {sign : UInt8} (notSpace : isSpace sign = false)
    (input : Text) : expect sign (sign :: input) = some input := by
  rw [expect_of_skipSpaces_eq (skipSpaces_cons_of_not_space notSpace input),
    if_pos rfl]

theorem expect_append {sign : UInt8} {input rest : Text}
    (found : expect sign input = some rest) (tail : Text) :
    expect sign (input ++ tail) = some (rest ++ tail) := by
  have skipped := skipSpaces_eq_of_expect found
  have longer : skipSpaces (input ++ tail) = sign :: (rest ++ tail) := by
    rw [skipSpaces_append_right (by simp [skipped]), skipped]
    rfl
  rw [expect_of_skipSpaces_eq longer, if_pos rfl]

/-- A sign that is not there is not there in a longer input. -/
theorem expect_append_eq_none {sign : UInt8} {input : Text}
    (missing : expect sign input = none) (more : skipSpaces input ≠ [])
    (tail : Text) : expect sign (input ++ tail) = none := by
  cases skipped : skipSpaces input with
  | nil => exact absurd skipped more
  | cons first rest =>
      have longer : skipSpaces (input ++ tail) = first :: (rest ++ tail) := by
        rw [skipSpaces_append_right more, skipped]
        rfl
      rw [expect_of_skipSpaces_eq skipped] at missing
      rw [expect_of_skipSpaces_eq longer]
      split at missing
      · cases missing
      · next different => rw [if_neg different]

/-! ## Longer inputs -/

theorem readUnit_append {input rest : Text} {unit : Nat}
    (read : readUnit input = some (unit, rest)) (tail : Text) :
    readUnit (input ++ tail) = some (unit, rest ++ tail) := by
  unfold readUnit at read
  split at read
  · next a b c d after =>
    simp only [List.cons_append, readUnit]
    simp only [Option.bind_eq_bind, Option.bind_eq_some_iff] at read ⊢
    rcases read with ⟨a', first, b', second, c', third, d', fourth, ⟨⟩⟩
    exact ⟨a', first, b', second, c', third, d', fourth, rfl⟩
  · cases read

theorem readLowSurrogate_append {input rest : Text} {low : Nat}
    (read : readLowSurrogate input = some (low, rest)) (tail : Text) :
    readLowSurrogate (input ++ tail) = some (low, rest ++ tail) := by
  unfold readLowSurrogate at read
  split at read
  · next first second after =>
    simp only [List.cons_append, readLowSurrogate]
    split at read
    · next marked =>
      rw [if_pos marked]
      rcases Option.bind_eq_some_iff.mp read with
        ⟨⟨unit, last⟩, unitRead, returned⟩
      refine Option.bind_eq_some_iff.mpr
        ⟨(unit, last ++ tail), readUnit_append unitRead tail, ?_⟩
      simp only at returned ⊢
      split at returned
      · next isLow =>
        simp only [Option.some.injEq, Prod.mk.injEq] at returned
        rcases returned with ⟨rfl, rfl⟩
        rw [if_pos isLow]
      · cases returned
    · cases read
  · cases read

theorem readUnicode_append {input rest character : Text}
    (read : readUnicode input = some (character, rest)) (tail : Text) :
    readUnicode (input ++ tail) = some (character, rest ++ tail) := by
  rcases Option.bind_eq_some_iff.mp read with
    ⟨⟨unit, after⟩, unitRead, continued⟩
  refine Option.bind_eq_some_iff.mpr
    ⟨(unit, after ++ tail), readUnit_append unitRead tail, ?_⟩
  simp only at continued ⊢
  split at continued
  · next whole =>
    cases continued
    rw [if_pos whole]
  · next half =>
    rw [if_neg half]
    split at continued
    · next high =>
      rw [if_pos high]
      rcases Option.bind_eq_some_iff.mp continued with
        ⟨⟨low, last⟩, lowRead, ⟨⟩⟩
      exact Option.bind_eq_some_iff.mpr
        ⟨(low, last ++ tail), readLowSurrogate_append lowRead tail, rfl⟩
    · cases continued

theorem readCharacter_append {input rest character : Text}
    (read : readCharacter input = some (character, rest)) (tail : Text) :
    readCharacter (input ++ tail) = some (character, rest ++ tail) := by
  cases input with
  | nil => cases read
  | cons byte after =>
      simp only [List.cons_append, readCharacter] at read ⊢
      split at read
      · cases read
      · next printable =>
        rw [if_neg printable]
        split at read
        · next escaped =>
          rw [if_pos escaped]
          cases after with
          | nil => cases read
          | cons kind after =>
              simp only [List.cons_append, readEscape] at read ⊢
              split at read
              · next isUnicode =>
                rw [if_pos isUnicode]
                exact readUnicode_append read tail
              · next simple =>
                rw [if_neg simple]
                rcases Option.map_eq_some_iff.mp read with
                  ⟨decoded, known, ⟨⟩⟩
                rw [known]
                rfl
        · next plain =>
          cases read
          rw [if_neg plain]

theorem readString_append {bound : Nat} {input content rest : Text}
    (read : readString bound input = some (content, rest)) (tail : Text) :
    readString bound (input ++ tail) = some (content, rest ++ tail) := by
  induction bound generalizing input content with
  | zero => cases read
  | succ bound inductionHypothesis =>
      cases input with
      | nil => cases read
      | cons byte after =>
          simp only [List.cons_append, readString] at read ⊢
          split at read
          · next closed =>
            cases read
            rw [if_pos closed]
          · next notClosed =>
            rw [if_neg notClosed]
            rcases Option.bind_eq_some_iff.mp read with
              ⟨⟨character, behind⟩, first, continued⟩
            rcases Option.bind_eq_some_iff.mp continued with
              ⟨⟨later, last⟩, readLater, ⟨⟩⟩
            refine Option.bind_eq_some_iff.mpr
              ⟨(character, behind ++ tail),
                readCharacter_append first tail, ?_⟩
            exact Option.bind_eq_some_iff.mpr
              ⟨(later, last ++ tail), inductionHypothesis readLater, rfl⟩

/-- A word that ends the input is not continued. -/
def Ended (rest tail : Text) : Prop :=
  rest = [] → ∀ byte ∈ tail.head?, isWord byte = false

theorem ended_of_expect {sign : UInt8} {rest after : Text}
    (found : expect sign rest = some after) (tail : Text) :
    Ended rest tail := by
  rintro rfl
  cases found

theorem readScalar_append {input rest : Text} {value : Value}
    (read : readScalar input = some (value, rest)) {tail : Text}
    (ended : Ended rest tail) :
    readScalar (input ++ tail) = some (value, rest ++ tail) := by
  rcases Option.map_eq_some_iff.mp read with ⟨read, known, ⟨⟩⟩
  have words :
      (input ++ tail).takeWhile isWord = input.takeWhile isWord ∧
        (input ++ tail).dropWhile isWord =
          input.dropWhile isWord ++ tail := by
    rw [List.takeWhile_append, List.dropWhile_append]
    by_cases none : input.dropWhile isWord = []
    · have whole : input.takeWhile isWord = input := by
        have parts := @List.takeWhile_append_dropWhile _ isWord input
        rwa [none, List.append_nil] at parts
      have stop : tail.takeWhile isWord = [] ∧
          tail.dropWhile isWord = tail := by
        cases tail with
        | nil => exact ⟨rfl, rfl⟩
        | cons byte tail =>
            have notWord : isWord byte = false := ended none byte rfl
            simp [notWord]
      simp [none, whole, stop]
    · have short : (input.takeWhile isWord).length ≠ input.length := by
        intro same
        have lengths := congrArg List.length
          (@List.takeWhile_append_dropWhile _ isWord input)
        rw [List.length_append, same] at lengths
        exact none (List.length_eq_zero_iff.mp (by omega))
      rw [if_neg short, if_neg (by simpa using none)]
      exact ⟨rfl, rfl⟩
  unfold readScalar
  rw [words.1, words.2, known]
  rfl

/-- What is read is read from a longer input, too. -/
structure AppendReads (bound : Nat) : Prop where
  value :
    ∀ {input rest : Text} {value : Value} (tail : Text),
      readValue bound input = some (value, rest) → Ended rest tail →
        readValue bound (input ++ tail) = some (value, rest ++ tail)
  elements :
    ∀ {input rest : Text} {elements : List Value} (tail : Text),
      readElements bound input = some (elements, rest) →
        readElements bound (input ++ tail) = some (elements, rest ++ tail)
  members :
    ∀ {input rest : Text} {members : List (Text × Value)} (tail : Text),
      readMembers bound input = some (members, rest) →
        readMembers bound (input ++ tail) = some (members, rest ++ tail)

theorem readElements_ne_nil {bound : Nat} {input rest : Text}
    {elements : List Value}
    (read : readElements bound input = some (elements, rest)) :
    input ≠ [] := by
  rintro rfl
  cases bound with
  | zero => cases read
  | succ bound =>
      rcases Option.bind_eq_some_iff.mp read with
        ⟨⟨value, after⟩, first, -⟩
      cases bound with
      | zero => cases first
      | succ bound => cases first

theorem readMembers_ne_nil {bound : Nat} {input rest : Text}
    {members : List (Text × Value)}
    (read : readMembers bound input = some (members, rest)) :
    input ≠ [] := by
  rintro rfl
  cases bound with
  | zero => cases read
  | succ bound => cases read

theorem AppendReads.value_succ {bound : Nat} (below : AppendReads bound)
    {input rest : Text} {value : Value} (tail : Text)
    (read : readValue (bound + 1) input = some (value, rest))
    (ended : Ended rest tail) :
    readValue (bound + 1) (input ++ tail) = some (value, rest ++ tail) := by
  cases input with
  | nil => cases read
  | cons first after =>
      simp only [List.cons_append, readValue] at read ⊢
      split at read
      · next isQuote =>
        rw [if_pos isQuote]
        rcases Option.map_eq_some_iff.mp read with
          ⟨⟨content, last⟩, string, ⟨⟩⟩
        rw [readString_append string tail]
        rfl
      · next notQuote =>
        rw [if_neg notQuote]
        split at read
        · next isBrace =>
          rw [if_pos isBrace]
          split at read
          · next last closed =>
            cases read
            rw [expect_append closed tail]
          · next notClosed =>
            rcases Option.map_eq_some_iff.mp read with
              ⟨⟨members, last⟩, inside, ⟨⟩⟩
            have more := readMembers_ne_nil inside
            rw [expect_append_eq_none notClosed more,
              skipSpaces_append_right more,
              below.members tail inside]
            rfl
        · next notBrace =>
          rw [if_neg notBrace]
          split at read
          · next isBracket =>
            rw [if_pos isBracket]
            split at read
            · next last closed =>
              cases read
              rw [expect_append closed tail]
            · next notClosed =>
              rcases Option.map_eq_some_iff.mp read with
                ⟨⟨elements, last⟩, inside, ⟨⟩⟩
              have more := readElements_ne_nil inside
              rw [expect_append_eq_none notClosed more,
                skipSpaces_append_right more,
                below.elements tail inside]
              rfl
          · next notBracket =>
            rw [if_neg notBracket]
            exact readScalar_append read ended

theorem AppendReads.elements_succ {bound : Nat} (below : AppendReads bound)
    {input rest : Text} {elements : List Value} (tail : Text)
    (read : readElements (bound + 1) input = some (elements, rest)) :
    readElements (bound + 1) (input ++ tail) =
      some (elements, rest ++ tail) := by
  rcases Option.bind_eq_some_iff.mp read with
    ⟨⟨value, after⟩, first, continued⟩
  simp only at continued
  split at continued
  · next behind isComma =>
    rcases Option.bind_eq_some_iff.mp continued with
      ⟨⟨others, last⟩, later, ⟨⟩⟩
    have more : skipSpaces behind ≠ [] := readElements_ne_nil later
    refine Option.bind_eq_some_iff.mpr
      ⟨(value, after ++ tail),
        below.value tail first
          (ended_of_expect isComma tail), ?_⟩
    simp only [expect_append isComma tail]
    rw [skipSpaces_append_right more]
    exact Option.bind_eq_some_iff.mpr
      ⟨(others, last ++ tail),
        below.elements tail later, rfl⟩
  · next noComma =>
    rcases Option.bind_eq_some_iff.mp continued with
      ⟨last, closed, ⟨⟩⟩
    have more : skipSpaces after ≠ [] := by
      rw [skipSpaces_eq_of_expect closed]
      exact List.cons_ne_nil _ _
    refine Option.bind_eq_some_iff.mpr
      ⟨(value, after ++ tail),
        below.value tail first
          (ended_of_expect closed tail), ?_⟩
    simp only [expect_append_eq_none noComma more,
      expect_append closed tail]
    rfl

theorem AppendReads.members_succ {bound : Nat} (below : AppendReads bound)
    {input rest : Text} {members : List (Text × Value)} (tail : Text)
    (read : readMembers (bound + 1) input = some (members, rest)) :
    readMembers (bound + 1) (input ++ tail) =
      some (members, rest ++ tail) := by
  rcases Option.bind_eq_some_iff.mp read with ⟨opened, isQuote, read⟩
  rcases Option.bind_eq_some_iff.mp read with
    ⟨⟨name, named⟩, string, read⟩
  rcases Option.bind_eq_some_iff.mp read with
    ⟨behindColon, isColon, read⟩
  rcases Option.bind_eq_some_iff.mp read with
    ⟨⟨value, after⟩, first, continued⟩
  have valueMore : skipSpaces behindColon ≠ [] := by
    intro none
    simp only [none] at first
    cases bound with
    | zero => cases first
    | succ bound => cases first
  refine Option.bind_eq_some_iff.mpr
    ⟨opened ++ tail, expect_append isQuote tail, ?_⟩
  refine Option.bind_eq_some_iff.mpr
    ⟨(name, named ++ tail), readString_append string tail, ?_⟩
  refine Option.bind_eq_some_iff.mpr
    ⟨behindColon ++ tail, expect_append isColon tail, ?_⟩
  rw [skipSpaces_append_right valueMore]
  simp only at continued
  split at continued
  · next behind isComma =>
    rcases Option.bind_eq_some_iff.mp continued with
      ⟨⟨others, last⟩, later, ⟨⟩⟩
    have more : skipSpaces behind ≠ [] := readMembers_ne_nil later
    refine Option.bind_eq_some_iff.mpr
      ⟨(value, after ++ tail),
        below.value tail first
          (ended_of_expect isComma tail), ?_⟩
    simp only [expect_append isComma tail]
    rw [skipSpaces_append_right more]
    exact Option.bind_eq_some_iff.mpr
      ⟨(others, last ++ tail),
        below.members tail later, rfl⟩
  · next noComma =>
    rcases Option.bind_eq_some_iff.mp continued with
      ⟨last, closed, ⟨⟩⟩
    have more : skipSpaces after ≠ [] := by
      rw [skipSpaces_eq_of_expect closed]
      exact List.cons_ne_nil _ _
    refine Option.bind_eq_some_iff.mpr
      ⟨(value, after ++ tail),
        below.value tail first
          (ended_of_expect closed tail), ?_⟩
    simp only [expect_append_eq_none noComma more,
      expect_append closed tail]
    rfl

theorem appendReads (bound : Nat) : AppendReads bound := by
  induction bound with
  | zero =>
      constructor
      · intro input rest value tail impossible
        cases impossible
      · intro input rest elements tail impossible
        cases impossible
      · intro input rest members tail impossible
        cases impossible
  | succ bound below =>
      exact ⟨below.value_succ, below.elements_succ, below.members_succ⟩

theorem Reads.append {input rest : Text} {value : Value}
    (reads : Reads input value rest) {tail : Text}
    (ended : Ended rest tail) :
    Reads (input ++ tail) value (rest ++ tail) := by
  rcases reads with ⟨bound, read⟩
  exact ⟨bound, (appendReads bound).value tail read ended⟩

theorem ReadsMembers.append {input rest : Text}
    {members : List (Text × Value)}
    (reads : ReadsMembers input members rest) (tail : Text) :
    ReadsMembers (input ++ tail) members (rest ++ tail) := by
  rcases reads with ⟨bound, read⟩
  exact ⟨bound, (appendReads bound).members tail read⟩

/-! ## The length of strings -/

/-- A byte that stands for itself in a string. -/
def isPlain (byte : UInt8) : Bool :=
  0x20 ≤ byte ∧ byte ≠ quote ∧ byte ≠ backslash

def Plain (content : Text) : Prop :=
  ∀ byte ∈ content, isPlain byte = true

instance (content : Text) : Decidable (Plain content) :=
  decidable_of_iff (content.all isPlain = true) List.all_eq_true

theorem length_utf8_le (code : Nat) : (utf8 code).length ≤ 4 := by
  unfold utf8
  split
  · simp
  · split
    · simp
    · split
      · simp
      · simp

/-- A byte that may stand behind the backslash of an escaped character. -/
def isInner (byte : UInt8) : Bool := 0x20 ≤ byte ∧ byte ≠ quote

theorem isInner_of_lt {byte : UInt8} (above : quote < byte) :
    isInner byte = true := by
  have low : 0x20 ≤ quote := by decide
  exact decide_eq_true
    ⟨UInt8.le_trans low (UInt8.le_of_lt above), (UInt8.ne_of_lt above).symm⟩

theorem isInner_of_hexValue {byte : UInt8} {digit : Nat}
    (known : hexValue byte = some digit) : isInner byte = true := by
  unfold hexValue at known
  split at known
  · next isDigit =>
    exact isInner_of_lt (UInt8.lt_of_lt_of_le (by decide) isDigit.1)
  · split at known
    · next isUpper =>
      exact isInner_of_lt (UInt8.lt_of_lt_of_le (by decide) isUpper.1)
    · split at known
      · next isLower =>
        exact isInner_of_lt (UInt8.lt_of_lt_of_le (by decide) isLower.1)
      · cases known

theorem readUnit_taken {input rest : Text} {unit : Nat}
    (read : readUnit input = some (unit, rest)) :
    ∃ taken, input = taken ++ rest ∧ taken.length = 4 ∧
      ∀ byte ∈ taken, isInner byte = true := by
  unfold readUnit at read
  split at read
  · next a b c d after =>
    simp only [Option.bind_eq_bind, Option.bind_eq_some_iff] at read
    rcases read with ⟨a', first, b', second, c', third, d', fourth, ⟨⟩⟩
    refine ⟨[a, b, c, d], rfl, rfl, ?_⟩
    simp only [List.forall_mem_cons, List.not_mem_nil, false_implies,
      implies_true, and_true]
    exact ⟨isInner_of_hexValue first, isInner_of_hexValue second,
      isInner_of_hexValue third, isInner_of_hexValue fourth⟩
  · cases read

theorem readLowSurrogate_taken {input rest : Text} {low : Nat}
    (read : readLowSurrogate input = some (low, rest)) :
    ∃ taken, input = taken ++ rest ∧ taken.length = 6 ∧
      ∀ byte ∈ taken, isInner byte = true := by
  unfold readLowSurrogate at read
  split at read
  · next first second after =>
    split at read
    · next marked =>
      rcases Option.bind_eq_some_iff.mp read with
        ⟨⟨unit, last⟩, unitRead, returned⟩
      rcases readUnit_taken unitRead with ⟨taken, rfl, four, inner⟩
      simp only at returned
      split at returned
      · simp only [Option.some.injEq, Prod.mk.injEq] at returned
        rcases returned with ⟨-, rfl⟩
        refine ⟨first :: second :: taken, rfl, by simp [four], ?_⟩
        rw [marked.1, marked.2]
        simp only [List.forall_mem_cons]
        exact ⟨by decide, by decide, inner⟩
      · cases returned
    · cases read
  · cases read

theorem readUnicode_taken {input rest character : Text}
    (read : readUnicode input = some (character, rest)) :
    ∃ taken, input = taken ++ rest ∧ character.length ≤ taken.length ∧
      ∀ byte ∈ taken, isInner byte = true := by
  rcases Option.bind_eq_some_iff.mp read with
    ⟨⟨unit, after⟩, unitRead, continued⟩
  rcases readUnit_taken unitRead with ⟨taken, rfl, four, inner⟩
  simp only at continued
  split at continued
  · cases continued
    exact ⟨taken, rfl, by rw [four]; exact length_utf8_le unit, inner⟩
  · split at continued
    · rcases Option.bind_eq_some_iff.mp continued with
        ⟨⟨low, last⟩, lowRead, ⟨⟩⟩
      rcases readLowSurrogate_taken lowRead with ⟨second, rfl, six, inner'⟩
      refine ⟨taken ++ second, by simp, ?_,
        List.forall_mem_append.mpr ⟨inner, inner'⟩⟩
      rw [List.length_append, four, six]
      exact (length_utf8_le _).trans (by decide)
    · cases continued

theorem printable_of_simpleEscape {byte escaped : UInt8}
    (known : simpleEscape byte = some escaped) : 0x20 ≤ byte := by
  by_contra control
  have below : byte < 0x20 := UInt8.not_le.mp control
  have other {letter : UInt8} (printable : 0x20 ≤ letter) :
      byte ≠ letter :=
    UInt8.ne_of_lt (UInt8.lt_of_lt_of_le below printable)
  have unknown : simpleEscape byte = none := by
    simp [simpleEscape, quote, backslash, other]
  rw [unknown] at known
  cases known

/--
What a character takes from the input.  Only a plain byte takes no more than
it gives, and the only quote inside is an escaped one.
-/
structure Taken (taken character : Text) : Prop where
  length :
    character.length < taken.length ∨
      ∃ byte, 0x20 ≤ byte ∧ byte ≠ backslash ∧ taken = [byte] ∧
        character = [byte]
  quote : quote ∈ taken.tail → taken.length = 2
  printable : ∀ byte ∈ taken, 0x20 ≤ byte

theorem readCharacter_taken {input rest character : Text}
    (read : readCharacter input = some (character, rest)) :
    ∃ taken, input = taken ++ rest ∧ Taken taken character := by
  cases input with
  | nil => cases read
  | cons byte after =>
      simp only [readCharacter] at read
      split at read
      · cases read
      · next printable =>
        split at read
        · next escaped =>
          cases after with
          | nil => cases read
          | cons kind after =>
              simp only [readEscape] at read
              split at read
              · next isUnicode =>
                rcases readUnicode_taken read with
                  ⟨taken, rfl, short, inner⟩
                have innerTail : ∀ other ∈ kind :: taken,
                    isInner other = true := by
                  rw [isUnicode, List.forall_mem_cons]
                  exact ⟨by decide, inner⟩
                refine ⟨byte :: kind :: taken, rfl, ?_, ?_, ?_⟩
                · left
                  simp only [List.length_cons]
                  omega
                · intro member
                  exact absurd (innerTail quote member) (by decide)
                · refine List.forall_mem_cons.mpr
                    ⟨UInt8.not_lt.mp printable, fun other member => ?_⟩
                  exact (of_decide_eq_true (innerTail other member)).1
              · rcases Option.map_eq_some_iff.mp read with
                  ⟨decoded, known, ⟨⟩⟩
                refine ⟨[byte, kind], rfl, Or.inl (by simp), fun _ => rfl, ?_⟩
                simp only [List.forall_mem_cons, List.not_mem_nil,
                  false_implies, implies_true, and_true]
                exact ⟨UInt8.not_lt.mp printable,
                  printable_of_simpleEscape known⟩
        · next plain =>
          cases read
          have low := UInt8.not_lt.mp printable
          exact ⟨[byte], rfl, Or.inr ⟨byte, low, plain, rfl, rfl⟩,
            fun member => (by cases member), by simpa using low⟩

theorem Taken.length_le {taken character : Text}
    (took : Taken taken character) : character.length ≤ taken.length := by
  rcases took.length with shorter | ⟨byte, -, -, rfl, rfl⟩
  · exact shorter.le
  · exact Nat.le_refl 1

/-- A string is shorter than what it is read from. -/
theorem ReadsString.length_lt {input content rest : Text}
    (reads : ReadsString input content rest) :
    content.length + rest.length < input.length := by
  rcases reads with ⟨bound, read⟩
  induction bound generalizing input content with
  | zero => cases read
  | succ bound inductionHypothesis =>
      cases input with
      | nil => cases read
      | cons byte after =>
          simp only [readString] at read
          split at read
          · cases read
            simp
          · rcases Option.bind_eq_some_iff.mp read with
              ⟨⟨character, behind⟩, first, continued⟩
            rcases Option.bind_eq_some_iff.mp continued with
              ⟨⟨later, last⟩, readLater, ⟨⟩⟩
            rcases readCharacter_taken first with ⟨taken, split, took⟩
            have shorter := inductionHypothesis readLater
            have short := took.length_le
            rw [split]
            simp only [List.length_append] at shorter ⊢
            omega

/-- Plain contents are read up to the next quote. -/
theorem readsString_plain {content : Text} (plain : Plain content)
    (rest : Text) : ReadsString (content ++ quote :: rest) content rest := by
  induction content with
  | nil => exact readsString_cons_iff.mpr (Or.inl ⟨rfl, rfl, rfl⟩)
  | cons byte content inductionHypothesis =>
      have own : isPlain byte = true := plain byte List.mem_cons_self
      simp only [isPlain, decide_eq_true_eq] at own
      rcases own with ⟨printable, notQuote, notBackslash⟩
      refine readsString_cons_iff.mpr (Or.inr ⟨notQuote, [byte],
        content ++ quote :: rest, content, ?_, ?_, rfl⟩)
      · simp only [readCharacter, if_neg notBackslash,
          if_neg (UInt8.not_lt.mpr printable)]
        rfl
      · exact inductionHypothesis fun other member =>
          plain other (List.mem_cons_of_mem byte member)

/-- A part of a text that is marked by a byte ends before it or behind it. -/
theorem before_or_behind {before behind taken after : Text} {mark : UInt8}
    (split : before ++ mark :: behind = taken ++ after) :
    (∃ remaining, before = taken ++ remaining ∧
        after = remaining ++ mark :: behind) ∨
      ∃ beyond, taken = before ++ mark :: beyond ∧
        behind = beyond ++ after := by
  rcases List.append_eq_append_iff.mp split with
    ⟨beyond, rfl, rest⟩ | ⟨remaining, rfl, rfl⟩
  · cases beyond with
    | nil =>
        rw [List.nil_append] at rest
        exact Or.inl ⟨[], by simp, by rw [← rest, List.nil_append]⟩
    | cons first beyond =>
        rw [List.cons_append] at rest
        rcases List.cons.inj rest with ⟨rfl, rfl⟩
        exact Or.inr ⟨beyond, rfl, rfl⟩
  · exact Or.inl ⟨remaining, rfl, rfl⟩

/--
A string that is read from given contents with a quote behind them is shorter
than these, or it is these contents and they are plain, or the quote is
escaped and the string goes on behind it.
-/
theorem readsString_between {contents tail content rest : Text}
    (reads : ReadsString (contents ++ quote :: tail) content rest) :
    content.length < contents.length ∨
      (rest = tail ∧ Plain contents ∧ content = contents) ∨
        ∃ later, ReadsString tail later rest := by
  induction size : contents.length using Nat.strong_induction_on
      generalizing contents content with
  | _ size inductionHypothesis =>
      subst size
      cases contents with
      | nil =>
          rcases readsString_cons_iff.mp reads with
            ⟨-, rfl, rfl⟩ | ⟨notQuote, -⟩
          · exact Or.inr (Or.inl ⟨rfl, fun _ member => (by cases member), rfl⟩)
          · exact absurd rfl notQuote
      | cons byte contents =>
          rcases readsString_cons_iff.mp reads with
            ⟨-, rfl, -⟩ | ⟨notQuote, character, after, later, read, readLater,
              rfl⟩
          · exact Or.inl (Nat.succ_pos _)
          rcases readCharacter_taken read with ⟨taken, split, took⟩
          have short := took.length_le
          rcases before_or_behind
              (show (byte :: contents) ++ quote :: tail = taken ++ after
                from split) with
            ⟨remaining, whole, rfl⟩ | ⟨beyond, rfl, rfl⟩
          · have sizes := congrArg List.length whole
            rw [List.length_append] at sizes
            have positive : 0 < taken.length := by
              rcases took.length with shorter | ⟨own, -, -, rfl, -⟩
              · exact Nat.zero_lt_of_lt shorter
              · exact Nat.one_pos
            rcases inductionHypothesis remaining.length (by omega)
                readLater rfl with
              shorter | ⟨rfl, plain, rfl⟩ | escaped
            · left
              rw [List.length_append]
              omega
            · rcases took.length with shorter | ⟨own, low, high, rfl, rfl⟩
              · left
                rw [List.length_append]
                omega
              · rw [List.singleton_append] at whole
                rcases List.cons.inj whole with ⟨rfl, rfl⟩
                refine Or.inr (Or.inl ⟨rfl, ?_, rfl⟩)
                intro other member
                rcases List.mem_cons.mp member with rfl | member
                · exact decide_eq_true ⟨low, notQuote, high⟩
                · exact plain other member
            · exact Or.inr (Or.inr escaped)
          · -- The character goes past the quote, so it is an escaped quote.
            have two : (byte :: contents ++ quote :: beyond).length = 2 :=
              took.quote (by simp)
            simp only [List.length_append, List.length_cons] at two
            rw [List.length_eq_zero_iff.mp (by omega : beyond.length = 0)]
            exact Or.inr (Or.inr ⟨later, readLater⟩)

theorem scalar_ne_string (word content : Text) :
    scalar word ≠ some (.string content) := by
  unfold scalar
  split
  · simp
  · split
    · simp
    · split
      · simp
      · split
        · simp
        · simp

theorem reads_string {input content rest : Text}
    (reads : Reads input (.string content) rest) :
    ∃ after, input = quote :: after ∧ ReadsString after content rest := by
  rcases reads with ⟨bound, read⟩
  cases bound with
  | zero => cases read
  | succ bound =>
      cases input with
      | nil => cases read
      | cons first after =>
          simp only [readValue] at read
          split at read
          · next isQuote =>
            rcases Option.map_eq_some_iff.mp read with
              ⟨⟨string, last⟩, stringRead, ⟨⟩⟩
            exact ⟨after, by rw [isQuote], bound, stringRead⟩
          · split at read
            · split at read
              · cases read
              · rcases Option.map_eq_some_iff.mp read with ⟨_, _, ⟨⟩⟩
            · split at read
              · split at read
                · cases read
                · rcases Option.map_eq_some_iff.mp read with ⟨_, _, ⟨⟩⟩
              · rcases Option.map_eq_some_iff.mp read with
                  ⟨word, known, same⟩
                rw [(Prod.mk.inj same).1] at known
                exact absurd known (scalar_ne_string _ _)

/-- A text that denotes a string is longer than the string. -/
theorem Denotes.length_lt {text content : Text}
    (denotes : Denotes text (.string content)) :
    content.length < text.length := by
  rcases denotes_iff.mp denotes with ⟨rest, reads, -⟩
  rcases reads_string reads with ⟨after, skipped, stringRead⟩
  have shorter := stringRead.length_lt
  have whole : (skipSpaces text).length ≤ text.length :=
    (List.dropWhile_suffix isSpace).length_le
  rw [skipped, List.length_cons] at whole
  omega

/-! ## Control characters -/

section

variable {control : UInt8}

theorem mem_skipSpaces (notSpace : isSpace control = false)
    {input : Text} (member : control ∈ input) : control ∈ skipSpaces input := by
  rw [← @List.takeWhile_append_dropWhile _ isSpace input] at member
  rcases List.mem_append.mp member with taken | stays
  · have impossible := List.mem_takeWhile_imp taken
    rw [notSpace] at impossible
    cases impossible
  · exact stays

theorem mem_of_expect (isControl : control < 0x20)
    (notSpace : isSpace control = false) {sign : UInt8} {input rest : Text}
    (found : expect sign input = some rest) (printable : 0x20 ≤ sign)
    (member : control ∈ input) : control ∈ rest := by
  have stays := mem_skipSpaces notSpace member
  rw [skipSpaces_eq_of_expect found] at stays
  rcases List.mem_cons.mp stays with rfl | stays
  · exact absurd printable (UInt8.not_le.mpr isControl)
  · exact stays

theorem mem_of_readString (isControl : control < 0x20) {bound : Nat}
    {input content rest : Text}
    (read : readString bound input = some (content, rest))
    (member : control ∈ input) : control ∈ rest := by
  induction bound generalizing input content with
  | zero => cases read
  | succ bound inductionHypothesis =>
      cases input with
      | nil => cases read
      | cons byte after =>
          simp only [readString] at read
          split at read
          · next closed =>
            cases read
            rcases List.mem_cons.mp member with rfl | stays
            · exact absurd isControl (by rw [closed]; decide)
            · exact stays
          · rcases Option.bind_eq_some_iff.mp read with
              ⟨⟨character, behind⟩, first, continued⟩
            rcases Option.bind_eq_some_iff.mp continued with
              ⟨⟨later, last⟩, readLater, ⟨⟩⟩
            rcases readCharacter_taken first with ⟨taken, split, took⟩
            rw [split] at member
            rcases List.mem_append.mp member with inside | stays
            · exact absurd (took.printable control inside)
                (UInt8.not_le.mpr isControl)
            · exact inductionHypothesis readLater stays

theorem not_isWord_of_control (isControl : control < 0x20) :
    isWord control = false := by
  have other {sign : UInt8} (printable : 0x20 ≤ sign) :
      ¬ sign ≤ control :=
    UInt8.not_le.mpr (UInt8.lt_of_lt_of_le isControl printable)
  have ne {sign : UInt8} (printable : 0x20 ≤ sign) : control ≠ sign :=
    UInt8.ne_of_lt (UInt8.lt_of_lt_of_le isControl printable)
  simp [isWord, isDigit, other, ne]

/-- A control character in the input is behind what is read. -/
structure ControlStays (control : UInt8) (bound : Nat) : Prop where
  value :
    ∀ {input rest : Text} {value : Value},
      readValue bound input = some (value, rest) → control ∈ input →
        control ∈ rest
  elements :
    ∀ {input rest : Text} {elements : List Value},
      readElements bound input = some (elements, rest) → control ∈ input →
        control ∈ rest
  members :
    ∀ {input rest : Text} {members : List (Text × Value)},
      readMembers bound input = some (members, rest) → control ∈ input →
        control ∈ rest

theorem ControlStays.value_succ (isControl : control < 0x20)
    (notSpace : isSpace control = false) {bound : Nat}
    (below : ControlStays control bound) {input rest : Text} {value : Value}
    (read : readValue (bound + 1) input = some (value, rest))
    (member : control ∈ input) : control ∈ rest := by
  cases input with
  | nil => cases read
  | cons first after =>
      have behindFirst (printable : 0x20 ≤ first) :
          control ∈ after := by
        rcases List.mem_cons.mp member with rfl | stays
        · exact absurd printable (UInt8.not_le.mpr isControl)
        · exact stays
      simp only [readValue] at read
      split at read
      · next isQuote =>
        rcases Option.map_eq_some_iff.mp read with
          ⟨⟨content, last⟩, string, ⟨⟩⟩
        exact mem_of_readString isControl string
          (behindFirst (by rw [isQuote]; decide))
      · split at read
        · next isBrace =>
          have inside := behindFirst (by rw [isBrace]; decide)
          split at read
          · next last closed =>
            cases read
            exact mem_of_expect isControl notSpace closed (by decide) inside
          · rcases Option.map_eq_some_iff.mp read with
              ⟨⟨members, last⟩, membersRead, ⟨⟩⟩
            exact below.members membersRead
              (mem_skipSpaces notSpace inside)
        · split at read
          · next isBracket =>
            have inside := behindFirst (by rw [isBracket]; decide)
            split at read
            · next last closed =>
              cases read
              exact mem_of_expect isControl notSpace closed (by decide) inside
            · rcases Option.map_eq_some_iff.mp read with
                ⟨⟨elements, last⟩, elementsRead, ⟨⟩⟩
              exact below.elements elementsRead
                (mem_skipSpaces notSpace inside)
          · rcases Option.map_eq_some_iff.mp read with
              ⟨word, known, ⟨⟩⟩
            rw [← @List.takeWhile_append_dropWhile _ isWord
              (first :: after)] at member
            rcases List.mem_append.mp member with taken | stays
            · have impossible := List.mem_takeWhile_imp taken
              rw [not_isWord_of_control isControl] at impossible
              cases impossible
            · exact stays

theorem ControlStays.elements_succ (isControl : control < 0x20)
    (notSpace : isSpace control = false) {bound : Nat}
    (below : ControlStays control bound) {input rest : Text}
    {elements : List Value}
    (read : readElements (bound + 1) input = some (elements, rest))
    (member : control ∈ input) : control ∈ rest := by
  rcases Option.bind_eq_some_iff.mp read with
    ⟨⟨value, after⟩, first, continued⟩
  have behind := below.value first member
  simp only at continued
  split at continued
  · next last isComma =>
    rcases Option.bind_eq_some_iff.mp continued with
      ⟨⟨others, final⟩, later, ⟨⟩⟩
    have next := mem_of_expect isControl notSpace isComma (by decide) behind
    exact below.elements later (mem_skipSpaces notSpace next)
  · rcases Option.bind_eq_some_iff.mp continued with
      ⟨last, closed, ⟨⟩⟩
    exact mem_of_expect isControl notSpace closed (by decide) behind

theorem ControlStays.members_succ (isControl : control < 0x20)
    (notSpace : isSpace control = false) {bound : Nat}
    (below : ControlStays control bound) {input rest : Text}
    {members : List (Text × Value)}
    (read : readMembers (bound + 1) input = some (members, rest))
    (member : control ∈ input) : control ∈ rest := by
  rcases Option.bind_eq_some_iff.mp read with ⟨opened, isQuote, read⟩
  rcases Option.bind_eq_some_iff.mp read with
    ⟨⟨name, named⟩, string, read⟩
  rcases Option.bind_eq_some_iff.mp read with
    ⟨behindColon, isColon, read⟩
  rcases Option.bind_eq_some_iff.mp read with
    ⟨⟨value, after⟩, first, continued⟩
  have inside := mem_of_expect isControl notSpace isQuote (by decide) member
  have behindName := mem_of_readString isControl string inside
  have atColon :=
    mem_of_expect isControl notSpace isColon (by decide) behindName
  have atValue := mem_skipSpaces notSpace atColon
  have behind := below.value first atValue
  simp only at continued
  split at continued
  · next last isComma =>
    rcases Option.bind_eq_some_iff.mp continued with
      ⟨⟨others, final⟩, later, ⟨⟩⟩
    have next := mem_of_expect isControl notSpace isComma (by decide) behind
    exact below.members later (mem_skipSpaces notSpace next)
  · rcases Option.bind_eq_some_iff.mp continued with
      ⟨last, closed, ⟨⟩⟩
    exact mem_of_expect isControl notSpace closed (by decide) behind

theorem controlStays (isControl : control < 0x20)
    (notSpace : isSpace control = false) (bound : Nat) :
    ControlStays control bound := by
  induction bound with
  | zero =>
      constructor
      · intro input rest value impossible
        cases impossible
      · intro input rest elements impossible
        cases impossible
      · intro input rest members impossible
        cases impossible
  | succ bound below =>
      exact ⟨below.value_succ isControl notSpace,
        below.elements_succ isControl notSpace,
        below.members_succ isControl notSpace⟩

/-- There are no control characters in a JSON text other than spaces. -/
theorem Denotes.not_mem_control (isControl : control < 0x20)
    (notSpace : isSpace control = false) {text : Text} {value : Value}
    (denotes : Denotes text value) : control ∉ text := by
  rcases denotes with ⟨bound, rest, read, ended⟩
  intro member
  have stays := mem_skipSpaces notSpace
    ((controlStays isControl notSpace bound).value read
      (mem_skipSpaces notSpace member))
  rw [ended] at stays
  cases stays

end

/-! ## Members with a known name -/

theorem readsMembers_named_iff {name : Text} (plain : Plain name)
    {input rest : Text} {members : List (Text × Value)} :
    ReadsMembers (quote :: (name ++ quote :: colon :: input)) members rest ↔
      ∃ value last, Reads (skipSpaces input) value last ∧
        ((∃ next others, expect comma last = some next ∧
            ReadsMembers (skipSpaces next) others rest ∧
            members = (name, value) :: others) ∨
          expect comma last = none ∧ expect closeBrace last = some rest ∧
            members = [(name, value)]) := by
  have opens := expect_cons (by decide : isSpace quote = false)
    (name ++ quote :: colon :: input)
  have named := readsString_plain plain (colon :: input)
  have behindName := expect_cons (by decide : isSpace colon = false) input
  rw [readsMembers_iff]
  constructor
  · rintro ⟨opened, name', after, behind, value, last, isQuote, string,
      isColon, valueRead, continued⟩
    rw [opens] at isQuote
    cases isQuote
    rcases named.unique string with ⟨rfl, rfl⟩
    rw [behindName] at isColon
    cases isColon
    exact ⟨value, last, valueRead, continued⟩
  · rintro ⟨value, last, valueRead, continued⟩
    exact ⟨_, name, _, input, value, last, opens, named, behindName,
      valueRead, continued⟩

theorem not_isSpace_of_isWord {byte : UInt8} (word : isWord byte = true) :
    isSpace byte = false := by
  by_contra space
  have blank : isSpace byte = true := by simpa using space
  simp only [isSpace, List.mem_cons, List.not_mem_nil, or_false,
    decide_eq_true_eq] at blank
  rcases blank with rfl | rfl | rfl | rfl
  · exact absurd word (by decide)
  · exact absurd word (by decide)
  · exact absurd word (by decide)
  · exact absurd word (by decide)

/-- A word is read as a whole. -/
theorem reads_word {word tail : Text} {value : Value}
    (known : scalar word = some value)
    (isWord' : ∀ byte ∈ word, isWord byte = true)
    (stop : ∀ byte ∈ tail.head?, isWord byte = false) :
    Reads (word ++ tail) value tail := by
  have wordPart : (word ++ tail).takeWhile isWord = word := by
    rw [List.takeWhile_append_of_pos isWord']
    cases tail with
    | nil => simp
    | cons byte tail => simp [stop byte rfl]
  have otherPart : (word ++ tail).dropWhile isWord = tail := by
    rw [List.dropWhile_append_of_pos isWord']
    cases tail with
    | nil => rfl
    | cons byte tail => simp [stop byte rfl]
  have scalarRead : readScalar (word ++ tail) = some (value, tail) := by
    rw [readScalar, wordPart, otherPart, known]
    rfl
  cases word with
  | nil => cases known
  | cons first word =>
      have own : isWord first = true := isWord' first List.mem_cons_self
      have other {sign : UInt8} (notWord : isWord sign = false) :
          first ≠ sign := by
        rintro rfl
        rw [own] at notWord
        cases notWord
      refine ⟨1, ?_⟩
      rw [List.cons_append] at scalarRead ⊢
      rw [readValue, if_neg (other (by decide)), if_neg (other (by decide)),
        if_neg (other (by decide))]
      exact scalarRead

/-! ## Integers -/

/-- The digits of a natural number. -/
def digits (value : Nat) : Text :=
  if value = 0 then [0x30]
  else (Nat.digits 10 value).reverse.map fun digit => UInt8.ofNat (0x30 + digit)

/-- An integer as it is printed. -/
def decimal : Int → Text
  | .ofNat value => digits value
  | .negSucc value => 0x2d :: digits (value + 1)

/-- The number that a row of digits stands for. -/
def fromDigits (literal : Text) : Nat :=
  literal.foldl (fun value byte => value * 10 + (byte.toNat - 0x30)) 0

theorem toNat_digit {digit : Nat} (isDigit' : digit < 10) :
    (UInt8.ofNat (0x30 + digit)).toNat = 0x30 + digit := by
  rw [UInt8.toNat_ofNat']
  omega

theorem isDigit_digit {digit : Nat} (isDigit' : digit < 10) :
    isDigit (UInt8.ofNat (0x30 + digit)) = true := by
  apply decide_eq_true
  rw [UInt8.le_iff_toNat_le, UInt8.le_iff_toNat_le, toNat_digit isDigit']
  refine ⟨Nat.le_add_right _ _, ?_⟩
  show 0x30 + digit ≤ 0x39
  omega

theorem isDigit_of_mem_digits {value : Nat} {byte : UInt8}
    (member : byte ∈ digits value) : isDigit byte = true := by
  unfold digits at member
  split at member
  · rw [List.mem_singleton.mp member]
    decide
  · rcases List.mem_map.mp member with ⟨digit, inside, rfl⟩
    exact isDigit_digit
      (Nat.digits_lt_base (by decide) (List.mem_reverse.mp inside))

theorem fromDigits_digits (value : Nat) :
    fromDigits (digits value) = value := by
  unfold digits
  split
  · next zero =>
    rw [zero]
    decide
  · have folded (row : List Nat) (small : ∀ digit ∈ row, digit < 10) :
        fromDigits (row.reverse.map fun digit => UInt8.ofNat (0x30 + digit)) =
          Nat.ofDigits 10 row := by
      induction row with
      | nil => rfl
      | cons digit row inductionHypothesis =>
          rw [List.forall_mem_cons] at small
          rw [List.reverse_cons, List.map_append, fromDigits,
            List.foldl_append, ← fromDigits, inductionHypothesis small.2,
            Nat.ofDigits_cons]
          simp only [List.map_cons, List.map_nil, List.foldl_cons,
            List.foldl_nil, toNat_digit small.1]
          omega
    rw [folded _ fun digit => Nat.digits_lt_base (by decide),
      Nat.ofDigits_digits]

theorem digits_ne_nil (value : Nat) : digits value ≠ [] := by
  unfold digits
  split
  · simp
  · next nonzero =>
    simp [Nat.digits_ne_nil_iff_ne_zero.mpr nonzero]

/-- Only zero begins with a zero. -/
theorem digits_head {value : Nat}
    (zero : (digits value).head? = some 0x30) : (digits value).length = 1 := by
  unfold digits at zero ⊢
  split
  · rfl
  · next nonzero =>
    rw [if_neg nonzero, List.head?_map, List.head?_reverse,
      List.getLast?_eq_some_getLast
        (Nat.digits_ne_nil_iff_ne_zero.mpr nonzero)] at zero
    have small := Nat.digits_lt_base (by decide : 1 < 10)
      (List.getLast_mem (Nat.digits_ne_nil_iff_ne_zero.mpr nonzero))
    have same := congrArg UInt8.toNat (Option.some.inj zero)
    rw [toNat_digit small] at same
    exact absurd (Nat.add_left_cancel same)
      (Nat.getLast_digit_ne_zero 10 nonzero)

theorem isUnsigned_digits (value : Nat) :
    isUnsigned (digits value) = true := by
  have all : ∀ byte ∈ digits value, isDigit byte = true :=
    fun byte => isDigit_of_mem_digits
  have whole : (digits value).takeWhile isDigit = digits value :=
    List.takeWhile_eq_self_iff.mpr all
  have noRest : (digits value).dropWhile isDigit = [] :=
    List.dropWhile_eq_nil_iff.mpr all
  unfold isUnsigned
  rw [whole, noRest]
  exact decide_eq_true ⟨digits_ne_nil value, digits_head, rfl⟩

theorem isWord_of_isDigit {byte : UInt8} (isDigit' : isDigit byte = true) :
    isWord byte = true :=
  decide_eq_true (Or.inl isDigit')

theorem isWord_of_mem_decimal {value : Int} {byte : UInt8}
    (member : byte ∈ decimal value) : isWord byte = true := by
  cases value with
  | ofNat value => exact isWord_of_isDigit (isDigit_of_mem_digits member)
  | negSucc value =>
      rcases List.mem_cons.mp member with rfl | member
      · decide
      · exact isWord_of_isDigit (isDigit_of_mem_digits member)

theorem isNumber_decimal (value : Int) : isNumber (decimal value) = true := by
  cases value with
  | ofNat value =>
      have unsigned := isUnsigned_digits value
      simp only [decimal]
      cases row : digits value with
      | nil => exact absurd row (digits_ne_nil value)
      | cons byte rest =>
          have isDigit' : isDigit byte = true :=
            isDigit_of_mem_digits (by rw [row]; exact List.mem_cons_self)
          have notMinus : byte ≠ 0x2d := by
            rintro rfl
            exact absurd isDigit' (by decide)
          rw [isNumber, if_neg notMinus, ← row]
          exact unsigned
  | negSucc value => exact isUnsigned_digits (value + 1)

/-- A printed integer denotes itself. -/
theorem scalar_decimal (value : Int) :
    scalar (decimal value) = some (.number (decimal value)) := by
  have number := isNumber_decimal value
  have other {word : Text} (notNumber : isNumber word = false) :
      decimal value ≠ word := by
    intro same
    rw [same, notNumber] at number
    cases number
  rw [scalar, if_neg (other (by decide)), if_neg (other (by decide)),
    if_neg (other (by decide)), if_pos number]

theorem reads_decimal (value : Int) {tail : Text}
    (stop : ∀ byte ∈ tail.head?, isWord byte = false) :
    Reads (decimal value ++ tail) (.number (decimal value)) tail :=
  reads_word (scalar_decimal value) (fun _ => isWord_of_mem_decimal) stop

theorem isPlain_of_isWord {byte : UInt8} (word : isWord byte = true) :
    isPlain byte = true := by
  refine decide_eq_true ⟨?_, ?_, ?_⟩
  · by_contra control
    rw [not_isWord_of_control (UInt8.not_le.mp control)] at word
    cases word
  · rintro rfl
    exact absurd word (by decide)
  · rintro rfl
    exact absurd word (by decide)

theorem plain_decimal (value : Int) : Plain (decimal value) :=
  fun _ member => isPlain_of_isWord (isWord_of_mem_decimal member)

theorem decimal_eq_cons (value : Int) :
    ∃ byte rest, decimal value = byte :: rest ∧ isWord byte = true := by
  cases row : decimal value with
  | nil =>
      have number := isNumber_decimal value
      rw [row] at number
      cases number
  | cons byte rest =>
      exact ⟨byte, rest, rfl, @isWord_of_mem_decimal value byte
        (by rw [row]; exact List.mem_cons_self)⟩

theorem skipSpaces_decimal (value : Int) (tail : Text) :
    skipSpaces (decimal value ++ tail) = decimal value ++ tail := by
  rcases decimal_eq_cons value with ⟨byte, rest, row, word⟩
  rw [row]
  exact skipSpaces_cons_of_not_space (not_isSpace_of_isWord word) _

theorem expect_decimal {sign : UInt8} (notWord : isWord sign = false)
    (value : Int) (tail : Text) :
    expect sign (decimal value ++ tail) = none := by
  rcases decimal_eq_cons value with ⟨byte, rest, row, word⟩
  have other : byte ≠ sign := by
    rintro rfl
    rw [word] at notWord
    cases notWord
  have skipped := skipSpaces_decimal value tail
  rw [row] at skipped ⊢
  rw [expect_of_skipSpaces_eq skipped, if_neg other]

theorem denotes_decimal (value : Int) :
    Denotes (decimal value) (.number (decimal value)) := by
  refine denotes_iff.mpr ⟨[], ?_, rfl⟩
  have skipped := skipSpaces_decimal value []
  have reads := @reads_decimal value [] (by simp)
  rw [List.append_nil] at skipped reads
  rw [skipped]
  exact reads

end Anbox.Foundation.JsonText
