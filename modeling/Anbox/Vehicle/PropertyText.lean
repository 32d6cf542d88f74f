import Anbox.Json.Reader
import Anbox.Vehicle.PropertyValue

/-!
# The texts of property values

`vehiclePropValueToString` makes the text that is sent to the VIS server as
the new value of a property, and `jsonToVehicle` reads the value that comes
back.  A value makes a round trip unless it is a string, which is sent without
quotes, or a vector without elements, whose text is a single bracket.
-/

namespace Anbox.Vehicle.PropertyText

open Anbox.Foundation
open Anbox.Foundation.JsonText hiding Value
open Anbox.Json
open Anbox.Json.Reader
open Anbox.Vehicle.PropertyValue

variable {Single : Type}

/-! ## To a text -/

/--
The loop over the elements of a vector, whose last character becomes the
closing bracket.
-/
def elementsText (elements : List Text) : Text :=
  let text := elements.foldl (fun text element => text ++ element ++ [comma])
    [openBracket]
  text.dropLast ++ [closeBracket]

section

variable (numbers : PropertyNumbers) (floatText : Single → Text)

/-- A scalar is the first element of its vector, which is not empty. -/
def vehiclePropValueToString (val : VehiclePropValue Single) : Text :=
  match numbers.getPropType val.prop with
  | .string => val.value.stringValue
  | .float => (val.value.floatValues.head?.map floatText).getD []
  | .int32 => decimal (val.value.int32Values.headD 0)
  | .int64 => decimal (val.value.int64Values.headD 0)
  | .boolean => decimal (val.value.int32Values.headD 0)
  | .int32Vec => elementsText (val.value.int32Values.map decimal)
  | .int64Vec => elementsText (val.value.int64Values.map decimal)
  | .floatVec => elementsText (val.value.floatValues.map floatText)
  | .bytes => []
  | .mixed => []
  | .invalid => []

end

/-! ## Lists of integers -/

/-- What follows an element in the text of a list. -/
def elementsEnd : List Text → Text
  | [] => [closeBracket]
  | element :: elements => comma :: (element ++ elementsEnd elements)

theorem elementsText_cons (first : Text) (others : List Text) :
    elementsText (first :: others) =
      openBracket :: (first ++ elementsEnd others) := by
  have patched (text : Text) (elements : List Text) :
      (elements.foldl (fun text element => text ++ element ++ [comma])
            (text ++ [comma])).dropLast ++ [closeBracket] =
        text ++ elementsEnd elements := by
    induction elements generalizing text with
    | nil => simp [elementsEnd]
    | cons element elements inductionHypothesis =>
        rw [List.foldl_cons, inductionHypothesis]
        simp [elementsEnd]
  exact patched (openBracket :: first) others

theorem readsElements_decimals (first : Int) (others : List Int) :
    ReadsElements (decimal first ++ elementsEnd (others.map decimal))
      ((first :: others).map fun value => .number (decimal value)) [] := by
  induction others generalizing first with
  | nil =>
      refine readsElements_iff.mpr ⟨_, _, reads_decimal first ?_,
        Or.inr ⟨rfl, rfl, rfl⟩⟩
      rintro byte ⟨⟩
      rfl
  | cons second others inductionHypothesis =>
      refine readsElements_iff.mpr ⟨_, _, reads_decimal first ?_,
        Or.inl ⟨_, _, rfl, ?_, rfl⟩⟩
      · rintro byte ⟨⟩
        rfl
      · rw [skipSpaces_decimal]
        exact inductionHypothesis second

/-- The text of a list with an element is an array of these numbers. -/
theorem denotes_elementsText (first : Int) (others : List Int) :
    Denotes (elementsText ((first :: others).map decimal))
      (.array ((first :: others).map fun value =>
        .number (decimal value))) := by
  have notClosed :=
    expect_decimal (by decide : isWord closeBracket = false) first
      (elementsEnd (others.map decimal))
  refine denotes_iff.mpr ⟨[], ?_, rfl⟩
  rw [List.map_cons, elementsText_cons,
    skipSpaces_cons_of_not_space (by decide), reads_openBracket_iff notClosed,
    skipSpaces_decimal]
  exact ⟨_, rfl, readsElements_decimals first others⟩

/-- A bracket by itself is not a JSON text. -/
theorem not_denotes_closeBracket (value : JsonText.Value) :
    ¬ Denotes [closeBracket] value := by
  rintro ⟨bound, rest, read, -⟩
  cases bound with
  | zero => cases read
  | succ bound => cases read

/-! ## Reading the texts back -/

section

variable (decodeDouble : Text → Double)

/-- A printed integer between bounds within 64 bits is read between them. -/
theorem decimal_isIntegerIn {low high integer : Int}
    (wideLow : minInt64 ≤ low) (wideHigh : high ≤ maxInt64)
    (above : low ≤ integer) (below : integer ≤ high) :
    (decodeNumber decodeDouble (decimal integer)).isIntegerIn low high =
      true :=
  Value.isIntegerIn_iff.mpr
    ⟨integer,
      integer_decodeNumber_decimal decodeDouble (wideLow.trans above)
        (below.trans wideHigh), above, below⟩

theorem decimal_asInteger {low high integer : Int}
    (wideLow : minInt64 ≤ low) (wideHigh : high ≤ maxInt64)
    (above : low ≤ integer) (below : integer ≤ high) :
    (decodeNumber decodeDouble (decimal integer)).asInteger low high =
      .ok integer :=
  Value.asInteger_of_integer
    (integer_decodeNumber_decimal decodeDouble (wideLow.trans above)
      (below.trans wideHigh)) above below

/-- A list of integers is written over a vector of its size. -/
theorem writeVector_decimals {low high : Int}
    (wideLow : minInt64 ≤ low) (wideHigh : high ≤ maxInt64)
    {integers vector : List Int} (nonempty : integers ≠ [])
    (within : ∀ integer ∈ integers, low ≤ integer ∧ integer ≤ high)
    (sameSize : integers.length = vector.length) :
    writeVector (Value.isIntegerIn low high) (Value.asInteger low high)
        vector
        (decode decodeDouble
          (.array (integers.map fun value => .number (decimal value)))) =
      .ok (true, integers) := by
  let values := integers.map fun value =>
    decodeNumber decodeDouble (decimal value)
  have decoded :
      decode decodeDouble
          (.array (integers.map fun value => .number (decimal value))) =
        .array values := by
    rw [decode, decodeElements_eq_map, List.map_map]
    rfl
  have converted :
      List.Forall₂
        (fun value integer => value.asInteger low high = .ok integer)
        values integers := by
    rw [List.forall₂_map_left_iff, List.forall₂_same]
    intro integer member
    exact decimal_asInteger decodeDouble wideLow wideHigh
      (within integer member).1 (within integer member).2
  have written :
      writeElements (Value.asInteger low high) vector values =
        .ok integers :=
    (writeElements_of_length (by rw [List.length_map, sameSize])).mpr
      converted
  have accepted :
      (values.getD 0 .null).isIntegerIn low high = true := by
    cases integers with
    | nil => exact absurd rfl nonempty
    | cons first others =>
        have own := within first List.mem_cons_self
        exact decimal_isIntegerIn decodeDouble wideLow wideHigh own.1 own.2
  rw [decoded]
  simp only [writeVector, accepted, if_true, written]
  rfl

end

/-! ## The round trip -/

/-- The field that is in use. -/
inductive Contents where
  | text (value : Text)
  | integers (values : List Int)
  /-- Contents of a type without a round trip. -/
  | other
deriving DecidableEq, Repr

variable (numbers : PropertyNumbers) (floatText : Single → Text)
  (toFloat : Value → Single) (decodeDouble : Text → Double)

def contents (val : VehiclePropValue Single) : Contents :=
  match numbers.getPropType val.prop with
  | .string => .text val.value.stringValue
  | .int32 | .boolean | .int32Vec => .integers val.value.int32Values
  | .int64 | .int64Vec => .integers val.value.int64Values
  | .float | .floatVec | .bytes | .mixed | .invalid => .other

/-- The value is a string, a number, a boolean or a vector of integers. -/
def Carries (val : VehiclePropValue Single) : Prop :=
  match numbers.getPropType val.prop with
  | .string => True
  | .int32 =>
      ∃ integer, val.value.int32Values = [integer] ∧
        minInt ≤ integer ∧ integer ≤ maxInt
  | .int64 =>
      ∃ integer, val.value.int64Values = [integer] ∧
        minInt64 ≤ integer ∧ integer ≤ maxInt64
  | .boolean => val.value.int32Values = [0] ∨ val.value.int32Values = [1]
  | .int32Vec =>
      ∀ integer ∈ val.value.int32Values, minInt ≤ integer ∧ integer ≤ maxInt
  | .int64Vec =>
      ∀ integer ∈ val.value.int64Values,
        minInt64 ≤ integer ∧ integer ≤ maxInt64
  | .float | .floatVec | .bytes | .mixed | .invalid => False

/-- The text of the value, read into a stored one, yields the value. -/
def RoundTrips (val stored : VehiclePropValue Single) : Prop :=
  ∃ value, Denotes (vehiclePropValueToString numbers floatText val) value ∧
    ∃ next,
      jsonToVehicle numbers toFloat (decode decodeDouble value) stored =
          .ok (true, next) ∧
        contents numbers next = contents numbers val

variable {val stored : VehiclePropValue Single}

/-- A string is never read back: the JSON text of a string is longer. -/
theorem not_roundTrips_string
    (type : numbers.getPropType val.prop = .string)
    (sameProp : stored.prop = val.prop) :
    ¬ RoundTrips numbers floatText toFloat decodeDouble val stored := by
  rintro ⟨value, denotes, next, returned, same⟩
  have keeps := (jsonToVehicle_keeps numbers toFloat returned).1
  have nextProp : next.prop = val.prop := by rw [keeps.others, ← sameProp]
  simp only [vehiclePropValueToString, type] at denotes
  simp only [contents, nextProp, type, Contents.text.injEq] at same
  simp only [jsonToVehicle, sameProp, type] at returned
  cases value with
  | string content =>
      rw [decode] at returned
      cases returned
      have shorter := denotes.length_lt
      rw [← same] at shorter
      exact absurd shorter (Nat.lt_irrefl _)
  | number literal =>
      simp only [decode] at returned
      split at returned
      · next content isString =>
        exact absurd isString (decodeNumber_ne_string _ _ _)
      · cases returned
  | null | boolean value | array elements | object members =>
      simp only [decode] at returned
      cases returned

/-- The text of a vector without elements is not a JSON text. -/
theorem not_roundTrips_empty
    (vector :
      numbers.getPropType val.prop = .int32Vec ∨
        numbers.getPropType val.prop = .int64Vec)
    (empty : vectorSize numbers val = 0) :
    ¬ RoundTrips numbers floatText toFloat decodeDouble val stored := by
  rintro ⟨value, denotes, -⟩
  rcases vector with type | type
  · simp only [vectorSize, type, List.length_eq_zero_iff] at empty
    simp only [vehiclePropValueToString, type, empty] at denotes
    exact not_denotes_closeBracket value denotes
  · simp only [vectorSize, type, List.length_eq_zero_iff] at empty
    simp only [vehiclePropValueToString, type, empty] at denotes
    exact not_denotes_closeBracket value denotes

section

variable {numbers floatText toFloat decodeDouble}
variable {next : VehiclePropValue Single}

/-- A value that is printed as an integer and is read from one. -/
theorem roundTrips_of_decimal {integer : Int}
    (text :
      vehiclePropValueToString numbers floatText val = decimal integer)
    (returned :
      jsonToVehicle numbers toFloat
          (decode decodeDouble (.number (decimal integer))) stored =
        .ok (true, next))
    (same : contents numbers next = contents numbers val) :
    RoundTrips numbers floatText toFloat decodeDouble val stored := by
  refine ⟨.number (decimal integer), ?_, next, returned, same⟩
  rw [text]
  exact denotes_decimal integer

/-- A value that is printed as a vector of integers and is read from one. -/
theorem roundTrips_of_decimals {integers : List Int}
    (nonempty : integers ≠ [])
    (text :
      vehiclePropValueToString numbers floatText val =
        elementsText (integers.map decimal))
    (returned :
      jsonToVehicle numbers toFloat
          (decode decodeDouble
            (.array (integers.map fun value => .number (decimal value))))
          stored = .ok (true, next))
    (same : contents numbers next = contents numbers val) :
    RoundTrips numbers floatText toFloat decodeDouble val stored := by
  refine ⟨_, ?_, next, returned, same⟩
  rw [text]
  cases integers with
  | nil => exact absurd rfl nonempty
  | cons first others => exact denotes_elementsText first others

end

theorem roundTrips_int32 (type : numbers.getPropType val.prop = .int32)
    (sameProp : stored.prop = val.prop) (carries : Carries numbers val) :
    RoundTrips numbers floatText toFloat decodeDouble val stored := by
  simp only [Carries, type] at carries
  rcases carries with ⟨integer, same, above, below⟩
  have accepted := decimal_isIntegerIn decodeDouble (by decide) (by decide)
    above below
  have converted := decimal_asInteger decodeDouble (by decide) (by decide)
    above below
  have returned :
      jsonToVehicle numbers toFloat
          (decode decodeDouble (.number (decimal integer))) stored =
        .ok (true, { stored with value := obtainInt32 integer }) := by
    simp only [jsonToVehicle, sameProp, type, decode, Value.isInt, accepted,
      if_true, Value.asInt, converted]
    rfl
  refine roundTrips_of_decimal ?_ returned ?_
  · simp only [vehiclePropValueToString, type, same, List.headD_cons]
  · simp only [contents, sameProp, type, same]
    rfl

theorem roundTrips_int64 (type : numbers.getPropType val.prop = .int64)
    (sameProp : stored.prop = val.prop) (carries : Carries numbers val) :
    RoundTrips numbers floatText toFloat decodeDouble val stored := by
  simp only [Carries, type] at carries
  rcases carries with ⟨integer, same, above, below⟩
  have accepted := decimal_isIntegerIn decodeDouble (by decide) (by decide)
    above below
  have converted := decimal_asInteger decodeDouble (by decide) (by decide)
    above below
  have returned :
      jsonToVehicle numbers toFloat
          (decode decodeDouble (.number (decimal integer))) stored =
        .ok (true, { stored with value := obtainInt64 integer }) := by
    simp only [jsonToVehicle, sameProp, type, decode, Value.isInt64,
      accepted, if_true, Value.asInt64, converted]
    rfl
  refine roundTrips_of_decimal ?_ returned ?_
  · simp only [vehiclePropValueToString, type, same, List.headD_cons]
  · simp only [contents, sameProp, type, same]
    rfl

theorem roundTrips_boolean (type : numbers.getPropType val.prop = .boolean)
    (sameProp : stored.prop = val.prop) (carries : Carries numbers val) :
    RoundTrips numbers floatText toFloat decodeDouble val stored := by
  have either (flag : Bool)
      (same : val.value.int32Values = [if flag then 1 else 0]) :
      RoundTrips numbers floatText toFloat decodeDouble val stored := by
    have returned :
        jsonToVehicle numbers toFloat
            (decode decodeDouble
              (.number (decimal (if flag then 1 else 0)))) stored =
          .ok (true, { stored with value := obtainBoolean flag }) := by
      simp only [jsonToVehicle, sameProp, type, decode]
      cases flag with
      | false => rfl
      | true => rfl
    refine roundTrips_of_decimal ?_ returned ?_
    · simp only [vehiclePropValueToString, type, same, List.headD_cons]
    · simp only [contents, sameProp, type, same]
      rfl
  simp only [Carries, type] at carries
  rcases carries with zero | one
  · exact either false zero
  · exact either true one

theorem roundTrips_int32Vec (type : numbers.getPropType val.prop = .int32Vec)
    (sameProp : stored.prop = val.prop)
    (sameSize : vectorSize numbers stored = vectorSize numbers val)
    (carries : Carries numbers val)
    (nonempty : vectorSize numbers val ≠ 0) :
    RoundTrips numbers floatText toFloat decodeDouble val stored := by
  simp only [Carries, type] at carries
  simp only [vectorSize, sameProp, type] at sameSize nonempty
  have filled := List.ne_nil_of_length_pos (Nat.pos_of_ne_zero nonempty)
  have written := writeVector_decimals decodeDouble (by decide) (by decide)
    filled carries sameSize.symm
  have returned :
      jsonToVehicle numbers toFloat
          (decode decodeDouble
            (.array (val.value.int32Values.map fun value =>
              .number (decimal value)))) stored =
        .ok (true,
          { stored with value.int32Values := val.value.int32Values }) := by
    simp only [jsonToVehicle, sameProp, type]
    rw [show writeVector Value.isInt Value.asInt _ _ = _ from written]
    rfl
  refine roundTrips_of_decimals filled ?_ returned ?_
  · simp only [vehiclePropValueToString, type]
  · simp only [contents, sameProp, type]

theorem roundTrips_int64Vec (type : numbers.getPropType val.prop = .int64Vec)
    (sameProp : stored.prop = val.prop)
    (sameSize : vectorSize numbers stored = vectorSize numbers val)
    (carries : Carries numbers val)
    (nonempty : vectorSize numbers val ≠ 0) :
    RoundTrips numbers floatText toFloat decodeDouble val stored := by
  simp only [Carries, type] at carries
  simp only [vectorSize, sameProp, type] at sameSize nonempty
  have filled := List.ne_nil_of_length_pos (Nat.pos_of_ne_zero nonempty)
  have written := writeVector_decimals decodeDouble (by decide) (by decide)
    filled carries sameSize.symm
  have returned :
      jsonToVehicle numbers toFloat
          (decode decodeDouble
            (.array (val.value.int64Values.map fun value =>
              .number (decimal value)))) stored =
        .ok (true,
          { stored with value.int64Values := val.value.int64Values }) := by
    simp only [jsonToVehicle, sameProp, type]
    rw [show writeVector Value.isInt64 Value.asInt64 _ _ = _ from written]
    rfl
  refine roundTrips_of_decimals filled ?_ returned ?_
  · simp only [vehiclePropValueToString, type]
  · simp only [contents, sameProp, type]

/-- The values that are read back are those of neither failing kind. -/
theorem roundTrips_iff (carries : Carries numbers val)
    (sameProp : stored.prop = val.prop)
    (sameSize : vectorSize numbers stored = vectorSize numbers val) :
    RoundTrips numbers floatText toFloat decodeDouble val stored ↔
      numbers.getPropType val.prop ≠ .string ∧
        (numbers.getPropType val.prop = .int32Vec ∨
            numbers.getPropType val.prop = .int64Vec →
          vectorSize numbers val ≠ 0) := by
  constructor
  · intro roundTrips
    constructor
    · intro type
      exact not_roundTrips_string numbers floatText toFloat decodeDouble type
        sameProp roundTrips
    · intro vector empty
      exact not_roundTrips_empty numbers floatText toFloat decodeDouble vector
        empty roundTrips
  · rintro ⟨notString, nonempty⟩
    cases type : numbers.getPropType val.prop with
    | string => exact absurd type notString
    | boolean =>
        exact roundTrips_boolean numbers floatText toFloat decodeDouble type
          sameProp carries
    | int32 =>
        exact roundTrips_int32 numbers floatText toFloat decodeDouble type
          sameProp carries
    | int64 =>
        exact roundTrips_int64 numbers floatText toFloat decodeDouble type
          sameProp carries
    | int32Vec =>
        exact roundTrips_int32Vec numbers floatText toFloat decodeDouble type
          sameProp sameSize carries (nonempty (Or.inl type))
    | int64Vec =>
        exact roundTrips_int64Vec numbers floatText toFloat decodeDouble type
          sameProp sameSize carries (nonempty (Or.inr type))
    | float | floatVec | bytes | mixed | invalid =>
        simp only [Carries, type] at carries

theorem roundTrips_iff_keyInput :
    RoundTrips interfaceNumbers (fun _ => []) (fun _ => ())
        (fun _ => .finite 0) keyInput keyInput ↔
      interfaceNumbers.getPropType keyInput.prop ≠ .string ∧
        (interfaceNumbers.getPropType keyInput.prop = .int32Vec ∨
            interfaceNumbers.getPropType keyInput.prop = .int64Vec →
          vectorSize interfaceNumbers keyInput ≠ 0) :=
  roundTrips_iff interfaceNumbers (fun _ => []) (fun _ => ())
    (fun _ => .finite 0)
    (show ∀ integer ∈ [1, 2, 3], minInt ≤ integer ∧ integer ≤ maxInt
      by decide)
    rfl rfl

/-- A global property with a string, `INFO_VIN`. -/
def vehicleIdentification : VehiclePropValue Unit :=
  ⟨0, 0, 0x11100100, 0, { RawValue.empty with stringValue := ascii "WBA" }⟩

/-- A string without quotes around it is not a JSON text. -/
theorem string_without_quotes :
    Carries interfaceNumbers vehicleIdentification ∧
      ¬ RoundTrips interfaceNumbers (fun _ => []) (fun _ => ())
        (fun _ => .finite 0) vehicleIdentification
        vehicleIdentification := by
  refine ⟨trivial, ?_⟩
  exact not_roundTrips_string interfaceNumbers (fun _ => []) (fun _ => ())
    (fun _ => .finite 0) rfl rfl

end Anbox.Vehicle.PropertyText
