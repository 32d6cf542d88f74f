import Anbox.Foundation.ScannedNumber
import Std.Data.TreeMap.Lemmas
import Mathlib.Algebra.Order.Ring.Int
import Mathlib.Data.List.Basic

/-!
# Flattened messages of a VIS server

A text frame is parsed to a JSON value, which `parseJsonToStrings` flattens to
a map from member names to values.  The handlers look up their fields by name
in this map, so members of nested objects are found as well.
-/

namespace Anbox.Vis.Messages

open Anbox.Foundation.ScannedNumber (scanInteger)
open Std (TreeMap)

/-- A parsed value.  Numbers are kept as the text that `asString` gives. -/
inductive Json where
  | null
  | boolean (value : Bool)
  | number (text : String)
  | string (text : String)
  | array (elements : List Json)
  /-- The members, in the order of `getMemberNames`. -/
  | object (members : List (String × Json))

abbrev CommandResult := TreeMap String Json

/-- Why a message ends the process. -/
inductive Fault where
  /-- `abort` after "Parsing failed". -/
  | parsingFailed
  /-- An exception that nothing catches. -/
  | exception
deriving DecidableEq, Repr

def Json.isObject : Json → Bool
  | .object _ => true
  | _ => false

def Json.isArray : Json → Bool
  | .array _ => true
  | _ => false

/-! ## Flattening -/

mutual

/-- Only a root that is neither null nor a container makes this abort. -/
def parseJsonToStrings (rootKey : String) (result : CommandResult) :
    Json → Except Fault CommandResult
  | .null => .ok (result.insert rootKey .null)
  | .object members => parseMembers result members
  | .array elements => do
      let result ← parseElements rootKey result elements
      return if elements.any (fun element => !element.isObject) then
        result.insert rootKey (.array elements)
      else result
  | .boolean _ | .number _ | .string _ => .error .parsingFailed
termination_by structural value => value

/-- The loop over the members of an object. -/
def parseMembers (result : CommandResult) :
    List (String × Json) → Except Fault CommandResult
  | [] => .ok result
  | (name, value) :: members => do
      let result ←
        if value.isObject || value.isArray then
          parseJsonToStrings name result value
        else .ok result
      parseMembers (result.insert name value) members
termination_by structural members => members

/-- The loop over the elements of an array. -/
def parseElements (rootKey : String) (result : CommandResult) :
    List Json → Except Fault CommandResult
  | [] => .ok result
  | element :: elements => do
      let result ←
        if element.isObject then parseJsonToStrings rootKey result element
        else .ok result
      parseElements rootKey result elements
termination_by structural elements => elements

end

/-! ## Reading fields -/

/-- The characters of a C string end at the first zero character. -/
def cString (text : String) : List Char :=
  text.toList.takeWhile fun character => character != '\x00'

/-- `asCString` throws unless the value is a string. -/
def asCString : Json → Except Fault (List Char)
  | .string text => .ok (cString text)
  | _ => .error .exception

/-- `asString` throws on containers. -/
def asString : Json → Except Fault String
  | .null => .ok ""
  | .boolean value => .ok (if value then "true" else "false")
  | .number text | .string text => .ok text
  | .array _ | .object _ => .error .exception

/-- `std::stoi`; text that follows the number is ignored. -/
def stoi (text : List Char) : Except Fault Int :=
  match scanInteger text with
  | some value =>
      if -(2 ^ 31) ≤ value ∧ value < 2 ^ 31 then .ok value
      else .error .exception
  | none => .error .exception

/-- `std::stoi` of the field with this tag, or `none` if there is no field. -/
def findId (result : CommandResult) (tag : String) :
    Except Fault (Option Int) :=
  match result[tag]? with
  | none => .ok none
  | some value => do
      let text ← asCString value
      let id ← stoi text
      return some id

def kAllTag := "*"
def kValueTag := "value"
def kTimestampTag := "timestamp"
def kActionTag := "action"
def kErrorTag := "error"
def kRequestIdTag := "requestId"
def kSubscriptionIdTag := "subscriptionId"
def kActionGetTag := "get"
def kActionSetTag := "set"
def kActionSubscribeTag := "subscribe"
def kActionSubscriptionTag := "subscription"
def kActionUnsubscribeTag := "unsubscribe"
def kActionUnsubscribeAllTag := "unsubscribeAll"

end Anbox.Vis.Messages
