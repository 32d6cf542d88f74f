import Anbox.Bridge.LaunchRequest
import Anbox.Foundation.ScannedNumber
import Mathlib.Data.List.TakeWhile

/-!
# Launch requests over D-Bus

`anbox launch` hands its intent to the session manager in a D-Bus message of
type `a{sv}s`.  `dbus::stub::ApplicationManager::launch` writes one dictionary
entry for every text of the intent that is not empty, and after the dictionary
the name of the stack.  `dbus::skeleton::ApplicationManager::method_launch`
reads the entries back in the order in which they come and refuses a request
that names no package.

Flags, categories and the launch bounds have no place in the message.
-/

namespace Anbox.Dbus.ApplicationManager

open Anbox.Bridge.LaunchRequest (Intent invalidRect)
open Anbox.Foundation.ScannedNumber (isSpace)
open Anbox.Wm.MultiWindowManager (Rect Stack)

/-! ## Intents -/

/-- A default constructed intent. -/
def emptyIntent : Intent := ⟨"", "", "", 0, "", "", []⟩

/-- `Intent::valid`. -/
def valid (intent : Intent) : Bool :=
  !(intent.component.isEmpty && intent.package.isEmpty)

/-- The keys the dictionary may have. -/
inductive Key where
  | package
  | component
  | action
  | type
  | uri
deriving DecidableEq, Repr

/-- The text of a key. -/
def Key.name : Key → String
  | .package => "package"
  | .component => "component"
  | .action => "action"
  | .type => "type"
  | .uri => "uri"

/-- The comparisons of `method_launch` in their order. -/
def Key.ofName (name : String) : Option Key :=
  if name = "package" then some .package
  else if name = "component" then some .component
  else if name = "action" then some .action
  else if name = "type" then some .type
  else if name = "uri" then some .uri
  else none

@[simp]
theorem Key.ofName_name (key : Key) : Key.ofName key.name = some key := by
  cases key with
  | package => rfl
  | component => rfl
  | action => rfl
  | type => rfl
  | uri => rfl

/-- The text of an intent under a key. -/
def text (intent : Intent) : Key → String
  | .package => intent.package
  | .component => intent.component
  | .action => intent.action
  | .type => intent.type
  | .uri => intent.uri

/-- The assignment to the text under a key. -/
def setText (intent : Intent) (value : String) : Key → Intent
  | .package => { intent with package := value }
  | .component => { intent with component := value }
  | .action => { intent with action := value }
  | .type => { intent with type := value }
  | .uri => { intent with uri := value }

theorem setText_text (intent : Intent) (key : Key) :
    setText intent (text intent key) key = intent := by
  cases key with
  | package => rfl
  | component => rfl
  | action => rfl
  | type => rfl
  | uri => rfl

/-! ## Stack names -/

/-- `operator<<` for stacks. -/
def stackName : Stack → String
  | .default => "default"
  | .fullscreen => "fullscreen"
  | .freeform => "freeform"
  | .invalid => ""

/-- The first word of a text, as `operator>>` reads it from a stream. -/
def firstWord (text : String) : String :=
  .ofList
    ((text.toList.dropWhile isSpace).takeWhile fun character =>
      !isSpace character)

/-- `operator>>` for stacks.  The stack stays as it is at other words. -/
def readStack (text : String) (stack : Stack) : Stack :=
  let word := firstWord text
  if word = "default" then .default
  else if word = "fullscreen" then .fullscreen
  else if word = "freeform" then .freeform
  else stack

/-! ## Messages -/

/-- The value of a dictionary entry. -/
inductive Variant where
  | string (text : String)
  | other
deriving DecidableEq, Repr

/-- A message of type `a{sv}s`. -/
structure LaunchMessage where
  entries : List (String × Variant)
  stack : String
deriving DecidableEq, Repr

/-- The text that the bus library sees behind `c_str`. -/
def cStr (text : String) : String :=
  .ofList (text.toList.takeWhile fun character => character != '\x00')

/-- A text that ends where its C string ends. -/
def NulFree (text : String) : Prop := '\x00' ∉ text.toList

instance (text : String) : Decidable (NulFree text) :=
  inferInstanceAs (Decidable ('\x00' ∉ text.toList))

/-! ## The client -/

/-- The entry for a text, if the text is not empty. -/
def appendText (intent : Intent) (key : Key) : List (String × Variant) :=
  if (text intent key).length > 0 then
    [(key.name, .string (cStr (text intent key)))]
  else []

/-- The message of `stub::ApplicationManager::launch`. -/
def launch (intent : Intent) (_launchBounds : Rect) (stack : Stack) :
    LaunchMessage :=
  { entries :=
      appendText intent .package ++ (appendText intent .component ++
        (appendText intent .action ++ (appendText intent .type ++
          appendText intent .uri)))
    stack := cStr (stackName stack) }

/-! ## The session manager -/

/-- What comes of a request. -/
inductive Reply where
  /-- `launch` of the implementation has been called. -/
  | launched (intent : Intent) (launchBounds : Rect) (stack : Stack)
  /-- An error of the skeleton. -/
  | refused (name text : String)
  /-- An error of the bus library is handed on. -/
  | busError
deriving DecidableEq, Repr

/--
One entry of the dictionary.  Nobody reads the value of an unknown key, so
that the entry cannot be left.
-/
def readEntry (intent : Intent) : String × Variant → Option Intent
  | (name, value) =>
      match Key.ofName name, value with
      | some key, .string text => some (setText intent text key)
      | some _, .other => none
      | none, _ => none

/-- The loop over the dictionary. -/
def readEntries (intent : Intent) :
    List (String × Variant) → Option Intent
  | [] => some intent
  | entry :: entries => do
      let intent ← readEntry intent entry
      readEntries intent entries

/-- `skeleton::ApplicationManager::launch`. -/
def launchImplementation (ready : Bool) (intent : Intent) (stack : Stack) :
    Reply :=
  if ready then .launched intent invalidRect stack
  else
    .refused "org.anbox.InternalError"
      "Anbox not yet ready to launch applications"

/-- `method_launch`. -/
def methodLaunch (ready : Bool) (message : LaunchMessage) : Reply :=
  match readEntries emptyIntent message.entries with
  | none => .busError
  | some intent =>
      let stack :=
        if message.stack.length > 0 then readStack message.stack .default
        else .default
      if intent.package.length = 0 then
        .refused "org.anbox.InvalidArgument" "No package specified"
      else launchImplementation ready intent stack

/-! ## What arrives -/

/-- The intent as the message can carry it. -/
def carried (intent : Intent) : Intent :=
  { action := cStr intent.action
    uri := cStr intent.uri
    type := cStr intent.type
    flags := 0
    package := cStr intent.package
    component := cStr intent.component
    categories := [] }

theorem cStr_of_nulFree {text : String} (free : NulFree text) :
    cStr text = text := by
  have whole :
      text.toList.takeWhile (fun character => character != '\x00') =
        text.toList := by
    apply List.takeWhile_eq_self_iff.mpr
    intro character member
    have differs : character ≠ '\x00' := fun same => free (same ▸ member)
    simpa using differs
  rw [cStr, whole, String.ofList_toList]

/-- An entry that the stub has written sets its text; no entry leaves it. -/
theorem readEntries_appendText (intent received : Intent) (key : Key)
    (blank : text received key = "") (entries : List (String × Variant)) :
    readEntries received (appendText intent key ++ entries) =
      readEntries (setText received (cStr (text intent key)) key)
        entries := by
  unfold appendText
  split
  · simp [readEntries, readEntry]
  · rename_i short
    have empty : text intent key = "" :=
      String.length_eq_zero_iff.mp (by omega)
    have kept : setText received (cStr (text intent key)) key = received := by
      have unwritten : cStr (text intent key) = text received key := by
        rw [empty, blank]
        rfl
      rw [unwritten, setText_text]
    rw [kept, List.nil_append]

/-- The dictionary of the stub is read without an error. -/
theorem readEntries_launch (intent : Intent) (launchBounds : Rect)
    (stack : Stack) :
    readEntries emptyIntent (launch intent launchBounds stack).entries =
      some (carried intent) := by
  unfold launch
  rw [readEntries_appendText _ _ .package rfl,
    readEntries_appendText _ _ .component rfl,
    readEntries_appendText _ _ .action rfl,
    readEntries_appendText _ _ .type rfl,
    ← List.append_nil (appendText intent .uri),
    readEntries_appendText _ _ .uri rfl]
  rfl

/-- The names of the three stacks are read back. -/
theorem readStack_stackName {stack : Stack} (named : stack ≠ .invalid) :
    (if (cStr (stackName stack)).length > 0 then
        readStack (cStr (stackName stack)) .default
      else .default) = stack := by
  cases stack with
  | invalid => exact absurd rfl named
  | default => decide
  | fullscreen => decide
  | freeform => decide

/-- The skeleton's answer to a message of the stub. -/
theorem methodLaunch_launch (ready : Bool) (intent : Intent)
    (launchBounds : Rect) {stack : Stack} (named : stack ≠ .invalid) :
    methodLaunch ready (launch intent launchBounds stack) =
      if cStr intent.package = "" then
        .refused "org.anbox.InvalidArgument" "No package specified"
      else launchImplementation ready (carried intent) stack := by
  have stackRead := readStack_stackName named
  unfold methodLaunch
  rw [readEntries_launch]
  simp only [carried, String.length_eq_zero_iff]
  rw [launch, stackRead]

/--
A request of a valid intent that names a package reaches the implementation
with the texts and the stack that the client has given.  A valid intent
without a package is refused.
-/
theorem launch_round_trip (intent : Intent) (launchBounds : Rect)
    (stack : Stack) (accepted : valid intent = true)
    (named : stack ≠ .invalid)
    (free : ∀ key : Key, NulFree (text intent key)) :
    (intent.package ≠ "" →
      methodLaunch true (launch intent launchBounds stack) =
        .launched { intent with flags := 0, categories := [] } invalidRect
          stack) ∧
    (intent.package = "" →
      intent.component ≠ "" ∧
      methodLaunch true (launch intent launchBounds stack) =
        .refused "org.anbox.InvalidArgument" "No package specified") := by
  have packageKept : cStr intent.package = intent.package :=
    cStr_of_nulFree (free .package)
  have same : carried intent = { intent with flags := 0, categories := [] } := by
    have componentKept := cStr_of_nulFree (free .component)
    have actionKept := cStr_of_nulFree (free .action)
    have typeKept := cStr_of_nulFree (free .type)
    have uriKept := cStr_of_nulFree (free .uri)
    simp only [text] at componentKept actionKept typeKept uriKept
    simp only [carried, packageKept, componentKept, actionKept, typeKept,
      uriKept]
  rw [methodLaunch_launch true intent launchBounds named, packageKept, same]
  constructor
  · intro given
    rw [if_neg given]
    rfl
  · intro missing
    refine ⟨?_, if_pos missing⟩
    intro noComponent
    simp [valid, missing, noComponent] at accepted

theorem launch_round_trip_fullscreen :
    methodLaunch true
        (launch { emptyIntent with package := "app", action := "VIEW" }
          invalidRect .fullscreen) =
      .launched { emptyIntent with package := "app", action := "VIEW" }
        invalidRect .fullscreen :=
  (launch_round_trip { emptyIntent with package := "app", action := "VIEW" }
    invalidRect .fullscreen (by decide) (by decide)
    (by intro key; cases key <;> decide)).1 (by decide)

/--
An intent with a component alone is valid and refused all the same.  Of a
valid intent, what follows a zero character and the categories do not arrive,
and nothing arrives before the implementation is ready.
-/
theorem valid_intents_changed_or_refused :
    (valid { emptyIntent with component := "Main" } = true ∧
      methodLaunch true
          (launch { emptyIntent with component := "Main" } invalidRect
            .default) =
        .refused "org.anbox.InvalidArgument" "No package specified") ∧
    methodLaunch true
        (launch
          { emptyIntent with package := "a\x00b", categories := ["c"] }
          invalidRect .default) =
      .launched { emptyIntent with package := "a" } invalidRect .default ∧
    methodLaunch false
        (launch { emptyIntent with package := "a" } invalidRect .default) =
      .refused "org.anbox.InternalError"
        "Anbox not yet ready to launch applications" := by
  decide

end Anbox.Dbus.ApplicationManager
