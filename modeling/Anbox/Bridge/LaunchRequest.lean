import Anbox.Wm.MultiWindowManager
import Std.Data.String.ToInt

/-!
# Launch requests from the host to the guest

`AndroidApiStub::launch` puts the caller's request into a `LaunchApplication`
message, from which `AndroidApiSkeleton::launch_application` assembles the
arguments of `am start` in the container.  Optional fields of a message that
were not set are missing at the other end.

The coordinates of the launch bounds are taken from the member
`launch_bounds_` and not from the parameter `launch_bounds`.  Nothing ever
assigns to the member.
-/

namespace Anbox.Bridge.LaunchRequest

open Anbox.Wm.MultiWindowManager (Rect Stack)

/-! ## The caller's request -/

/-- `android::Intent`. -/
structure Intent where
  action : String
  uri : String
  type : String
  flags : Int32
  package : String
  component : String
  categories : List String
deriving DecidableEq, Repr

/-- `Rect::Invalid`. -/
def invalidRect : Rect := ⟨-1, -1, -1, -1⟩

/-! ## Messages -/

/-- The message `Intent`. -/
structure IntentMessage where
  action : Option String
  uri : Option String
  type : Option String
  package : Option String
  component : Option String
  categories : List String
deriving DecidableEq, Repr

/-- The message `Rect`. -/
structure RectMessage where
  left : Option Int32
  top : Option Int32
  right : Option Int32
  bottom : Option Int32
deriving DecidableEq, Repr

/-- `LaunchApplication::Stack`. -/
inductive StackMessage where
  | default
  | fullscreen
  | freeform
deriving DecidableEq, Repr

/-- The value of the enumeration. -/
def StackMessage.number : StackMessage → Int
  | .default => 0
  | .fullscreen => 1
  | .freeform => 2

structure LaunchApplication where
  intent : IntentMessage
  launchBounds : Option RectMessage
  stack : Option StackMessage
deriving DecidableEq, Repr

/-! ## The host -/

/-- The member of the stub that goes into the message. -/
structure AndroidApiStub where
  launchBounds : Rect

def AndroidApiStub.initial : AndroidApiStub := ⟨invalidRect⟩

/-- A string field is set unless the string is empty. -/
def setUnlessEmpty (text : String) : Option String :=
  if text.isEmpty then none else some text

def intentMessage (intent : Intent) : IntentMessage :=
  ⟨setUnlessEmpty intent.action, setUnlessEmpty intent.uri,
    setUnlessEmpty intent.type, setUnlessEmpty intent.package,
    setUnlessEmpty intent.component, intent.categories⟩

/-- The message that `launch` sends. -/
def launch (stub : AndroidApiStub) (intent : Intent) (launchBounds : Rect)
    (stack : Stack) : LaunchApplication :=
  { stack :=
      match stack with
      | .default => some .default
      | .fullscreen => some .fullscreen
      | .freeform => some .freeform
      | .invalid => none
    launchBounds :=
      if launchBounds ≠ invalidRect then
        some
          ⟨some stub.launchBounds.left, some stub.launchBounds.top,
            some stub.launchBounds.right, some stub.launchBounds.bottom⟩
      else none
    intent := intentMessage intent }

/-! ## The guest -/

/-- Four coordinates separated by blanks. -/
def coordinates (left top right bottom : Int32) : String :=
  left.toInt.repr ++ " " ++ top.toInt.repr ++ " " ++ right.toInt.repr ++
    " " ++ bottom.toInt.repr

/-- An option of `am start` with the value of a field that is set. -/
def optional (name : String) : Option String → List String
  | some value => [name, value]
  | none => []

/-- What is started: a package, or one of its components. -/
def launchTarget (intent : IntentMessage) : String :=
  let component := intent.package.getD ""
  if !component.isEmpty && intent.component.isSome then
    component ++ "/" ++ intent.component.getD ""
  else component

/-- The arguments that `launch_application` assembles. -/
def launchApplication (request : LaunchApplication) : List String :=
  let intent := request.intent
  let component := launchTarget intent
  ["/system/bin/am", "start"] ++
    optional "--stack"
      (request.stack.map fun stack => stack.number.repr) ++
    optional "--launch-bounds"
      (request.launchBounds.map fun rect =>
        coordinates (rect.left.getD 0) (rect.top.getD 0)
          (rect.right.getD 0) (rect.bottom.getD 0)) ++
    optional "-a" intent.action ++ optional "-d" intent.uri ++
    optional "-t" intent.type ++
    if !component.isEmpty then [component] else []

/-! ## What the caller has asked for -/

/-- The number of a stack among the three that can be asked for. -/
def stackNumber : Stack → Int
  | .invalid => -1
  | .default => 0
  | .fullscreen => 1
  | .freeform => 2

/-- An option that is there if the text is not empty. -/
def whenGiven (name text : String) : List String :=
  if text = "" then [] else [name, text]

/-- The arguments that carry the intent. -/
def intentArguments (intent : Intent) : List String :=
  whenGiven "-a" intent.action ++ whenGiven "-d" intent.uri ++
    whenGiven "-t" intent.type ++
    [if intent.component = "" then intent.package
      else intent.package ++ "/" ++ intent.component]

/-- The arguments that carry exactly the caller's request. -/
def requestedArguments (intent : Intent) (launchBounds : Rect)
    (stack : Stack) : List String :=
  ["/system/bin/am", "start", "--stack", (stackNumber stack).repr] ++
    (if launchBounds = invalidRect then []
      else
        ["--launch-bounds",
          coordinates launchBounds.left launchBounds.top
            launchBounds.right launchBounds.bottom]) ++
    intentArguments intent

/-! ## Texts of coordinates -/

theorem blank_notMem_repr (number : Int) : ' ' ∉ number.repr.toList := by
  have digits : ∀ natural : Nat, ' ' ∉ natural.repr.toList := by
    intro natural member
    rw [Nat.toList_repr] at member
    have digit := Nat.isDigit_of_mem_toDigits (by decide) (by decide) member
    revert digit
    decide
  rw [Int.repr_eq_if]
  split
  · exact digits _
  · rw [String.toList_append, List.mem_append, not_or]
    exact ⟨by decide, digits _⟩

/-- A text up to its first blank. -/
theorem takeWhile_repr (number : Int) (rest : List Char) :
    (number.repr.toList ++ ' ' :: rest).takeWhile (· ≠ ' ') =
      number.repr.toList := by
  rw [List.takeWhile_append_of_pos]
  · simp
  · intro character member
    have different : character ≠ ' ' := by
      rintro rfl
      exact blank_notMem_repr number member
    simpa using different

/-- Two numbers followed by a blank are the same if their texts are. -/
theorem repr_append_blank_inj {first second : Int}
    {rest others : List Char}
    (same :
      first.repr.toList ++ ' ' :: rest =
        second.repr.toList ++ ' ' :: others) :
    first = second ∧ rest = others := by
  have texts : first.repr.toList = second.repr.toList := by
    rw [← takeWhile_repr first rest, same, takeWhile_repr]
  refine ⟨Int.repr_inj.mp (String.toList_inj.mp texts), ?_⟩
  rw [texts, List.append_cancel_left_eq] at same
  exact (List.cons.inj same).2

theorem coordinates_inj {left top right bottom : Int32} {rect : Rect}
    (same :
      coordinates left top right bottom =
        coordinates rect.left rect.top rect.right rect.bottom) :
    rect = ⟨left, top, right, bottom⟩ := by
  have texts := congrArg String.toList same
  simp only [coordinates, String.toList_append, String.reduceToList,
    List.append_assoc, List.cons_append, List.nil_append] at texts
  rcases repr_append_blank_inj texts with ⟨sameLeft, texts⟩
  rcases repr_append_blank_inj texts with ⟨sameTop, texts⟩
  rcases repr_append_blank_inj texts with ⟨sameRight, texts⟩
  have sameBottom := Int.repr_inj.mp (String.toList_inj.mp texts)
  rw [Int32.toInt_inj] at sameLeft sameTop sameRight sameBottom
  rw [sameLeft, sameTop, sameRight, sameBottom]

/-! ## What arrives in the guest -/

theorem optional_setUnlessEmpty (name text : String) :
    optional name (setUnlessEmpty text) = whenGiven name text := by
  by_cases empty : text = "" <;>
    simp [optional, setUnlessEmpty, whenGiven, empty]

/-- The last argument names the package and its component. -/
theorem launchTarget_intentMessage {intent : Intent}
    (given : intent.package ≠ "") :
    launchTarget (intentMessage intent) =
      if intent.component = "" then intent.package
      else intent.package ++ "/" ++ intent.component := by
  by_cases empty : intent.component = "" <;>
    simp [launchTarget, intentMessage, setUnlessEmpty, given, empty]

theorem launchTarget_ne_empty {intent : Intent}
    (given : intent.package ≠ "") :
    launchTarget (intentMessage intent) ≠ "" := by
  rw [launchTarget_intentMessage given]
  split
  · exact given
  · simp [given]

/-- The arguments differ from the request in the coordinates only. -/
theorem launchApplication_launch (stub : AndroidApiStub) {intent : Intent}
    (given : intent.package ≠ "") (launchBounds : Rect) {stack : Stack}
    (known : stack ≠ .invalid) :
    launchApplication (launch stub intent launchBounds stack) =
      ["/system/bin/am", "start", "--stack", (stackNumber stack).repr] ++
        (if launchBounds = invalidRect then []
          else
            ["--launch-bounds",
              coordinates stub.launchBounds.left stub.launchBounds.top
                stub.launchBounds.right stub.launchBounds.bottom]) ++
        intentArguments intent := by
  have target :
      (if !(launchTarget (intentMessage intent)).isEmpty then
          [launchTarget (intentMessage intent)] else []) =
        [if intent.component = "" then intent.package
          else intent.package ++ "/" ++ intent.component] := by
    rw [← launchTarget_intentMessage given]
    simp [launchTarget_ne_empty given]
  have numbered :
      optional "--stack"
          ((launch stub intent launchBounds stack).stack.map
            fun stack => stack.number.repr) =
        ["--stack", (stackNumber stack).repr] := by
    cases stack with
    | invalid => exact absurd rfl known
    | default | fullscreen | freeform => rfl
  have bounds :
      optional "--launch-bounds"
          ((launch stub intent launchBounds stack).launchBounds.map
            fun rect =>
              coordinates (rect.left.getD 0) (rect.top.getD 0)
                (rect.right.getD 0) (rect.bottom.getD 0)) =
        if launchBounds = invalidRect then []
        else
          ["--launch-bounds",
            coordinates stub.launchBounds.left stub.launchBounds.top
              stub.launchBounds.right stub.launchBounds.bottom] := by
    by_cases none : launchBounds = invalidRect <;>
      simp [launch, optional, none]
  simp only [launchApplication, numbered, bounds]
  have message : (launch stub intent launchBounds stack).intent =
      intentMessage intent := rfl
  rw [message, target]
  simp only [intentMessage, optional_setUnlessEmpty, intentArguments,
    List.append_assoc, List.cons_append, List.nil_append]

/--
The guest is asked for exactly what the caller has asked for if and only if the
caller has given no launch bounds.
-/
theorem launchApplication_faithful_iff (intent : Intent)
    (launchBounds : Rect) (stack : Stack) (given : intent.package ≠ "")
    (known : stack ≠ .invalid) :
    launchApplication
          (launch AndroidApiStub.initial intent launchBounds stack) =
        requestedArguments intent launchBounds stack ↔
      launchBounds = invalidRect := by
  rw [launchApplication_launch AndroidApiStub.initial given launchBounds
    known, requestedArguments]
  constructor
  · intro same
    by_contra bounds
    rw [if_neg bounds, if_neg bounds, List.append_cancel_right_eq,
      List.append_cancel_left_eq] at same
    have texts := (List.cons.inj (List.cons.inj same).2).1
    exact bounds (coordinates_inj texts)
  · intro none
    rw [if_pos none, if_pos none]

/-- An intent that starts the settings. -/
def settingsIntent : Intent :=
  ⟨"android.intent.action.MAIN", "", "", 0, "com.android.settings",
    ".Settings", []⟩

theorem launchApplication_faithful_iff_settings :
    settingsIntent.package ≠ "" ∧
      launchApplication
          (launch AndroidApiStub.initial settingsIntent invalidRect
            .freeform) =
        requestedArguments settingsIntent invalidRect .freeform := by
  have given : settingsIntent.package ≠ "" := by decide
  exact ⟨given,
    (launchApplication_faithful_iff settingsIntent invalidRect .freeform given
      (by decide)).mpr rfl⟩

/-- The bounds `0 0 800 600` do not arrive. -/
theorem launch_bounds_lost :
    launchApplication
        (launch AndroidApiStub.initial settingsIntent ⟨0, 0, 800, 600⟩
          .default) =
      ["/system/bin/am", "start", "--stack", "0", "--launch-bounds",
        "-1 -1 -1 -1", "-a", "android.intent.action.MAIN",
        "com.android.settings/.Settings"] ∧
      launchApplication
          (launch AndroidApiStub.initial settingsIntent ⟨0, 0, 800, 600⟩
            .default) ≠
        requestedArguments settingsIntent ⟨0, 0, 800, 600⟩ .default := by
  decide

end Anbox.Bridge.LaunchRequest
