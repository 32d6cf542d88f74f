import Anbox.Bridge.ApplicationList
import Anbox.Foundation.TerminatedText
import Anbox.Lxc.PathNames

/-!
# Desktop entries

For each Android application `LauncherStorage` writes a file that the desktop
of the host shows and runs.  It has a line for each key, and the line of `Exec`
has an argument for each field of the launch intent that is not empty.

The name and the fields come from the guest and are written as they are.  A
newline starts a line of its own, and a space an argument of its own.  The file
name is made of the package, which is in the last line, too.

Here the file is read as it is meant: line by line, where a line is a group, a
key with its value, a comment or blank, and nothing else.
-/

namespace Anbox.Application.LauncherStorage

open Anbox.Bridge.ApplicationList (Item)
open Anbox.Bridge.LaunchRequest (Intent)
open Anbox.Foundation.SeparatedText
open Anbox.Foundation.TerminatedText
open Anbox.Lxc.PathNames

abbrev Text := List Char

/-! ## The code -/

/-- What the process knows of itself. -/
structure Environment where
  /-- The target of the link `exe`. -/
  exePath : Text
  /-- The variable `SNAP`, which is empty if it is not set. -/
  snap : Text

def snapExePath : Text := "/snap/bin/anbox".toList

/-- The executable that is entered. -/
def Environment.executable (environment : Environment) : Text :=
  if 0 < environment.snap.length then snapExePath
  else environment.exePath

/-- An argument and a space; an empty value has none. -/
def appendArgument (key value : String) (exec : Text) : Text :=
  if value.isEmpty then exec
  else
    exec ++ ("--".toList ++ key.toList ++ '=' :: value.toList ++ [' '])

def execLine (environment : Environment) (intent : Intent) : Text :=
  let exec := environment.executable ++ " launch ".toList
  let exec := appendArgument "action" intent.action exec
  let exec := appendArgument "type" intent.type exec
  let exec := appendArgument "uri" intent.uri exec
  let exec := appendArgument "package" intent.package exec
  appendArgument "component" intent.component exec

def cleanPackageName (package : Text) : Text :=
  package.map fun character => if character = '.' then '-' else character

def pathForItem (directory package : Text) : Text :=
  joined directory ("anbox-".toList ++ package ++ ".desktop".toList)

def pathForItemIcon (directory package : Text) : Text :=
  joined directory ("anbox-".toList ++ package ++ ".png".toList)

/-- `item_icon_path`. -/
def itemIconPath (directory : Text) (item : Item) : Text :=
  pathForItemIcon directory (cleanPackageName item.package.toList)

/-- The lines that are written; each ends with a newline. -/
def desktopLines (environment : Environment) (directory : Text)
    (item : Item) : List Text :=
  ["[Desktop Entry]".toList,
    "Name=".toList ++ item.name.toList,
    "Exec=".toList ++ execLine environment item.launchIntent,
    "Terminal=false".toList,
    "Type=Application".toList,
    "Icon=".toList ++ itemIconPath directory item]

def desktopItem (environment : Environment) (directory : Text)
    (item : Item) : Text :=
  (desktopLines environment directory item).flatMap (· ++ ['\n'])

/-! ## Reading a desktop entry -/

def isNewline (character : Char) : Bool := character = '\n'

def isSpace (character : Char) : Bool := character = ' '

inductive Line where
  | ignored
  | group (name : Text)
  | entry (key value : Text)
  | malformed
deriving DecidableEq, Repr

/-- A blank line or a comment. -/
def Ignored (line : Text) : Prop := line = [] ∨ line.head? = some '#'

instance (line : Text) : Decidable (Ignored line) :=
  inferInstanceAs (Decidable (_ ∨ _))

def readLine (line : Text) : Line :=
  if Ignored line then .ignored
  else if line.head? = some '[' then
    if line.getLast? = some ']' then .group (line.drop 1).dropLast
    else .malformed
  else
    match line.dropWhile (· ≠ '=') with
    | [] => .malformed
    | _ :: value => .entry (line.takeWhile (· ≠ '=')) value

abbrev Entry := Text × Text

structure Group where
  name : Text
  entries : List Entry
deriving DecidableEq, Repr

/-- The entries before the first group, and the groups. -/
def readGroups : List Text → Option (List Entry × List Group)
  | [] => some ([], [])
  | line :: lines =>
      match readLine line, readGroups lines with
      | .malformed, _ => none
      | _, none => none
      | .ignored, some file => some file
      | .entry key value, some (entries, groups) =>
          some ((key, value) :: entries, groups)
      | .group name, some (entries, groups) =>
          some ([], ⟨name, entries⟩ :: groups)

def readFile (content : Text) : Option (List Entry × List Group) :=
  readGroups (records isNewline content)

/-! ## What is meant -/

def keys : List Text :=
  ["Name".toList, "Exec".toList, "Terminal".toList, "Type".toList,
    "Icon".toList]

/-- The fields of an intent that are passed on. -/
def fields (intent : Intent) : List (String × String) :=
  [("action", intent.action), ("type", intent.type), ("uri", intent.uri),
    ("package", intent.package), ("component", intent.component)]

def argument (field : String × String) : Text :=
  "--".toList ++ field.1.toList ++ '=' :: field.2.toList

/-- The executable, the command and the fields that are not empty. -/
def arguments (environment : Environment) (intent : Intent) : List Text :=
  environment.executable :: "launch".toList ::
    ((fields intent).filter (!·.2.isEmpty)).map argument

/-- One group with each key once; the name and the arguments are those. -/
def Genuine (content name : Text) (arguments : List Text) : Prop :=
  ∃ entries,
    readFile content = some ([], [⟨"Desktop Entry".toList, entries⟩]) ∧
      (entries.map Prod.fst).Perm keys ∧
      ("Name".toList, name) ∈ entries ∧
      ∃ exec, ("Exec".toList, exec) ∈ entries ∧
        pieces isSpace exec = arguments

/-- Neither a space nor a newline is in the text. -/
def Plain (text : Text) : Prop :=
  ∀ character ∈ text, character ≠ ' ' ∧ character ≠ '\n'

instance (text : Text) : Decidable (Plain text) :=
  List.decidableBAll _ text

/-- Nothing of an item starts a line or an argument of its own. -/
structure Harmless (environment : Environment) (directory : Text)
    (item : Item) : Prop where
  name : '\n' ∉ item.name.toList
  executable : environment.executable ≠ [] ∧ Plain environment.executable
  fields : ∀ field ∈ fields item.launchIntent, Plain field.2.toList
  /-- The path of the icon may go on with blank lines and comments. -/
  icon :
    ∀ line ∈ ((itemIconPath directory item).splitOnP isNewline).tail,
      Ignored line

/-! ## Arguments -/

theorem appendArgument_eq (key value : String) (exec : Text) :
    appendArgument key value exec =
      exec ++ (([(key, value)].filter (!·.2.isEmpty)).map argument).flatMap
        (· ++ [' ']) := by
  unfold appendArgument
  by_cases empty : value.isEmpty
  · simp [empty]
  · simp [empty, argument]

/-- The line has the arguments with a space behind each of them. -/
theorem execLine_eq (environment : Environment) (intent : Intent) :
    execLine environment intent =
      (arguments environment intent).flatMap (· ++ [' ']) := by
  have launch : " launch ".toList = [' '] ++ ("launch".toList ++ [' ']) :=
    rfl
  have parts : fields intent =
      [("action", intent.action)] ++ ([("type", intent.type)] ++
        ([("uri", intent.uri)] ++ ([("package", intent.package)] ++
          [("component", intent.component)]))) := rfl
  simp only [execLine, appendArgument_eq, arguments, parts, launch,
    List.filter_append, List.map_append, List.flatMap_append,
    List.flatMap_cons, List.append_assoc]

theorem plain_iff (text : Text) :
    Plain text ↔
      (∀ character ∈ text, isSpace character = false) ∧
        Unended isNewline text := by
  unfold Plain Unended isSpace isNewline
  simp only [decide_eq_false_iff_not]
  exact forall₂_and

theorem plain_argument_iff {field : String × String}
    (plain : Plain field.1.toList) :
    Plain (argument field) ↔ Plain field.2.toList := by
  have dashes : Plain "--".toList := by decide
  have option : Plain ("--".toList ++ field.1.toList) :=
    List.forall_mem_append.mpr ⟨dashes, plain⟩
  unfold argument Plain
  rw [List.forall_mem_append, List.forall_mem_cons]
  exact (and_iff_right option).trans (and_iff_right (by decide))

/-- What each argument has to be. -/
def Separate (argument : Text) : Prop :=
  Whole isSpace argument ∧ Unended isNewline argument

theorem separate_iff (argument : Text) :
    Separate argument ↔ argument ≠ [] ∧ Plain argument := by
  rw [Separate, Whole, plain_iff, and_assoc]

theorem keys_plain (intent : Intent) :
    ∀ field ∈ fields intent, Plain field.1.toList := by
  have names : ∀ key ∈ ["action", "type", "uri", "package", "component"],
      Plain key.toList := by
    decide
  intro field member
  have inside : field.1 ∈ (fields intent).map Prod.fst :=
    List.mem_map_of_mem member
  exact names field.1 inside

theorem arguments_separate_iff (environment : Environment)
    (intent : Intent) :
    (∀ argument ∈ arguments environment intent, Separate argument) ↔
      (environment.executable ≠ [] ∧ Plain environment.executable) ∧
        ∀ field ∈ fields intent, Plain field.2.toList := by
  have launch : Separate "launch".toList := by
    rw [separate_iff]
    decide
  have field : ∀ field ∈ fields intent,
      (field.2.isEmpty = false → Separate (argument field)) ↔
        Plain field.2.toList := by
    intro field member
    have nonempty : argument field ≠ [] := by simp [argument]
    rw [separate_iff, plain_argument_iff (keys_plain intent field member),
      and_iff_right nonempty]
    constructor
    · intro plain
      by_cases empty : field.2.isEmpty
      · rw [String.isEmpty_iff.mp empty]
        exact nofun
      · exact plain (by simpa using empty)
    · intro plain _
      exact plain
  rw [arguments, List.forall_mem_cons, List.forall_mem_cons,
    List.forall_mem_map, and_iff_right launch, separate_iff]
  refine and_congr_right fun _ => ?_
  rw [List.forall_mem_filter]
  refine forall₂_congr fun one member => ?_
  simpa using field one member

/-! ## Lines -/

theorem readLine_of_ignored {line : Text} (ignored : Ignored line) :
    readLine line = .ignored :=
  if_pos ignored

/-- A value that was read stands in the line. -/
theorem value_isSuffix {line key value : Text}
    (read : readLine line = .entry key value) : value <:+ line := by
  unfold readLine at read
  split at read
  · cases read
  · split at read
    · split at read
      · cases read
      · cases read
    · split at read
      · cases read
      · next equals value' behind =>
        cases read
        exact (List.suffix_cons equals value).trans
          (behind ▸ List.dropWhile_suffix _)

/-- The entries of a file come from its lines. -/
theorem exists_line_of_mem_entries {lines : List Text}
    {entries : List Entry} {groups : List Group}
    (read : readGroups lines = some (entries, groups)) :
    (∀ entry ∈ entries,
        ∃ line ∈ lines, readLine line = .entry entry.1 entry.2) ∧
      ∀ group ∈ groups, ∀ entry ∈ group.entries,
        ∃ line ∈ lines, readLine line = .entry entry.1 entry.2 := by
  induction lines generalizing entries groups with
  | nil =>
      cases read
      exact ⟨nofun, nofun⟩
  | cons line lines inductionHypothesis =>
      have later : ∀ {entry : Entry},
          (∃ line ∈ lines, readLine line = .entry entry.1 entry.2) →
            ∃ other ∈ line :: lines,
              readLine other = .entry entry.1 entry.2 := by
        rintro entry ⟨other, member, same⟩
        exact ⟨other, List.mem_cons_of_mem line member, same⟩
      rw [readGroups] at read
      split at read
      · cases read
      · cases read
      · next file _ rest =>
        rcases inductionHypothesis (rest.trans read) with ⟨before, inside⟩
        exact ⟨fun entry member => later (before entry member),
          fun group member entry inGroup =>
            later (inside group member entry inGroup)⟩
      · next key value others groups' first rest =>
        cases read
        rcases inductionHypothesis rest with ⟨before, inside⟩
        constructor
        · intro entry member
          rcases List.mem_cons.mp member with rfl | behind
          · exact ⟨line, List.mem_cons_self, first⟩
          · exact later (before entry behind)
        · exact fun group member entry inGroup =>
            later (inside group member entry inGroup)
      · next name others groups' first rest =>
        cases read
        rcases inductionHypothesis rest with ⟨before, inside⟩
        refine ⟨nofun, ?_⟩
        intro group member entry inGroup
        rcases List.mem_cons.mp member with rfl | behind
        · exact later (before entry inGroup)
        · exact later (inside group behind entry inGroup)

/-- Lines without any entry or group are ignored. -/
theorem readGroups_eq_nil_iff (lines : List Text) :
    readGroups lines = some ([], []) ↔ ∀ line ∈ lines, Ignored line := by
  induction lines with
  | nil => exact iff_of_true rfl nofun
  | cons line lines inductionHypothesis =>
      rw [List.forall_mem_cons, ← inductionHypothesis, readGroups]
      by_cases ignored : Ignored line
      · rw [readLine_of_ignored ignored, and_iff_right ignored]
        cases readGroups lines with
        | none => exact Iff.rfl
        | some file => exact Iff.rfl
      · refine iff_of_false ?_ fun both => ignored both.1
        intro read
        split at read
        · cases read
        · cases read
        · next same _ =>
          rw [readLine, if_neg ignored] at same
          split at same
          · split at same
            · cases same
            · cases same
          · split at same
            · cases same
            · cases same
        · cases read
        · cases read

/-- The lines before the icon are read, and then those it goes on with. -/
theorem readGroups_desktop (name exec icon : Text) (rest : List Text) :
    readGroups
        ("[Desktop Entry]".toList :: ("Name=".toList ++ name) ::
          ("Exec=".toList ++ exec) :: "Terminal=false".toList ::
            "Type=Application".toList :: ("Icon=".toList ++ icon) ::
              rest) =
      (readGroups rest).map fun file =>
        ([],
          ⟨"Desktop Entry".toList,
            [("Name".toList, name), ("Exec".toList, exec),
              ("Terminal".toList, "false".toList),
              ("Type".toList, "Application".toList),
              ("Icon".toList, icon)] ++ file.1⟩ :: file.2) := by
  cases read : readGroups rest with
  | none => simp only [readGroups, read]; rfl
  | some file => simp only [readGroups, read]; rfl

/-! ## The whole file -/

section Files

variable {environment : Environment} {directory : Text} {item : Item}

/-- A file of which the first lines are as they were written. -/
theorem lines_desktopItem (name : Unended isNewline item.name.toList)
    (exec :
      Unended isNewline (execLine environment item.launchIntent))
    {icon : Text} {rest : List Text}
    (pieces : (itemIconPath directory item).splitOnP isNewline = icon :: rest) :
    records isNewline (desktopItem environment directory item) =
      "[Desktop Entry]".toList :: ("Name=".toList ++ item.name.toList) ::
        ("Exec=".toList ++ execLine environment item.launchIntent) ::
          "Terminal=false".toList :: "Type=Application".toList ::
            ("Icon=".toList ++ icon) :: rest := by
  have key : ∀ {text : Text}, Unended isNewline text →
      text.splitOnP isNewline = [text] := fun unended =>
    List.splitOnP_eq_singleton unended
  have nameKey : Unended isNewline "Name=".toList := by decide
  have execKey : Unended isNewline "Exec=".toList := by decide
  have iconKey : Unended isNewline "Icon=".toList := by decide
  have header : Unended isNewline "[Desktop Entry]".toList := by decide
  have terminal : Unended isNewline "Terminal=false".toList := by decide
  have type : Unended isNewline "Type=Application".toList := by decide
  have last := splitOnP_append_of_unended iconKey (itemIconPath directory item)
  rw [pieces, List.modifyHead_cons] at last
  rw [desktopItem, records_flatMap_terminated (by rfl), desktopLines]
  simp only [List.flatMap_cons, List.flatMap_nil, List.append_nil,
    List.singleton_append, last, key header, key (nameKey.append name),
    key (execKey.append exec), key terminal, key type]

theorem unended_execLine
    (plain :
      ∀ argument ∈ arguments environment item.launchIntent,
        Unended isNewline argument) :
    Unended isNewline (execLine environment item.launchIntent) := by
  rw [execLine_eq]
  intro character member
  rcases List.mem_flatMap.mp member with ⟨argument, isArgument, inside⟩
  rcases List.mem_append.mp inside with letter | space
  · exact plain argument isArgument character letter
  · rw [List.mem_singleton.mp space]
    rfl

/-- An entry that was read has no newline in its value. -/
theorem unended_of_mem_entries {content : Text} {name : Text}
    {entries : List Entry} {entry : Entry}
    (read : readFile content = some ([], [⟨name, entries⟩]))
    (member : entry ∈ entries) : Unended isNewline entry.2 := by
  rcases (exists_line_of_mem_entries read).2 _ (List.mem_singleton.mpr rfl)
    entry member with ⟨line, inFile, same⟩
  intro character inValue
  exact unended_of_mem_records inFile character
    ((value_isSuffix same).mem inValue)

/-- Names and arguments that are read back have nothing that breaks them. -/
theorem Genuine.separate {content name : Text} {expected : List Text}
    (genuine : Genuine content name expected) :
    Unended isNewline name ∧
      ∀ argument ∈ expected, Separate argument := by
  rcases genuine with ⟨entries, read, -, named, exec, isExec, rfl⟩
  refine ⟨unended_of_mem_entries read named, ?_⟩
  intro argument member
  refine ⟨whole_of_mem_pieces member, ?_⟩
  intro character inside
  exact unended_of_mem_entries read isExec character
    ((isInfix_of_mem_pieces member).mem inside)

/-- The entries that are written, with what is read of the last line. -/
def written (environment : Environment) (item : Item) (icon : Text) :
    List Entry :=
  [("Name".toList, item.name.toList),
    ("Exec".toList, execLine environment item.launchIntent),
    ("Terminal".toList, "false".toList),
    ("Type".toList, "Application".toList), ("Icon".toList, icon)]

theorem readFile_desktopItem (name : Unended isNewline item.name.toList)
    (separate :
      ∀ argument ∈ arguments environment item.launchIntent,
        Separate argument)
    {icon : Text} {rest : List Text}
    (pieces : (itemIconPath directory item).splitOnP isNewline = icon :: rest) :
    readFile (desktopItem environment directory item) =
      (readGroups rest).map fun file =>
        ([], ⟨"Desktop Entry".toList,
          written environment item icon ++ file.1⟩ :: file.2) := by
  have exec := unended_execLine fun argument member =>
    (separate argument member).2
  rw [readFile, lines_desktopItem name exec pieces, readGroups_desktop]
  rfl

/-- Nothing is read behind the lines that were written. -/
theorem ignored_of_genuine (name : Unended isNewline item.name.toList)
    (separate :
      ∀ argument ∈ arguments environment item.launchIntent,
        Separate argument)
    {icon : Text} {rest : List Text}
    (pieces : (itemIconPath directory item).splitOnP isNewline = icon :: rest)
    {expected : List Text}
    (genuine :
      Genuine (desktopItem environment directory item) item.name.toList
        expected) :
    ∀ line ∈ rest, Ignored line := by
  rcases genuine with ⟨entries, read, sameKeys, -⟩
  rw [readFile_desktopItem name separate pieces,
    Option.map_eq_some_iff] at read
  rcases read with ⟨⟨others, groups⟩, readRest, same⟩
  simp only [Prod.mk.injEq, List.cons.injEq, Group.mk.injEq, true_and]
    at same
  rcases same with ⟨rfl, rfl⟩
  have lengths := sameKeys.length_eq
  simp only [List.map_append, List.length_append, List.length_map, written,
    keys, List.length_cons, List.length_nil] at lengths
  have none : others = [] := List.length_eq_zero_iff.mp (by omega)
  rw [none] at readRest
  exact (readGroups_eq_nil_iff rest).mp readRest

theorem genuine_of_ignored (name : Unended isNewline item.name.toList)
    (separate :
      ∀ argument ∈ arguments environment item.launchIntent,
        Separate argument)
    {icon : Text} {rest : List Text}
    (pieces : (itemIconPath directory item).splitOnP isNewline = icon :: rest)
    (ignored : ∀ line ∈ rest, Ignored line) :
    Genuine (desktopItem environment directory item) item.name.toList
      (arguments environment item.launchIntent) := by
  refine ⟨written environment item icon, ?_, List.Perm.refl keys, ?_,
    execLine environment item.launchIntent, ?_, ?_⟩
  · rw [readFile_desktopItem name separate pieces,
      (readGroups_eq_nil_iff rest).mpr ignored, Option.map_some,
      List.append_nil]
  · exact List.mem_cons_self
  · exact List.mem_cons_of_mem _ List.mem_cons_self
  · rw [execLine_eq]
    exact (pieces_flatMap_separated_iff (by rfl) _).mpr
      fun argument member => (separate argument member).1

theorem unended_iff (text : Text) :
    Unended isNewline text ↔ '\n' ∉ text :=
  unended_iff_notMem fun _ => decide_eq_true_iff

/--
A desktop entry is read as it is meant exactly if the name has no newline, the
executable and the fields have neither newlines nor spaces, and the path of the
icon goes on with comments and blank lines at most.
-/
theorem genuine_iff_harmless (environment : Environment)
    (directory : Text) (item : Item) :
    Genuine (desktopItem environment directory item) item.name.toList
        (arguments environment item.launchIntent) ↔
      Harmless environment directory item := by
  have separates :=
    arguments_separate_iff environment item.launchIntent
  cases pieces : (itemIconPath directory item).splitOnP isNewline with
  | nil => exact absurd pieces (List.splitOnP_ne_nil _ _)
  | cons icon rest =>
      have tail : ((itemIconPath directory item).splitOnP isNewline).tail =
          rest := by
        rw [pieces, List.tail_cons]
      constructor
      · intro genuine
        rcases genuine.separate with ⟨name, separate⟩
        rcases separates.mp separate with ⟨executable, plain⟩
        exact
          { name := (unended_iff _).mp name
            executable := executable
            fields := plain
            icon := tail ▸
              ignored_of_genuine name separate pieces genuine }
      · intro harmless
        exact genuine_of_ignored ((unended_iff _).mpr harmless.name)
          (separates.mpr ⟨harmless.executable, harmless.fields⟩) pieces
          (tail ▸ harmless.icon)

end Files

/-- The host's program, not in a snap. -/
def installed : Environment := ⟨"/usr/bin/anbox".toList, []⟩

/-- An application whose name goes on with a line of its own. -/
def forgedItem : Item :=
  { name := "Camera\nExec=/bin/sh"
    package := "org.camera"
    launchIntent := ⟨"", "", "", 0, "org.camera", "", []⟩
    icon := [] }

/-- What is run is decided by two lines. -/
theorem name_forges_exec :
    ¬ Genuine (desktopItem installed "/apps".toList forgedItem)
      forgedItem.name.toList
      (arguments installed forgedItem.launchIntent) := by
  rw [genuine_iff_harmless]
  intro harmless
  exact absurd harmless.name (by decide)

end Anbox.Application.LauncherStorage
