import Anbox.Foundation.TerminatedText
import Mathlib.Data.List.Basic

/-!
# Looking for a program on the path

`find_program_on_path` cuts `PATH` at its colons and takes the first directory
in which there is a file with the name of the program that everybody may
execute.  It looks at a directory when it has found the colon behind it.
-/

namespace Anbox.Utils.ProgramLookup

open Anbox.Foundation.TerminatedText

abbrev Text := List Char

/-- `st_mode` of the file at a path, if `stat` succeeds. -/
abbrev Stat := Text → Option UInt32

/-- `S_IXOTH`. -/
def executableByOthers : UInt32 := 0o001

def isExecutable (stat : Stat) (path : Text) : Bool :=
  match stat path with
  | none => false
  | some mode => mode &&& executableByOthers ≠ 0

/-- `path.find(':', start)`; `none` is `npos`. -/
def findColon (path : Text) (start : Nat) : Option Nat :=
  ((path.drop start).idxOf? ':').map (start + ·)

theorem exists_of_findColon {path : Text} {start position : Nat}
    (found : findColon path start = some position) :
    ∃ directory rest, ':' ∉ directory ∧
      path.drop start = directory ++ ':' :: rest ∧
      position = start + directory.length := by
  rcases Option.map_eq_some_iff.mp found with ⟨index, first, rfl⟩
  rcases List.idxOf?_eq_some_iff.mp first with ⟨inside, isColon, before⟩
  refine ⟨(path.drop start).take index, (path.drop start).drop (index + 1),
    ?_, ?_, ?_⟩
  · intro member
    rcases List.mem_take_iff_getElem.mp member with ⟨earlier, small, colon⟩
    exact before earlier (by omega) colon
  · rw [← isColon, ← List.drop_eq_getElem_cons inside,
      List.take_append_drop]
  · rw [List.length_take, Nat.min_eq_left (Nat.le_of_lt inside)]

theorem findColon_lt {path : Text} {start position : Nat}
    (found : findColon path start = some position) :
    start ≤ position ∧ position < path.length := by
  rcases exists_of_findColon found with ⟨directory, rest, -, cut, rfl⟩
  have length := congrArg List.length cut
  rw [List.length_drop, List.length_append, List.length_cons] at length
  omega

/-- The loop, at a position in `path`. -/
def searchFrom (stat : Stat) (name path : Text) (start : Nat) : Text :=
  match _found : findColon path start with
  | none => []
  | some position =>
      let currentPath :=
        (path.drop start).take (position - start) ++ '/' :: name
      if isExecutable stat currentPath then currentPath
      else searchFrom stat name path (position + 1)
termination_by path.length - start
decreasing_by
  have inside := findColon_lt _found
  omega

def findProgramOnPath (stat : Stat) (path name : Text) : Text :=
  searchFrom stat name path 0

/-! ## The first directory -/

def isColon (character : Char) : Bool := character = ':'

/-- The directories of `PATH`, with or without a colon behind the last. -/
def directories (path : Text) : List Text := records isColon path

/-- The program in a directory. -/
def programIn (name directory : Text) : Text := directory ++ '/' :: name

/-- The program in the first directory that has it. -/
def firstProgram (stat : Stat) (name : Text) (directories : List Text) :
    Option Text :=
  (directories.map (programIn name)).find? (isExecutable stat)

theorem unended_of_notMem {directory : Text} (noColon : ':' ∉ directory) :
    Unended isColon directory :=
  (unended_iff_notMem fun _ => decide_eq_true_iff).mpr noColon

section Directories

variable {name path directory rest : Text} {start : Nat}

/-- What the loop makes of a directory and the colon behind it. -/
theorem currentPath_eq (cut : path.drop start = directory ++ ':' :: rest) :
    (path.drop start).take (start + directory.length - start) ++
        '/' :: name = programIn name directory := by
  rw [cut, Nat.add_sub_cancel_left, List.take_left]
  rfl

theorem drop_behind (cut : path.drop start = directory ++ ':' :: rest) :
    path.drop (start + directory.length + 1) = rest := by
  rw [Nat.add_assoc, ← List.drop_drop, cut, ← List.drop_drop,
    List.drop_left]
  rfl

/-- A directory with a colon behind it comes first. -/
theorem finished_directory (noColon : ':' ∉ directory) :
    finished isColon (directory ++ ':' :: rest) =
      directory :: finished isColon rest := by
  have unended := unended_of_notMem noColon
  rw [finished_append_cons rfl, finished_of_unended unended,
    remainder_of_unended unended, List.nil_append]

end Directories

/-- The loop looks at the directories that have a colon behind them. -/
theorem searchFrom_eq (stat : Stat) (name path : Text) (start : Nat) :
    searchFrom stat name path start =
      (firstProgram stat name
        (finished isColon (path.drop start))).getD [] := by
  fun_induction searchFrom stat name path start with
  | case1 start missing =>
      have noColon : ':' ∉ path.drop start := by
        rw [findColon, Option.map_eq_none_iff] at missing
        exact List.idxOf?_eq_none_iff.mp missing
      rw [finished_of_unended (unended_of_notMem noColon)]
      rfl
  | case2 start position found currentPath executable =>
      rcases exists_of_findColon found with
        ⟨directory, rest, noColon, cut, rfl⟩
      have current : currentPath = programIn name directory :=
        currentPath_eq cut
      rw [cut, finished_directory noColon, firstProgram, List.map_cons,
        ← current, List.find?_cons_of_pos executable]
      rfl
  | case3 start position found currentPath executable inductionHypothesis =>
      rcases exists_of_findColon found with
        ⟨directory, rest, noColon, cut, rfl⟩
      have current : currentPath = programIn name directory :=
        currentPath_eq cut
      rw [inductionHypothesis, drop_behind cut, cut,
        finished_directory noColon, firstProgram, firstProgram,
        List.map_cons, ← current, List.find?_cons_of_neg executable]

/-- What is returned is the program in the first directory that has it. -/
def FindsFirst (stat : Stat) (path name result : Text) : Prop :=
  result = (firstProgram stat name (directories path)).getD []

/--
The program is found in the first directory that has it, exactly if `PATH`
ends with a colon or is empty, the program is not in the last directory, or it
is in an earlier one.
-/
theorem findProgramOnPath_first_iff (stat : Stat) (path name : Text) :
    FindsFirst stat path name (findProgramOnPath stat path name) ↔
      remainder isColon path = [] ∨
        isExecutable stat (programIn name (remainder isColon path)) =
          false ∨
        ∃ directory ∈ finished isColon path,
          isExecutable stat (programIn name directory) = true := by
  rw [FindsFirst, findProgramOnPath, searchFrom_eq, List.drop_zero,
    directories, records]
  cases last : remainder isColon path with
  | nil => simp
  | cons character others =>
      rw [if_neg (by simp)]
      simp only [firstProgram, List.map_append, List.find?_append,
        List.map_cons, List.map_nil]
      cases first :
          ((finished isColon path).map (programIn name)).find?
            (isExecutable stat) with
      | some program =>
          have executable := List.find?_some first
          have member := List.mem_of_find?_eq_some first
          rcases List.mem_map.mp member with ⟨directory, inPath, rfl⟩
          refine iff_of_true rfl (Or.inr (Or.inr ?_))
          exact ⟨directory, inPath, executable⟩
      | none =>
          have nowhere : ∀ directory ∈ finished isColon path,
              isExecutable stat (programIn name directory) = false := by
            intro directory inPath
            have notHere := List.find?_eq_none.mp first _
              (List.mem_map_of_mem inPath)
            simpa using notHere
          cases executable : isExecutable stat
              (programIn name (character :: others)) with
          | true =>
              rw [List.find?_cons_of_pos executable]
              refine iff_of_false (by simp [programIn]) ?_
              rintro (empty | notHere | ⟨directory, inPath, here⟩)
              · cases empty
              · cases notHere
              · rw [nowhere directory inPath] at here
                cases here
          | false =>
              rw [List.find?_cons_of_neg (by simp [executable])]
              simp

/-- A system with one program. -/
def systemWith (program : Text) : Stat := fun path =>
  if path = program then some 0o100755 else none

/-- The last directory is not looked at. -/
theorem last_directory_not_searched :
    ¬ FindsFirst (systemWith "/bin/sh".toList) "/sbin:/bin".toList
      "sh".toList
      (findProgramOnPath (systemWith "/bin/sh".toList) "/sbin:/bin".toList
        "sh".toList) := by
  rw [FindsFirst, findProgramOnPath, searchFrom_eq]
  decide

end Anbox.Utils.ProgramLookup
