import Anbox.Foundation.OrderedMap
import Anbox.Foundation.TerminatedText
import Mathlib.Data.List.Induction

/-!
# Environment files

A line of an environment file has a key and a value with an equals sign between
them.  `EnvironmentFile` cuts each line at its equals signs, where adjacent ones
count as one, and keeps the lines with two tokens.  So a value that has an
equals sign itself gets lost, or its first ones do.
-/

namespace Anbox.Utils.EnvironmentFile

open Std
open Anbox.Foundation.OrderedMap
open Anbox.Foundation.TerminatedText

abbrev Text := List Char

/-! ## The code -/

/-- The tokens of a text, of which the last characters may be separators. -/
def tokensAfter (separates : Char → Bool) :
    Bool → Text → List Text
  | _, [] => [[]]
  | afterSeparator, character :: text =>
      if separates character then
        -- `token_compress_on`: the token has ended at the first separator.
        if afterSeparator then tokensAfter separates true text
        else [] :: tokensAfter separates true text
      else
        (tokensAfter separates false text).modifyHead (character :: ·)

def stringSplit (text : Text) (separator : Char) : List Text :=
  tokensAfter (· = separator) false text

/-- The length of the substring is at most that of the text. -/
def stripSurroundingQuotes (text : Text) : Text :=
  if text.head? = some '"' ∧ text.getLast? = some '"' then
    (text.drop 1).take (text.length - 2)
  else text

/-- The key and the value of a line that is kept. -/
def readLine (line : Text) : Option (Text × Text) :=
  match stringSplit line '=' with
  | [key, value] => some (key, stripSurroundingQuotes value)
  | _ => none

def isNewline (character : Char) : Bool := character = '\n'

/-- The lines that `getline` gives. -/
def lines (content : Text) : List Text := records isNewline content

/-- The map `data_` that is made of a file. -/
def environmentFile (content : Text) : TreeMap Text Text :=
  (lines content).foldl
    (fun data line =>
      match readLine line with
      | some (key, value) => data.insert key value
      | none => data) ∅

def value (data : TreeMap Text Text) (key defaultValue : Text) : Text :=
  data[key]?.getD defaultValue

/-! ## Files of assignments -/

/-- An assignment, with or without quotes around its value. -/
structure Assignment where
  key : Text
  value : Text
  quoted : Bool
  named : key ≠ []
  noEquals : '=' ∉ key
  oneLine : '\n' ∉ key ∧ '\n' ∉ value
  bare :
    quoted = false →
      ¬ (value.head? = some '"' ∧ value.getLast? = some '"')

/-- The value as it stands in the line. -/
def Assignment.written (assignment : Assignment) : Text :=
  if assignment.quoted then '"' :: (assignment.value ++ ['"'])
  else assignment.value

def Assignment.line (assignment : Assignment) : Text :=
  assignment.key ++ '=' :: assignment.written

/-- A file whose lines are assignments. -/
structure File where
  content : Text
  assignments : List Assignment
  lines_eq : lines content = assignments.map Assignment.line

/-- The last assignment of a key. -/
def lastOf (assignments : List Assignment) (key : Text) :
    Option Assignment :=
  (assignments.filter (·.key = key)).getLast?

/-- Every key has the value of its last assignment, or the default. -/
def File.Understood (file : File) : Prop :=
  ∀ key defaultValue,
    EnvironmentFile.value (environmentFile file.content) key defaultValue =
      ((lastOf file.assignments key).map Assignment.value).getD defaultValue

/-! ## Tokens -/

section Tokens

variable {separates : Char → Bool}

theorem tokensAfter_of_unended {text : Text}
    (unended : Unended separates text) (afterSeparator : Bool) :
    tokensAfter separates afterSeparator text = [text] := by
  induction text generalizing afterSeparator with
  | nil => rfl
  | cons character text inductionHypothesis =>
      have notSeparator := unended character List.mem_cons_self
      have rest : Unended separates text := fun other member =>
        unended other (List.mem_cons_of_mem character member)
      rw [tokensAfter, if_neg (by simp [notSeparator]),
        inductionHypothesis rest]
      rfl

/-- A token in front of a separator. -/
theorem tokensAfter_append_cons {text : Text}
    (unended : Unended separates text) {separator : Char}
    (isSeparator : separates separator = true) (rest : Text) :
    tokensAfter separates false (text ++ separator :: rest) =
      text :: tokensAfter separates true rest := by
  induction text with
  | nil => simp [tokensAfter, isSeparator]
  | cons character text inductionHypothesis =>
      have notSeparator := unended character List.mem_cons_self
      have later : Unended separates text := fun other member =>
        unended other (List.mem_cons_of_mem character member)
      rw [List.cons_append, tokensAfter, if_neg (by simp [notSeparator]),
        inductionHypothesis later]
      rfl

theorem unended_of_mem_tokensAfter {text token : Text}
    {afterSeparator : Bool}
    (member : token ∈ tokensAfter separates afterSeparator text) :
    Unended separates token := by
  induction text generalizing afterSeparator token with
  | nil =>
      rw [tokensAfter, List.mem_singleton] at member
      rw [member]
      exact Unended.nil
  | cons character text inductionHypothesis =>
      rw [tokensAfter] at member
      split at member
      · split at member
        · exact inductionHypothesis member
        · rcases List.mem_cons.mp member with rfl | later
          · exact Unended.nil
          · exact inductionHypothesis later
      · rename_i notSeparator
        cases tokens : tokensAfter separates false text with
        | nil => simp [tokens] at member
        | cons first others =>
            rw [tokens, List.modifyHead_cons, List.mem_cons] at member
            rcases member with rfl | later
            · have firstUnended : Unended separates first :=
                inductionHypothesis (tokens ▸ List.mem_cons_self)
              intro other inside
              rcases List.mem_cons.mp inside with rfl | inFirst
              · simpa using notSeparator
              · exact firstUnended other inFirst
            · exact inductionHypothesis
                (tokens ▸ List.mem_cons_of_mem first later)

end Tokens

theorem unended_equals_iff {text : Text} :
    Unended (fun character => decide (character = '=')) text ↔
      '=' ∉ text :=
  unended_iff_notMem fun _ => decide_eq_true_iff

theorem unended_newline_iff {text : Text} :
    Unended isNewline text ↔ '\n' ∉ text :=
  unended_iff_notMem fun _ => decide_eq_true_iff

theorem mem_of_mem_stripSurroundingQuotes {text : Text} {character : Char}
    (member : character ∈ stripSurroundingQuotes text) :
    character ∈ text := by
  unfold stripSurroundingQuotes at member
  split at member
  · exact List.mem_of_mem_drop (List.mem_of_mem_take member)
  · exact member

/-! ## One line -/

theorem stripSurroundingQuotes_written (assignment : Assignment) :
    stripSurroundingQuotes assignment.written = assignment.value := by
  unfold Assignment.written
  cases quoted : assignment.quoted with
  | true =>
      have ends :
          ('"' :: (assignment.value ++ ['"'])).getLast? = some '"' := by
        rw [← List.cons_append, List.getLast?_concat]
      rw [if_pos rfl, stripSurroundingQuotes, if_pos ⟨rfl, ends⟩]
      simp
  | false =>
      rw [if_neg (by decide), stripSurroundingQuotes,
        if_neg (assignment.bare quoted)]

theorem mem_written_iff (assignment : Assignment) :
    '=' ∈ assignment.written ↔ '=' ∈ assignment.value := by
  unfold Assignment.written
  split
  · simp
  · exact Iff.rfl

/-- A value without an equals sign is read as it is. -/
theorem readLine_eq {assignment : Assignment}
    (simple : '=' ∉ assignment.value) :
    readLine assignment.line = some (assignment.key, assignment.value) := by
  have written : '=' ∉ assignment.written :=
    (mem_written_iff assignment).not.mpr simple
  rw [readLine, stringSplit, Assignment.line,
    tokensAfter_append_cons (unended_equals_iff.mpr assignment.noEquals)
      (by decide),
    tokensAfter_of_unended (unended_equals_iff.mpr written)]
  simp only [stripSurroundingQuotes_written]

/-- Whatever is read has the key, and no equals sign. -/
theorem readLine_some {assignment : Assignment} {key value : Text}
    (found : readLine assignment.line = some (key, value)) :
    key = assignment.key ∧ '=' ∉ value := by
  rw [readLine, stringSplit, Assignment.line,
    tokensAfter_append_cons (unended_equals_iff.mpr assignment.noEquals)
      (by decide)] at found
  split at found
  · rename_i first second tokens
    rw [List.cons.injEq] at tokens
    rcases tokens with ⟨rfl, rest⟩
    cases found
    refine ⟨rfl, ?_⟩
    intro member
    have token := mem_of_mem_stripSurroundingQuotes member
    have unended : Unended _ second :=
      unended_of_mem_tokensAfter (rest ▸ List.mem_cons_self)
    exact unended_equals_iff.mp unended token
  · cases found

/-! ## The whole file -/

/-- What is kept of an assignment. -/
def Assignment.kept (assignment : Assignment) : Option Text :=
  (readLine assignment.line).map Prod.snd

theorem Assignment.readLine_line (assignment : Assignment) :
    readLine assignment.line =
      assignment.kept.map fun value => (assignment.key, value) := by
  unfold Assignment.kept
  cases found : readLine assignment.line with
  | none => rfl
  | some entry =>
      rcases entry with ⟨key, value⟩
      rcases readLine_some found with ⟨rfl, -⟩
      rfl

/-- A key has the last value that was kept for it. -/
theorem getElem?_environmentFile (file : File) (key : Text) :
    (environmentFile file.content)[key]? =
      ((file.assignments.filter (·.key = key)).filterMap
        Assignment.kept).getLast? := by
  rw [environmentFile, file.lines_eq]
  induction file.assignments using List.reverseRecOn with
  | nil => simp
  | append_singleton assignments last inductionHypothesis =>
      rw [List.map_append, List.foldl_append, List.map_singleton,
        List.foldl_cons, List.foldl_nil, last.readLine_line,
        List.filter_append, List.filterMap_append]
      cases kept : last.kept with
      | none =>
          have nothing :
              ([last].filter (·.key = key)).filterMap Assignment.kept =
                [] := by
            by_cases same : last.key = key
            · simp [same, kept]
            · simp [same]
          rw [nothing, List.append_nil, ← inductionHypothesis]
          rfl
      | some value =>
          simp only [Option.map_some]
          rw [getElem?_insert_eq, inductionHypothesis]
          by_cases same : last.key = key
          · simp [same, kept]
          · simp [same, Ne.symm same]

/-- A file is understood if and only if no value that counts has an equals. -/
theorem understood_iff (file : File) :
    file.Understood ↔
      ∀ key assignment, lastOf file.assignments key = some assignment →
        '=' ∉ assignment.value := by
  constructor
  · intro understood key assignment last member
    have read := understood key
    simp only [last, Option.map_some, Option.getD_some,
      EnvironmentFile.value, getElem?_environmentFile] at read
    cases found : ((file.assignments.filter (·.key = key)).filterMap
        Assignment.kept).getLast? with
    | none =>
        have empty := read []
        rw [found, Option.getD_none] at empty
        rw [← empty] at member
        cases member
    | some kept =>
        have same := read []
        rw [found, Option.getD_some] at same
        have inside := List.mem_of_getLast? found
        rcases List.mem_filterMap.mp inside with ⟨other, -, keeps⟩
        rcases Option.map_eq_some_iff.mp keeps with ⟨entry, line, rfl⟩
        exact (readLine_some line).2 (same ▸ member)
  · intro simple key defaultValue
    rw [EnvironmentFile.value, getElem?_environmentFile]
    cases last : lastOf file.assignments key with
    | none =>
        have none := List.getLast?_eq_none_iff.mp last
        rw [none]
        rfl
    | some assignment =>
        rcases List.getLast?_eq_some_iff.mp last with ⟨others, split⟩
        have kept : assignment.kept = some assignment.value := by
          rw [Assignment.kept, readLine_eq (simple key assignment last)]
          rfl
        rw [split, List.filterMap_append, List.filterMap_cons_some kept]
        simp

theorem Assignment.unended_line (assignment : Assignment) :
    Unended isNewline assignment.line := by
  have value := unended_newline_iff.mpr assignment.oneLine.2
  have written : Unended isNewline assignment.written := by
    have quote : Unended isNewline ['"'] := by decide
    unfold Assignment.written
    split
    · exact quote.append (value.append quote)
    · exact value
  have equals : Unended isNewline ['='] := by decide
  exact (unended_newline_iff.mpr assignment.oneLine.1).append
    (equals.append written)

/-- A file with one line that ends. -/
def File.single (assignment : Assignment) : File :=
  { content := assignment.line ++ ['\n']
    assignments := [assignment]
    lines_eq := by
      rw [lines, records_append_cons (by decide) assignment.unended_line,
        records_nil]
      rfl }

/-- An assignment of options to a key. -/
def optionsAssignment : Assignment :=
  { key := "OPTIONS".toList
    value := "--level=debug".toList
    quoted := true
    named := by decide
    noEquals := by decide
    oneLine := by decide
    bare := nofun }

/-- An equals sign in the value makes the line get lost. -/
theorem options_not_understood :
    ¬ (File.single optionsAssignment).Understood := by
  intro understood
  have read := understood "OPTIONS".toList []
  rw [EnvironmentFile.value, getElem?_environmentFile] at read
  revert read
  decide

end Anbox.Utils.EnvironmentFile
