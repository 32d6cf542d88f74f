import Mathlib.Data.List.TakeWhile

/-!
# Text whose pieces end with a terminator

Each terminator ends a piece, which may be empty.  What is behind the last one
is a piece that is not finished.  A text may arrive in several parts: the
pieces that its parts finish are the same if what is not finished is kept for
the next part.

Where the last terminator may be left out, as in the lines of a file, what is
behind it counts as a record unless it is empty.
-/

namespace Anbox.Foundation.TerminatedText

universe u

variable {Letter : Type u} (ends : Letter → Bool)

/-- The pieces that have their terminator, without it. -/
def finished (text : List Letter) : List (List Letter) :=
  (text.splitOnP ends).dropLast

/-- What is behind the last terminator. -/
def remainder (text : List Letter) : List Letter :=
  (text.splitOnP ends).getLast (List.splitOnP_ne_nil ends text)

/-- The pieces of a text that may lack its last terminator. -/
def records (text : List Letter) : List (List Letter) :=
  if (remainder ends text).isEmpty then finished ends text
  else finished ends text ++ [remainder ends text]

/-- There is no terminator in the text. -/
def Unended (text : List Letter) : Prop :=
  ∀ letter ∈ text, ends letter = false

instance (text : List Letter) : Decidable (Unended ends text) :=
  List.decidableBAll _ text

variable {ends}

theorem Unended.nil : Unended ends [] :=
  nofun

/-- Where one letter is the terminator, it has to be absent. -/
theorem unended_iff_notMem {terminator : Letter}
    (only : ∀ letter, ends letter = true ↔ letter = terminator)
    {text : List Letter} : Unended ends text ↔ terminator ∉ text := by
  constructor
  · intro unended member
    have isEnd := (only terminator).mpr rfl
    rw [unended terminator member] at isEnd
    cases isEnd
  · intro absent letter member
    rw [Bool.eq_false_iff]
    intro isEnd
    exact absent ((only letter).mp isEnd ▸ member)

theorem Unended.append {first second : List Letter}
    (before : Unended ends first) (behind : Unended ends second) :
    Unended ends (first ++ second) := by
  intro letter member
  rcases List.mem_append.mp member with inFirst | inSecond
  · exact before letter inFirst
  · exact behind letter inSecond

/-! ## One piece -/

theorem finished_of_unended {text : List Letter}
    (unended : Unended ends text) : finished ends text = [] := by
  rw [finished, List.splitOnP_eq_singleton unended]
  rfl

theorem remainder_of_unended {text : List Letter}
    (unended : Unended ends text) : remainder ends text = text := by
  simp only [remainder, List.splitOnP_eq_singleton unended,
    List.getLast_singleton]

/-- A terminator finishes what is in front of it. -/
theorem finished_append_cons {terminator : Letter}
    (isTerminator : ends terminator = true) (first second : List Letter) :
    finished ends (first ++ terminator :: second) =
      finished ends first ++
        remainder ends first :: finished ends second := by
  have pieces : first.splitOnP ends =
      finished ends first ++ [remainder ends first] :=
    (List.dropLast_concat_getLast _).symm
  rw [finished, List.splitOnP_append_cons first second isTerminator,
    List.dropLast_append_of_ne_nil (List.splitOnP_ne_nil ends second),
    pieces, List.append_assoc]
  rfl

theorem remainder_append_cons {terminator : Letter}
    (isTerminator : ends terminator = true) (first second : List Letter) :
    remainder ends (first ++ terminator :: second) =
      remainder ends second := by
  have cut := List.splitOnP_append_cons first second isTerminator
  simp only [remainder, cut]
  exact List.getLast_append_of_ne_nil _ _

/-- A text is not ended, or begins with a piece and its terminator. -/
theorem unended_or_exists_piece (text : List Letter) :
    Unended ends text ∨
      ∃ piece terminator rest, Unended ends piece ∧
        ends terminator = true ∧ text = piece ++ terminator :: rest := by
  have joined :=
    @List.takeWhile_append_dropWhile _ (fun letter => !ends letter) text
  have piece : Unended ends (text.takeWhile fun letter => !ends letter) := by
    intro letter member
    simpa using List.mem_takeWhile_imp member
  cases rest : text.dropWhile fun letter => !ends letter with
  | nil =>
      rw [rest, List.append_nil] at joined
      exact Or.inl (joined ▸ piece)
  | cons terminator rest' =>
      have stopped :=
        List.head?_dropWhile_not (fun letter => !ends letter) text
      rw [rest] at joined stopped
      exact Or.inr ⟨_, terminator, rest', piece, by simpa using stopped,
        joined.symm⟩

/-- Induction on the pieces of a text. -/
@[elab_as_elim]
theorem pieceInduction (ends : Letter → Bool)
    {motive : List Letter → Prop}
    (unended : ∀ text, Unended ends text → motive text)
    (piece :
      ∀ first terminator rest, Unended ends first →
        ends terminator = true → motive rest →
          motive (first ++ terminator :: rest))
    (text : List Letter) : motive text := by
  induction size : text.length using Nat.strong_induction_on
    generalizing text with
  | h length inductionHypothesis =>
      rcases @unended_or_exists_piece _ ends text with
        isUnended | ⟨first, terminator, rest, isPiece, isTerminator, rfl⟩
      · exact unended text isUnended
      · have shorter : rest.length < length := by
          rw [← size, List.length_append, List.length_cons]
          omega
        exact piece first terminator rest isPiece isTerminator
          (inductionHypothesis _ shorter rest rfl)

/-! ## Parts of a text -/

theorem remainder_unended (text : List Letter) :
    Unended ends (remainder ends text) := by
  induction text using pieceInduction ends with
  | unended text unended =>
      rw [remainder_of_unended unended]
      exact unended
  | piece first terminator rest _ isTerminator inductionHypothesis =>
      rw [remainder_append_cons isTerminator]
      exact inductionHypothesis

theorem unended_of_mem_finished {text piece : List Letter}
    (member : piece ∈ finished ends text) : Unended ends piece := by
  induction text using pieceInduction ends with
  | unended text unended =>
      rw [finished_of_unended unended] at member
      cases member
  | piece first terminator rest unended isTerminator inductionHypothesis =>
      rw [finished_append_cons isTerminator, finished_of_unended unended,
        remainder_of_unended unended, List.nil_append] at member
      rcases List.mem_cons.mp member with rfl | later
      · exact unended
      · exact inductionHypothesis later

/-- What a further part finishes depends only on what was not finished. -/
theorem finished_append (text more : List Letter) :
    finished ends (text ++ more) =
      finished ends text ++ finished ends (remainder ends text ++ more) := by
  induction text using pieceInduction ends with
  | unended text unended =>
      rw [finished_of_unended unended, remainder_of_unended unended,
        List.nil_append]
  | piece first terminator rest _ isTerminator inductionHypothesis =>
      rw [List.append_assoc, List.cons_append,
        finished_append_cons isTerminator, inductionHypothesis,
        finished_append_cons isTerminator,
        remainder_append_cons isTerminator, List.append_assoc,
        List.cons_append]

theorem remainder_append (text more : List Letter) :
    remainder ends (text ++ more) =
      remainder ends (remainder ends text ++ more) := by
  induction text using pieceInduction ends with
  | unended text unended => rw [remainder_of_unended unended]
  | piece first terminator rest _ isTerminator inductionHypothesis =>
      rw [List.append_assoc, List.cons_append,
        remainder_append_cons isTerminator, inductionHypothesis,
        remainder_append_cons isTerminator]

/-! ## Records -/

@[simp]
theorem records_nil : records ends [] = [] := by
  simp [records, remainder_of_unended Unended.nil,
    finished_of_unended Unended.nil]

/-- What is written before a text belongs to its first piece. -/
theorem splitOnP_append_of_unended {first : List Letter}
    (unended : Unended ends first) (text : List Letter) :
    (first ++ text).splitOnP ends =
      (text.splitOnP ends).modifyHead (first ++ ·) := by
  induction first with
  | nil =>
      rw [List.nil_append]
      exact (congrFun List.modifyHead_id (text.splitOnP ends)).symm
  | cons letter first inductionHypothesis =>
      have notTerminator := unended letter List.mem_cons_self
      have later := inductionHypothesis fun other member =>
        unended other (List.mem_cons_of_mem letter member)
      rw [List.cons_append, List.splitOnP_cons_eq_if_modifyHead,
        if_neg (by simp [notTerminator]), later, List.modifyHead_modifyHead]
      rfl

/-- Of a text and its terminator, all pieces are records. -/
theorem records_append_terminator {terminator : Letter}
    (isTerminator : ends terminator = true) (first second : List Letter) :
    records ends (first ++ terminator :: second) =
      first.splitOnP ends ++ records ends second := by
  have pieces : first.splitOnP ends =
      finished ends first ++ [remainder ends first] :=
    (List.dropLast_concat_getLast _).symm
  rw [records, remainder_append_cons isTerminator,
    finished_append_cons isTerminator, pieces, records]
  split
  · rw [List.append_assoc, List.singleton_append]
  · rw [List.append_assoc, List.append_assoc, List.singleton_append,
      List.cons_append]

/-- The records of texts that are written with a terminator each. -/
theorem records_flatMap_terminated {terminator : Letter}
    (isTerminator : ends terminator = true) (texts : List (List Letter)) :
    records ends (texts.flatMap (· ++ [terminator])) =
      texts.flatMap (List.splitOnP ends) := by
  induction texts with
  | nil => exact records_nil
  | cons text texts inductionHypothesis =>
      rw [List.flatMap_cons, List.flatMap_cons, List.append_assoc,
        List.singleton_append, records_append_terminator isTerminator,
        inductionHypothesis]

/-- A record goes on until its terminator. -/
theorem records_append_cons {terminator : Letter}
    (isTerminator : ends terminator = true) {first : List Letter}
    (unended : Unended ends first) (second : List Letter) :
    records ends (first ++ terminator :: second) =
      first :: records ends second := by
  rw [records, remainder_append_cons isTerminator,
    finished_append_cons isTerminator, finished_of_unended unended,
    remainder_of_unended unended, records, List.nil_append]
  split
  · rfl
  · rfl

theorem unended_of_mem_records {text record : List Letter}
    (member : record ∈ records ends text) : Unended ends record := by
  unfold records at member
  split at member
  · exact unended_of_mem_finished member
  · rcases List.mem_append.mp member with inside | last
    · exact unended_of_mem_finished inside
    · rw [List.mem_singleton.mp last]
      exact remainder_unended text

end Anbox.Foundation.TerminatedText
