import Mathlib.Data.List.TakeWhile

/-!
# Text that is cut at separators

The pieces of a text are what is between its separators, without those that are
empty.
-/

namespace Anbox.Foundation.SeparatedText

universe u

variable {Letter : Type u} (separates : Letter → Bool)

def pieces (text : List Letter) : List (List Letter) :=
  (text.splitOnP separates).filter fun piece => !piece.isEmpty

/-- The text has a letter and no separator. -/
def Whole (text : List Letter) : Prop :=
  text ≠ [] ∧ ∀ letter ∈ text, separates letter = false

variable {separates : Letter → Bool}

@[simp]
theorem pieces_nil : pieces separates [] = [] := by
  simp [pieces, List.splitOnP_nil]

/-- A separator cuts a text into two. -/
theorem pieces_append_cons {separator : Letter}
    (isSeparator : separates separator = true) (first second : List Letter) :
    pieces separates (first ++ separator :: second) =
      pieces separates first ++ pieces separates second := by
  rw [pieces, List.splitOnP_append_cons first second isSeparator,
    List.filter_append]
  rfl

theorem pieces_of_whole {text : List Letter} (whole : Whole separates text) :
    pieces separates text = [text] := by
  rw [pieces, List.splitOnP_eq_singleton whole.2]
  simp [whole.1]

theorem pieces_cons_separator {separator : Letter}
    (isSeparator : separates separator = true) (text : List Letter) :
    pieces separates (separator :: text) = pieces separates text := by
  have cut := pieces_append_cons isSeparator [] text
  simpa using cut

/-- A piece goes on until the next separator. -/
theorem pieces_cons_letter {letter : Letter}
    (notSeparator : separates letter = false) (text : List Letter) :
    pieces separates (letter :: text) =
      (letter :: text.takeWhile fun other => !separates other) ::
        pieces separates (text.dropWhile fun other => !separates other) := by
  have whole :
      Whole separates
        (letter :: text.takeWhile fun other => !separates other) := by
    refine ⟨by simp, ?_⟩
    intro other member
    rcases List.mem_cons.mp member with rfl | inside
    · exact notSeparator
    · simpa using List.mem_takeWhile_imp inside
  have joined :
      (letter :: text.takeWhile fun other => !separates other) ++
          (text.dropWhile fun other => !separates other) =
        letter :: text := by
    rw [List.cons_append, List.takeWhile_append_dropWhile]
  cases rest : text.dropWhile fun other => !separates other with
  | nil =>
      rw [rest, List.append_nil] at joined
      rw [← joined, pieces_of_whole whole, joined, pieces_nil]
  | cons separator others =>
      have isSeparator : separates separator = true := by
        have stopped := List.head?_dropWhile_not
          (fun other => !separates other) text
        simpa [rest] using stopped
      rw [rest] at joined
      rw [← joined, pieces_append_cons isSeparator, pieces_of_whole whole,
        pieces_cons_separator isSeparator]
      rfl

/-- Every piece is whole. -/
theorem whole_of_mem_pieces {text piece : List Letter}
    (member : piece ∈ pieces separates text) : Whole separates piece := by
  rcases List.mem_filter.mp member with ⟨split, nonempty⟩
  refine ⟨by simpa using nonempty, ?_⟩
  clear member nonempty
  induction text generalizing piece with
  | nil =>
      rw [List.splitOnP_nil, List.mem_singleton] at split
      subst split
      exact nofun
  | cons letter text inductionHypothesis =>
      rw [List.splitOnP_cons_eq_if_modifyHead] at split
      split at split
      · rcases List.mem_cons.mp split with rfl | later
        · exact nofun
        · exact inductionHypothesis later
      · rename_i notSeparator
        cases parts : text.splitOnP separates with
        | nil => exact absurd parts (List.splitOnP_ne_nil _ _)
        | cons first others =>
            rw [parts, List.modifyHead_cons] at split
            rcases List.mem_cons.mp split with rfl | later
            · intro other inside
              rcases List.mem_cons.mp inside with rfl | inFirst
              · simpa using notSeparator
              · exact inductionHypothesis (parts ▸ List.mem_cons_self) other
                  inFirst
            · exact inductionHypothesis
                (parts ▸ List.mem_cons_of_mem _ later)

/-- Words with a separator behind each are read back if they are whole. -/
theorem pieces_flatMap_separated_iff {separator : Letter}
    (isSeparator : separates separator = true)
    (words : List (List Letter)) :
    pieces separates (words.flatMap (· ++ [separator])) = words ↔
      ∀ word ∈ words, Whole separates word := by
  constructor
  · intro same word member
    rw [← same] at member
    exact whole_of_mem_pieces member
  · intro whole
    induction words with
    | nil => exact pieces_nil
    | cons word words inductionHypothesis =>
        have later := inductionHypothesis fun other member =>
          whole other (List.mem_cons_of_mem word member)
        rw [List.flatMap_cons, List.append_assoc, List.singleton_append,
          pieces_append_cons isSeparator,
          pieces_of_whole (whole word List.mem_cons_self), later]
        rfl

/-- The pieces stand in the text. -/
theorem isInfix_of_mem_pieces {text piece : List Letter}
    (member : piece ∈ pieces separates text) : piece <:+: text := by
  induction size : text.length using Nat.strong_induction_on
    generalizing text with
  | h length inductionHypothesis =>
      cases text with
      | nil => simp at member
      | cons letter text =>
          cases separator : separates letter with
          | true =>
              rw [pieces_cons_separator separator] at member
              have shorter : text.length < length := by simp [← size]
              exact (inductionHypothesis _ shorter member rfl).trans
                (List.suffix_cons letter text).isInfix
          | false =>
              rw [pieces_cons_letter separator, List.mem_cons] at member
              rcases member with rfl | later
              · refine ⟨[], text.dropWhile fun other => !separates other,
                  ?_⟩
                simp
              · have behind :
                    (text.dropWhile fun other => !separates other) <:+
                      letter :: text :=
                  (List.dropWhile_suffix _).trans
                    (List.suffix_cons letter text)
                have shorter :
                    (text.dropWhile fun other =>
                      !separates other).length < length := by
                  rw [← size, List.length_cons]
                  exact Nat.lt_succ_of_le
                    (List.dropWhile_suffix _).length_le
                exact (inductionHypothesis _ shorter later rfl).trans
                  behind.isInfix

/-- A text without pieces has nothing but separators. -/
theorem separates_of_pieces_eq_nil {text : List Letter}
    (empty : pieces separates text = []) :
    ∀ letter ∈ text, separates letter = true := by
  induction text with
  | nil => exact nofun
  | cons letter text inductionHypothesis =>
      cases separator : separates letter with
      | false => simp [pieces_cons_letter separator] at empty
      | true =>
          rw [pieces_cons_separator separator] at empty
          intro other member
          rcases List.mem_cons.mp member with rfl | later
          · exact separator
          · exact inductionHypothesis empty other later

/-- A text with one piece at its start has only separators behind it. -/
theorem eq_append_of_pieces_eq_singleton {letter : Letter}
    {text piece : List Letter} (notSeparator : separates letter = false)
    (single : pieces separates (letter :: text) = [piece]) :
    ∃ behind, letter :: text = piece ++ behind ∧
      ∀ other ∈ behind, separates other = true := by
  rw [pieces_cons_letter notSeparator, List.cons.injEq] at single
  rcases single with ⟨rfl, empty⟩
  refine ⟨text.dropWhile fun other => !separates other, ?_,
    separates_of_pieces_eq_nil empty⟩
  rw [List.cons_append, List.takeWhile_append_dropWhile]

/-- Separators before a text do not count. -/
theorem pieces_dropWhile (text : List Letter) :
    pieces separates (text.dropWhile separates) =
      pieces separates text := by
  induction text with
  | nil => rfl
  | cons letter text inductionHypothesis =>
      cases separator : separates letter with
      | true =>
          rw [List.dropWhile_cons_of_pos separator, inductionHypothesis,
            pieces_cons_separator separator]
      | false => rw [List.dropWhile_cons_of_neg (by simp [separator])]

/-- A text with one piece has only separators before and behind it. -/
theorem dropWhile_eq_append_of_pieces_eq_singleton
    {text piece : List Letter} (single : pieces separates text = [piece]) :
    ∃ behind, text.dropWhile separates = piece ++ behind ∧
      ∀ other ∈ behind, separates other = true := by
  rw [← pieces_dropWhile] at single
  cases rest : text.dropWhile separates with
  | nil => simp [rest] at single
  | cons letter others =>
      have notSeparator : separates letter = false := by
        have stopped := List.head?_dropWhile_not separates text
        simpa [rest] using stopped
      rw [rest] at single
      exact eq_append_of_pieces_eq_singleton notSeparator single

/-- What is written behind a text belongs to its last piece. -/
theorem exists_pieces_append_whole {behind : List Letter}
    (whole : Whole separates behind) (text : List Letter) :
    ∃ others last,
      pieces separates (text ++ behind) = others ++ [last ++ behind] ∧
        ∀ piece ∈ others, piece <:+: text := by
  induction size : text.length using Nat.strong_induction_on
    generalizing text with
  | h length inductionHypothesis =>
      by_cases cut : ∃ separator ∈ text, separates separator = true
      · rcases cut with ⟨separator, member, isSeparator⟩
        rcases List.append_of_mem member with ⟨before, after, rfl⟩
        have shorter : after.length < length := by
          rw [← size, List.length_append, List.length_cons]
          omega
        rcases inductionHypothesis _ shorter after rfl with
          ⟨others, last, ends, inside⟩
        refine ⟨pieces separates before ++ others, last, ?_, ?_⟩
        · rw [List.append_assoc, List.cons_append,
            pieces_append_cons isSeparator, ends, List.append_assoc]
        · intro piece isPiece
          rcases List.mem_append.mp isPiece with first | second
          · exact (isInfix_of_mem_pieces first).trans
              (List.prefix_append _ _).isInfix
          · exact (inside piece second).trans
              ((List.suffix_cons separator after).isInfix.trans
                (List.suffix_append _ _).isInfix)
      · refine ⟨[], text, pieces_of_whole ⟨?_, ?_⟩, nofun⟩
        · exact List.append_ne_nil_of_right_ne_nil text whole.1
        · intro other member
          rcases List.mem_append.mp member with inside | last
          · by_contra separator
            exact cut ⟨other, inside, by simpa using separator⟩
          · exact whole.2 other last

/-- The last letter of a text is the last one of its last piece. -/
theorem exists_pieces_append_letter {letter : Letter}
    (notSeparator : separates letter = false) (text : List Letter) :
    ∃ others last,
      pieces separates (text ++ [letter]) = others ++ [last ++ [letter]] := by
  have whole : Whole separates [letter] :=
    ⟨List.cons_ne_nil letter [],
      List.forall_mem_singleton.mpr notSeparator⟩
  rcases exists_pieces_append_whole whole text with ⟨others, last, ends, -⟩
  exact ⟨others, last, ends⟩

end Anbox.Foundation.SeparatedText
