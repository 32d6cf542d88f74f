import Anbox.Foundation.PathResolution

/-!
# Lines with fields

A mount entry is a line with six fields that are separated by blanks.  The line
has the fields that it was made of if there is no blank in them.  A path below
a root is one of them, and leads where it leads from the root on, if it has no
blank and does not climb above the root.
-/

namespace Anbox.Lxc.EntryLines

open Anbox.Foundation.SeparatedText
open Anbox.Foundation.PathResolution

/-! ## Lines -/

/-- The characters that separate the fields of a line. -/
def isBlank (character : Char) : Bool :=
  character = ' ' || character = '\t' || character = '\n'

/-- The characters have no blank among them. -/
def Unbroken (text : List Char) : Prop :=
  ∀ character ∈ text, isBlank character = false

instance (text : List Char) : Decidable (Unbroken text) :=
  List.decidableBAll _ text

def fields (line : String) : List String :=
  (pieces isBlank line.toList).map String.ofList

/-- What mounts the source, or what it is, at a path. -/
def entryLine (source path createType : String) : String :=
  source ++ " " ++ path ++ " none bind,create=" ++ createType ++
    ",optional 0 0"

/-- The fields of a line behind the two paths. -/
def entryOptions (createType : String) : List String :=
  ["none", "bind,create=" ++ createType ++ ",optional", "0", "0"]

theorem isBlank_ordinary {character : Char}
    (blank : isBlank character = true) : Ordinary character := by
  simp only [isBlank, Bool.or_eq_true, decide_eq_true_eq] at blank
  rcases blank with (rfl | rfl) | rfl
  · exact ⟨by decide, by decide⟩
  · exact ⟨by decide, by decide⟩
  · exact ⟨by decide, by decide⟩

theorem fields_eq_iff {line : String} {texts : List String} :
    fields line = texts ↔
      pieces isBlank line.toList = texts.map String.toList := by
  constructor
  · rintro rfl
    simp [fields, Function.comp_def]
  · intro cut
    simp [fields, cut, Function.comp_def]

theorem pieces_entryLine (source path : String) {createType : String}
    (known : createType = "file" ∨ createType = "dir") :
    pieces isBlank (entryLine source path createType).toList =
      pieces isBlank source.toList ++ pieces isBlank path.toList ++
        (entryOptions createType).map String.toList := by
  have ending :
      pieces isBlank
          ("none bind,create=" ++ createType ++ ",optional 0 0").toList =
        (entryOptions createType).map String.toList := by
    rcases known with rfl | rfl
    · decide
    · decide
  have line :
      (entryLine source path createType).toList =
        source.toList ++ ' ' :: (path.toList ++ ' ' ::
          ("none bind,create=" ++ createType ++ ",optional 0 0").toList) := by
    simp [entryLine, String.toList_append]
  rw [line, pieces_append_cons rfl, pieces_append_cons rfl, ending,
    List.append_assoc]

/-- The fields of a line are as meant if the two paths are fields. -/
theorem fields_entryLine_eq_iff {source path field : String}
    {createType : String}
    (known : createType = "file" ∨ createType = "dir") :
    fields (entryLine source path createType) =
        source :: field :: entryOptions createType ↔
      Whole isBlank source.toList ∧
        pieces isBlank path.toList = [field.toList] := by
  have texts :
      (source :: field :: entryOptions createType).map String.toList =
        [source.toList] ++ [field.toList] ++
          (entryOptions createType).map String.toList := rfl
  rw [fields_eq_iff, pieces_entryLine source path known, texts,
    List.append_cancel_right_eq]
  constructor
  · intro same
    have member : source.toList ∈
        pieces isBlank source.toList ++ pieces isBlank path.toList := by
      simp [same]
    have whole : Whole isBlank source.toList := by
      rcases List.mem_append.mp member with inSource | inPath
      · exact whole_of_mem_pieces inSource
      · exact whole_of_mem_pieces inPath
    rw [pieces_of_whole whole, List.append_cancel_left_eq] at same
    exact ⟨whole, same⟩
  · rintro ⟨whole, single⟩
    rw [pieces_of_whole whole, single]

/-! ## Paths below a root -/

/-- A target as it is taken from the root on, without a slash before it. -/
def belowRoot : Path → Path
  | [] => []
  | character :: path =>
      if isSlash character then path else character :: path

theorem belowRoot_cases (target : Path) :
    target = '/' :: belowRoot target ∨ target = belowRoot target := by
  cases target with
  | nil => exact Or.inr rfl
  | cons character path =>
      rw [belowRoot]
      split
      · rename_i slash
        rw [of_decide_eq_true slash]
        exact Or.inl rfl
      · exact Or.inr rfl

/-- A leading slash is what is left out. -/
theorem startsWith_slash_cases (target : String) :
    target.startsWith "/" = true ∧
        target.toList = '/' :: belowRoot target.toList ∨
      target.startsWith "/" = false ∧
        target.toList = belowRoot target.toList := by
  cases starts : target.startsWith "/" with
  | true =>
      left
      rcases String.startsWith_string_iff.mp starts with ⟨rest, whole⟩
      have shape : target.toList = '/' :: rest := whole.symm
      rw [shape]
      exact ⟨rfl, rfl⟩
  | false =>
      right
      refine ⟨rfl, ?_⟩
      rcases belowRoot_cases target.toList with slash | same
      · have found : target.startsWith "/" = true :=
          String.startsWith_string_iff.mpr
            ⟨belowRoot target.toList, slash.symm⟩
        rw [starts] at found
        cases found
      · exact same

theorem components_belowRoot (target : Path) :
    components (belowRoot target) = components target := by
  rcases belowRoot_cases target with slash | same
  · have cut := components_cons_slash (belowRoot target)
    rw [← slash] at cut
    exact cut.symm
  · rw [← same]

theorem unbroken_cons_slash (path : Path) :
    Unbroken ('/' :: path) ↔ Unbroken path := by
  have notBlank : isBlank '/' = false := by decide
  rw [Unbroken, List.forall_mem_cons]
  exact and_iff_right notBlank

theorem unbroken_append (first second : Path) :
    Unbroken (first ++ second) ↔ Unbroken first ∧ Unbroken second :=
  List.forall_mem_append

theorem unbroken_belowRoot (target : Path) :
    Unbroken (belowRoot target) ↔ Unbroken target := by
  rcases belowRoot_cases target with slash | same
  · have cut := unbroken_cons_slash (belowRoot target)
    rw [← slash] at cut
    exact cut.symm
  · rw [← same]

theorem resolve_belowRoot (target : Path) :
    resolve (belowRoot target) = resolve target := by
  rw [resolve, components_belowRoot, resolve]

theorem staysBelow_belowRoot (target : Path) :
    StaysBelow (belowRoot target) ↔ StaysBelow target := by
  rw [StaysBelow, follow, components_belowRoot, StaysBelow, follow]

/-- Blanks before the root make no difference to where it is. -/
structure PlainRoot (root : Path) : Prop where
  unbroken : Unbroken (root.dropWhile isBlank)
  same_place : resolve (root.dropWhile isBlank) = resolve root

/-- A place whose components have no blank in them. -/
def BlankFree (place : List Path) : Prop :=
  ∀ component ∈ place, Unbroken component

/-- If blanks before the root are not in its place, they lead nowhere. -/
theorem resolve_dropWhile_of_blankFree {root : Path}
    (free : BlankFree (resolve root)) :
    resolve (root.dropWhile isBlank) = resolve root := by
  have blanks : ∀ letter ∈ root.takeWhile isBlank,
      isBlank letter = true :=
    fun _ member => List.mem_takeWhile_imp member
  have whole : root.takeWhile isBlank ++ root.dropWhile isBlank = root :=
    List.takeWhile_append_dropWhile
  rcases resolve_append_cases
      (fun letter member => isBlank_ordinary (blanks letter member))
      (root.dropWhile isBlank) with
    same | ⟨component, member, letter, isBefore, inside⟩
  · rw [← same, whole]
  · rw [whole] at member
    have broken := free component member letter inside
    rw [blanks letter isBefore] at broken
    cases broken

/-- If the place of a target has no blank, its path does not end in one. -/
theorem eq_nil_of_blankFree {root target path behind : Path}
    (joined : root ++ '/' :: target = path ++ behind)
    (blanks : ∀ other ∈ behind, isBlank other = true)
    (free : BlankFree (resolve target)) : behind = [] := by
  rcases List.eq_nil_or_concat behind with rfl | ⟨others, last, rfl⟩
  · rfl
  · have blank : isBlank last = true := blanks last (by simp)
    rw [List.concat_eq_append, ← List.append_assoc] at joined
    rcases List.eq_nil_or_concat target with rfl | ⟨before, final, rfl⟩
    · have same := (List.append_inj' joined rfl).2
      cases same
      cases blank
    · rw [List.concat_eq_append, ← List.cons_append,
        ← List.append_assoc] at joined
      have same := (List.append_inj' joined rfl).2
      cases same
      rw [List.concat_eq_append] at free
      rcases exists_mem_resolve_append (isBlank_ordinary blank) before with
        ⟨component, member, inside⟩
      have broken := free component member last inside
      rw [blank] at broken
      cases broken

/-- The joined path is one field, and that leads to the target. -/
theorem exists_field_iff (root target : Path) :
    (∃ path, pieces isBlank (root ++ '/' :: target) = [path] ∧
        resolve path = resolve target ++ resolve root) ↔
      PlainRoot root ∧ Unbroken target ∧
        (StaysBelow target ∨ resolve root = []) := by
  have start :
      (root ++ '/' :: target).dropWhile isBlank =
        root.dropWhile isBlank ++ '/' :: target := by
    rw [List.dropWhile_append]
    split
    · rename_i empty
      rw [List.isEmpty_iff.mp empty]
      rfl
    · rfl
  constructor
  · rintro ⟨path, single, reached⟩
    have whole : Whole isBlank path :=
      whole_of_mem_pieces (by rw [single]; exact List.mem_singleton_self _)
    -- The place has no blank, as the field has none.
    have free : BlankFree (resolve target ++ resolve root) := by
      intro component member character inside
      rw [← reached] at member
      exact whole.2 character (mem_of_mem_resolve member inside)
    rcases List.forall_mem_append.mp free with ⟨targetFree, rootFree⟩
    have samePlace := resolve_dropWhile_of_blankFree rootFree
    rcases dropWhile_eq_append_of_pieces_eq_singleton single with
      ⟨behind, joined, blanks⟩
    rw [start] at joined
    rw [eq_nil_of_blankFree joined blanks targetFree, List.append_nil]
      at joined
    subst joined
    rcases (unbroken_append _ _).mp whole.2 with ⟨rootUnbroken, rest⟩
    rw [← samePlace, resolve_append_eq_iff, samePlace] at reached
    exact ⟨⟨rootUnbroken, samePlace⟩, (unbroken_cons_slash _).mp rest,
      reached⟩
  · rintro ⟨plain, unbroken, inside⟩
    refine ⟨root.dropWhile isBlank ++ '/' :: target, ?_, ?_⟩
    · rw [← pieces_dropWhile, start]
      apply pieces_of_whole
      refine ⟨by simp, ?_⟩
      change Unbroken _
      rw [unbroken_append, unbroken_cons_slash]
      exact ⟨plain.unbroken, unbroken⟩
    · rw [← plain.same_place, resolve_append_eq_iff, plain.same_place]
      exact inside

end Anbox.Lxc.EntryLines
