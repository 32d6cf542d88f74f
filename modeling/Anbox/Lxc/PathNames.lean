import Anbox.Foundation.PathResolution
import Mathlib.Data.List.DropRight

/-!
# The library for paths

`LxcContainer` takes names of devices apart, and puts paths together, with the
functions `basename` and `operator/` of `boost::filesystem`.  They are taken
with what their documentation says of them.  A path that begins with two
slashes and has no other is the name of a host there.
-/

namespace Anbox.Lxc.PathNames

open Anbox.Foundation.SeparatedText
open Anbox.Foundation.PathResolution

/-! ## What is documented -/

/-- Two slashes and a name, as for a host. -/
def isNetworkName (path : Path) : Bool :=
  ['/', '/'].isPrefixOf path && !(path.drop 2).isEmpty &&
    (path.drop 2).all fun character => !isSlash character

/--
The last element of a path.  A slash behind the others stands for a dot, unless
it is the root.
-/
def filename (path : Path) : Path :=
  if path = ['/', '/'] || isNetworkName path then path
  else if path.getLast? = some '/' then
    let before := path.rdropWhile isSlash
    if before.isEmpty || isNetworkName before then ['/'] else ['.']
  else path.rtakeWhile fun character => !isSlash character

/-- A name up to its last dot, unless it is one or two dots. -/
def stem (name : Path) : Path :=
  if name = ['.'] || name = ['.', '.'] then name
  else if name.contains '.' then
    (name.rdropWhile fun character => character != '.').dropLast
  else name

/-- Two paths with a separator, unless there is one or nothing to join. -/
def joined (directory name : Path) : Path :=
  if name.isEmpty then directory
  else if directory.isEmpty || directory.getLast? = some '/' ||
      name.head? = some '/' then directory ++ name
  else directory ++ '/' :: name

/-- The functions of the library. -/
structure PathLibrary where
  basename : Path → Path
  append : Path → Path → Path
  basename_eq : ∀ path, basename path = stem (filename path)
  append_eq : ∀ directory name,
    append directory name = joined directory name

/-- The library as it is documented. -/
def documented : PathLibrary :=
  { basename := fun path => stem (filename path)
    append := joined
    basename_eq := fun _ => rfl
    append_eq := fun _ _ => rfl }

/-! ## Names -/

/-- A component that leads to a place below the directory. -/
structure IsName (name : Path) : Prop where
  nonempty : name ≠ []
  noSlash : '/' ∉ name
  notDot : name ≠ ['.']
  notDots : name ≠ ['.', '.']

instance (name : Path) : Decidable (IsName name) :=
  decidable_of_iff
    (name ≠ [] ∧ '/' ∉ name ∧ name ≠ ['.'] ∧ name ≠ ['.', '.'])
    ⟨fun ⟨nonempty, noSlash, notDot, notDots⟩ =>
      ⟨nonempty, noSlash, notDot, notDots⟩,
      fun name =>
        ⟨name.nonempty, name.noSlash, name.notDot, name.notDots⟩⟩

theorem whole_of_noSlash {name : Path} (nonempty : name ≠ [])
    (noSlash : '/' ∉ name) : Whole isSlash name := by
  refine ⟨nonempty, ?_⟩
  intro character member
  apply decide_eq_false
  rintro rfl
  exact noSlash member

theorem IsName.follow_eq {name : Path} (isName : IsName name) :
    follow name = ⟨[name], 0⟩ := by
  have whole := whole_of_noSlash isName.nonempty isName.noSlash
  rw [follow, components, pieces_of_whole whole, List.foldl_cons,
    List.foldl_nil, move, if_neg isName.notDot, if_neg isName.notDots]

/-- Only a name leads to a place below the directory. -/
theorem within_follow_iff {name : Path}
    (simple : '/' ∉ name ∨ name = ['/']) (directory : List Path) :
    (∃ below, below ≠ [] ∧
        (follow name).within directory = below ++ directory) ↔
      IsName name := by
  constructor
  · rintro ⟨below, nonempty, reached⟩
    have notBelow : (follow name).within directory ≠ directory ∧
        (follow name).within directory ≠ directory.tail := by
      rw [reached]
      constructor
      · intro same
        exact nonempty (List.append_left_eq_self.mp same)
      · intro same
        have lengths := congrArg List.length same
        have positive := List.length_pos_of_ne_nil nonempty
        rw [List.length_append, List.length_tail] at lengths
        omega
    rcases simple with noSlash | rfl
    · refine ⟨?_, noSlash, ?_, ?_⟩
      · rintro rfl
        exact notBelow.1 rfl
      · rintro rfl
        exact notBelow.1 rfl
      · rintro rfl
        exact notBelow.2 (List.drop_one)
    · exact absurd rfl notBelow.1
  · intro isName
    refine ⟨[name], by simp, ?_⟩
    rw [isName.follow_eq]
    rfl

/-! ## Joined paths -/

theorem resolve_append_slash (path : Path) :
    resolve (path ++ ['/']) = resolve path := by
  rw [resolve_append]
  rfl

theorem resolve_joined (directory name : Path) :
    resolve (joined directory name) =
      (follow name).within (resolve directory) := by
  unfold joined
  split
  · rename_i empty
    rw [List.isEmpty_iff.mp empty]
    rfl
  · split
    · rename_i glued
      rw [Bool.or_eq_true, Bool.or_eq_true, List.isEmpty_iff,
        decide_eq_true_eq, decide_eq_true_eq] at glued
      rcases glued with (rfl | ends) | starts
      · have atRoot : resolve [] = [] := rfl
        rw [List.nil_append, resolve_eq, atRoot, Whereabouts.within,
          List.drop_nil, List.append_nil]
      · rcases List.getLast?_eq_some_iff.mp ends with ⟨directory, rfl⟩
        rw [List.append_assoc, List.singleton_append, resolve_append,
          resolve_append_slash]
      · rcases List.head?_eq_some_iff.mp starts with ⟨rest, rfl⟩
        rw [resolve_append, follow, follow, components_cons_slash]
    · exact resolve_append directory name

/-- What stands in front of a name does not depend on the name. -/
theorem exists_joined_eq_append (directory : Path) :
    ∃ base, (∀ character ∈ base, character ∈ directory ∨ character = '/') ∧
      ∀ first rest, first ≠ '/' →
        joined directory (first :: rest) = base ++ first :: rest := by
  have glued : ∀ {first : Char} (rest : Path), first ≠ '/' →
      joined directory (first :: rest) =
        if directory.isEmpty || directory.getLast? = some '/' then
          directory ++ first :: rest
        else directory ++ '/' :: first :: rest := by
    intro first rest notSlash
    simp [joined, notSlash]
  by_cases ends :
      (directory.isEmpty || decide (directory.getLast? = some '/')) = true
  · refine ⟨directory, fun _ member => Or.inl member, ?_⟩
    intro first rest notSlash
    rw [glued rest notSlash, if_pos ends]
  · refine ⟨directory ++ ['/'], ?_, ?_⟩
    · intro character member
      rcases List.mem_append.mp member with inside | slash
      · exact Or.inl inside
      · exact Or.inr (List.mem_singleton.mp slash)
    · intro first rest notSlash
      rw [glued rest notSlash, if_neg ends, List.append_assoc,
        List.singleton_append]

/-- Letters of a joined path are of its parts, or a separator. -/
theorem forall_mem_joined {holds : Char → Prop} (slash : holds '/')
    (directory name : Path) :
    (∀ character ∈ joined directory name, holds character) ↔
      (∀ character ∈ directory, holds character) ∧
        ∀ character ∈ name, holds character := by
  unfold joined
  split
  · rename_i empty
    rw [List.isEmpty_iff.mp empty]
    simp
  · split
    · exact List.forall_mem_append
    · rw [List.forall_mem_append, List.forall_mem_cons]
      exact and_congr_right fun _ => and_iff_right slash

/-! ## The last name of a path -/

theorem stem_isPrefix (name : Path) : stem name <+: name := by
  unfold stem
  split
  · exact List.prefix_rfl
  · split
    · exact (List.dropLast_prefix _).trans (List.rdropWhile_prefix _ _)
    · exact List.prefix_rfl

theorem slashes_of_isNetworkName {path : Path}
    (network : isNetworkName path = true) : ['/', '/'] <+: path := by
  simp only [isNetworkName, Bool.and_eq_true] at network
  exact List.isPrefixOf_iff_prefix.mp network.1.1

/-- What `filename` finds in a path that is not the name of a host. -/
theorem filename_cases {path : Path} (single : ¬['/', '/'] <+: path) :
    filename path = ['/'] ∨ filename path = ['.'] ∨
      filename path = path.rtakeWhile fun character =>
        !isSlash character := by
  unfold filename
  split
  · rename_i double
    rw [Bool.or_eq_true, decide_eq_true_eq] at double
    rcases double with rfl | network
    · exact absurd List.prefix_rfl single
    · exact absurd (slashes_of_isNetworkName network) single
  · split
    · dsimp only
      split
      · exact Or.inl rfl
      · exact Or.inr (Or.inl rfl)
    · exact Or.inr (Or.inr rfl)

theorem stem_filename_simple {path : Path}
    (single : ¬['/', '/'] <+: path) :
    '/' ∉ stem (filename path) ∨ stem (filename path) = ['/'] := by
  rcases filename_cases single with root | dot | last
  · rw [root]
    exact Or.inr rfl
  · rw [dot]
    left
    decide
  · left
    intro member
    have inLast := (stem_isPrefix _).mem member
    rw [last] at inLast
    have notSlash := List.mem_rtakeWhile_imp inLast
    revert notSlash
    decide

/-- The name has letters of the path, or is a dot or the root. -/
theorem mem_stem_filename {path : Path} (single : ¬['/', '/'] <+: path)
    {character : Char} (member : character ∈ stem (filename path)) :
    character ∈ path ∨ character = '/' ∨ character = '.' := by
  have inName := (stem_isPrefix _).mem member
  rcases filename_cases single with root | dot | last
  · rw [root, List.mem_singleton] at inName
    exact Or.inr (Or.inl inName)
  · rw [dot, List.mem_singleton] at inName
    exact Or.inr (Or.inr inName)
  · rw [last] at inName
    exact Or.inl ((List.rtakeWhile_suffix _ _).mem inName)

end Anbox.Lxc.PathNames
