import Anbox.Foundation.SeparatedText

/-!
# Paths and the places they name

A path is resolved component by component.  A dot stays where it is and two
dots lead to the directory above, or stay at the root.  The directory that is
reached is the list of its components, the last one first, so that what is
below a directory has it at the end.

A path that is taken from some directory on can leave it only by climbing above
the place where it started.
-/

namespace Anbox.Foundation.PathResolution

open Anbox.Foundation.SeparatedText

abbrev Path := List Char

def isSlash (character : Char) : Bool := character = '/'

def components (path : Path) : List Path := pieces isSlash path

/-- The place that a component leads to. -/
def enter (directory : List Path) (component : Path) : List Path :=
  if component = ['.'] then directory
  else if component = ['.', '.'] then directory.tail
  else component :: directory

/-- The place that a path from the root leads to. -/
def resolve (path : Path) : List Path := (components path).foldl enter []

/-- A place, relative to where a path started. -/
structure Whereabouts where
  /-- The components below the highest place that was visited. -/
  below : List Path
  /-- How far that place is above the start. -/
  above : Nat
deriving DecidableEq, Repr

def move (whereabouts : Whereabouts) (component : Path) : Whereabouts :=
  if component = ['.'] then whereabouts
  else if component = ['.', '.'] then
    match whereabouts.below with
    | [] => ⟨[], whereabouts.above + 1⟩
    | _ :: below => ⟨below, whereabouts.above⟩
  else ⟨component :: whereabouts.below, whereabouts.above⟩

/-- Where a path leads, relative to its start. -/
def follow (path : Path) : Whereabouts :=
  (components path).foldl move ⟨[], 0⟩

/-- The path does not climb above its start. -/
def StaysBelow (path : Path) : Prop := (follow path).above = 0

instance (path : Path) : Decidable (StaysBelow path) :=
  inferInstanceAs (Decidable (_ = _))

/-- The place in a directory that is meant. -/
def Whereabouts.within (whereabouts : Whereabouts) (directory : List Path) :
    List Path :=
  whereabouts.below ++ directory.drop whereabouts.above

theorem within_move (whereabouts : Whereabouts) (component : Path)
    (directory : List Path) :
    (move whereabouts component).within directory =
      enter (whereabouts.within directory) component := by
  unfold move enter
  split
  · rfl
  · split
    · cases below : whereabouts.below with
      | nil => simp [Whereabouts.within, below]
      | cons last below' => simp [Whereabouts.within, below]
    · rfl

theorem foldl_enter_within (steps : List Path) (whereabouts : Whereabouts)
    (directory : List Path) :
    steps.foldl enter (whereabouts.within directory) =
      (steps.foldl move whereabouts).within directory := by
  induction steps generalizing whereabouts with
  | nil => rfl
  | cons component steps inductionHypothesis =>
      rw [List.foldl_cons, List.foldl_cons, ← within_move,
        inductionHypothesis]

/-- Components that are names lead down, one after another. -/
theorem follow_eq_of_names {path : Path}
    (names :
      ∀ component ∈ components path,
        component ≠ ['.'] ∧ component ≠ ['.', '.']) :
    follow path = ⟨(components path).reverse, 0⟩ := by
  have down : ∀ (steps below : List Path),
      (∀ component ∈ steps, component ≠ ['.'] ∧ component ≠ ['.', '.']) →
        steps.foldl move ⟨below, 0⟩ = ⟨steps.reverse ++ below, 0⟩ := by
    intro steps
    induction steps with
    | nil => exact fun _ _ => rfl
    | cons first steps inductionHypothesis =>
        intro below names
        rcases List.forall_mem_cons.mp names with ⟨⟨notDot, notDots⟩, later⟩
        rw [List.foldl_cons, move, if_neg notDot, if_neg notDots,
          inductionHypothesis _ later, List.reverse_cons,
          List.append_assoc, List.singleton_append]
  rw [follow, down (components path) [] names, List.append_nil]

/-- From the root on, only what is below matters. -/
theorem resolve_eq (path : Path) : resolve path = (follow path).below := by
  have followed := foldl_enter_within (components path) ⟨[], 0⟩ []
  simpa [resolve, follow, Whereabouts.within] using followed

theorem components_append (root target : Path) :
    components (root ++ '/' :: target) =
      components root ++ components target :=
  pieces_append_cons rfl root target

theorem components_cons_slash (path : Path) :
    components ('/' :: path) = components path :=
  pieces_cons_separator rfl path

/-- A path in a directory leads where it leads from there on. -/
theorem resolve_append (root target : Path) :
    resolve (root ++ '/' :: target) =
      (follow target).within (resolve root) := by
  have followed :=
    foldl_enter_within (components target) ⟨[], 0⟩ (resolve root)
  rw [resolve, components_append, List.foldl_append]
  simpa [Whereabouts.within, follow, resolve] using followed

/-- A path names the same place below a directory if it does not leave it. -/
theorem resolve_append_eq_iff (root target : Path) :
    resolve (root ++ '/' :: target) = resolve target ++ resolve root ↔
      StaysBelow target ∨ resolve root = [] := by
  rw [resolve_append, resolve_eq target, Whereabouts.within,
    List.append_cancel_left_eq, StaysBelow]
  constructor
  · intro same
    have lengths := congrArg List.length same
    rw [List.length_drop] at lengths
    cases place : resolve root with
    | nil => exact Or.inr rfl
    | cons last directory =>
        left
        rw [place, List.length_cons] at lengths
        omega
  · rintro (stays | atRoot)
    · rw [stays, List.drop_zero]
    · rw [atRoot, List.drop_nil]

/-! ## The components of a place -/

theorem mem_of_mem_enter {directory : List Path} {component other : Path}
    (member : other ∈ enter directory component) :
    other ∈ directory ∨ other = component := by
  unfold enter at member
  split at member
  · exact Or.inl member
  · split at member
    · exact Or.inl (List.mem_of_mem_tail member)
    · rcases List.mem_cons.mp member with same | old
      · exact Or.inr same
      · exact Or.inl old

theorem mem_of_mem_foldl_enter {steps directory : List Path}
    {component : Path} (member : component ∈ steps.foldl enter directory) :
    component ∈ directory ∨ component ∈ steps := by
  induction steps generalizing directory with
  | nil => exact Or.inl member
  | cons first steps inductionHypothesis =>
      rcases inductionHypothesis member with entered | later
      · rcases mem_of_mem_enter entered with old | rfl
        · exact Or.inl old
        · exact Or.inr List.mem_cons_self
      · exact Or.inr (List.mem_cons_of_mem first later)

/-- A place has only letters of the path that leads to it. -/
theorem mem_of_mem_resolve {path component : Path} {letter : Char}
    (member : component ∈ resolve path) (inside : letter ∈ component) :
    letter ∈ path := by
  rcases mem_of_mem_foldl_enter member with atRoot | step
  · cases atRoot
  · exact (isInfix_of_mem_pieces step).mem inside

/-- Letters for neither a slash nor a dot. -/
def Ordinary (letter : Char) : Prop := letter ≠ '/' ∧ letter ≠ '.'

theorem Ordinary.ne_dots {letter : Char} (ordinary : Ordinary letter)
    {component : Path} (member : letter ∈ component) :
    component ≠ ['.'] ∧ component ≠ ['.', '.'] := by
  constructor
  · rintro rfl
    exact ordinary.2 (by simpa using member)
  · rintro rfl
    exact ordinary.2 (by simpa using member)

theorem Ordinary.enter_eq {letter : Char} (ordinary : Ordinary letter)
    {component : Path} (member : letter ∈ component)
    (directory : List Path) :
    enter directory component = component :: directory := by
  rcases ordinary.ne_dots member with ⟨notDot, notDots⟩
  rw [enter, if_neg notDot, if_neg notDots]

theorem Ordinary.isSlash_eq {letter : Char} (ordinary : Ordinary letter) :
    isSlash letter = false :=
  decide_eq_false ordinary.1

/-- The last letter of a path is in the place if it is an ordinary one. -/
theorem exists_mem_resolve_append {letter : Char}
    (ordinary : Ordinary letter) (path : Path) :
    ∃ component ∈ resolve (path ++ [letter]), letter ∈ component := by
  rcases exists_pieces_append_letter ordinary.isSlash_eq path with
    ⟨others, last, ends⟩
  refine ⟨last ++ [letter], ?_, by simp⟩
  rw [resolve, components, ends, List.foldl_append, List.foldl_cons,
    List.foldl_nil, ordinary.enter_eq (by simp)]
  exact List.mem_cons_self

/-- Without its first component a path starts at most one level deep. -/
theorem exists_resolve_eq_foldl (path : Path) :
    ∃ start, start.length ≤ 1 ∧
      resolve path =
        (components (path.dropWhile fun other =>
          !isSlash other)).foldl enter start := by
  cases path with
  | nil => exact ⟨[], by simp, rfl⟩
  | cons first path =>
      cases slash : isSlash first with
      | true =>
          refine ⟨[], by simp, ?_⟩
          rw [List.dropWhile_cons_of_neg (by simp [slash]), resolve]
      | false =>
          refine ⟨enter []
            (first :: path.takeWhile fun other => !isSlash other), ?_, ?_⟩
          · unfold enter
            split
            · simp
            · split
              · simp
              · simp
          · rw [List.dropWhile_cons_of_pos (by simp [slash]), resolve,
              components, pieces_cons_letter slash]
            rfl

/-- A path that leaves the place where it starts does not depend on it. -/
theorem foldl_enter_singleton_cases (steps : List Path) (first : Path)
    {start : List Path} (short : start.length ≤ 1) :
    steps.foldl enter [first] = steps.foldl enter start ∨
      first ∈ steps.foldl enter [first] := by
  have fromFirst := foldl_enter_within steps ⟨[], 0⟩ [first]
  have fromStart := foldl_enter_within steps ⟨[], 0⟩ start
  change steps.foldl enter [first] = _ at fromFirst
  change steps.foldl enter start = _ at fromStart
  rw [fromFirst, fromStart]
  cases climbed : (steps.foldl move ⟨[], 0⟩).above with
  | zero =>
      right
      simp [Whereabouts.within, climbed]
  | succ levels =>
      left
      have nothing : start.drop (levels + 1) = [] :=
        List.drop_eq_nil_of_le (by omega)
      simp [Whereabouts.within, climbed, nothing]

theorem components_append_ordinary {letter : Char} {before : Path}
    (ordinary : ∀ other ∈ letter :: before, Ordinary other) (path : Path) :
    components (letter :: before ++ path) =
      (letter :: before ++ path.takeWhile fun other => !isSlash other) ::
        components (path.dropWhile fun other => !isSlash other) := by
  have notSlash : ∀ other ∈ before, (!isSlash other) = true := by
    intro other member
    have later := ordinary other (List.mem_cons_of_mem letter member)
    rw [later.isSlash_eq]
    rfl
  have first := ordinary letter List.mem_cons_self
  rw [components, List.cons_append, pieces_cons_letter first.isSlash_eq,
    List.takeWhile_append_of_pos notSlash,
    List.dropWhile_append_of_pos notSlash]
  rfl

/-- Ordinary letters before a path are in the place or lead nowhere. -/
theorem resolve_append_cases {before : Path}
    (ordinary : ∀ letter ∈ before, Ordinary letter) (path : Path) :
    resolve (before ++ path) = resolve path ∨
      ∃ component ∈ resolve (before ++ path),
        ∃ letter ∈ before, letter ∈ component := by
  cases before with
  | nil => exact Or.inl rfl
  | cons letter before =>
      have first := ordinary letter List.mem_cons_self
      rcases exists_resolve_eq_foldl path with ⟨start, short, same⟩
      rw [resolve, components_append_ordinary ordinary, List.foldl_cons,
        first.enter_eq (by simp), same]
      rcases foldl_enter_singleton_cases _ _ short with lost | kept
      · exact Or.inl lost
      · exact Or.inr ⟨_, kept, letter, List.mem_cons_self, by simp⟩

end Anbox.Foundation.PathResolution
