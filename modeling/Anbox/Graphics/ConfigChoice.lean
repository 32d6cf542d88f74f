import Anbox.Graphics.ConfigList

/-!
# The configurations that a guest is given

Which attributes reach the host when a guest chooses among its configurations,
and which indices the guest is given for what the host has chosen.  A list of
attributes that is terminated is seen as a list of pairs.
-/

namespace Anbox.Graphics.ConfigChoice

open Anbox.Graphics.ConfigList

/-! ## Attributes as pairs -/

abbrev Pairs := List (Int32 × Int32)

/-- The pairs before the terminator, as EGL reads them. -/
def attribPairs : List Int32 → Pairs
  | name :: value :: rest =>
      if name = eglNone then [] else (name, value) :: attribPairs rest
  | _ => []

/-- The pairs one after another. -/
def flatten : Pairs → List Int32
  | [] => []
  | pair :: rest => pair.1 :: pair.2 :: flatten rest

def replacePair (pair : Int32 × Int32) : Int32 × Int32 :=
  if pair.1 = eglSurfaceType then (pair.1, eglPbufferBit) else pair

/-- Every surface type is that of a pbuffer, and there is one. -/
def pbufferPairs (pairs : Pairs) : Pairs :=
  if pairs.any fun pair => pair.1 = eglSurfaceType then
    pairs.map replacePair
  else pairs ++ [(eglSurfaceType, eglPbufferBit)]

/-- No pair ends the list. -/
def Regular (pairs : Pairs) : Prop := ∀ pair ∈ pairs, pair.1 ≠ eglNone

theorem Regular.tail {pair : Int32 × Int32} {pairs : Pairs}
    (regular : Regular (pair :: pairs)) : Regular pairs :=
  fun other member => regular other (List.mem_cons_of_mem _ member)

theorem regular_attribPairs (attribs : List Int32) :
    Regular (attribPairs attribs) := by
  fun_induction attribPairs attribs with
  | case1 value rest => exact nofun
  | case2 name value rest other inductionHypothesis =>
      intro pair member
      rcases List.mem_cons.mp member with rfl | later
      · exact other
      · exact inductionHypothesis pair later
  | case3 => exact nofun

@[simp]
theorem length_flatten (pairs : Pairs) :
    (flatten pairs).length = 2 * pairs.length := by
  induction pairs with
  | nil => rfl
  | cons pair pairs inductionHypothesis =>
      simp only [flatten, List.length_cons, inductionHypothesis]
      omega

theorem flatten_append (first second : Pairs) :
    flatten (first ++ second) = flatten first ++ flatten second := by
  induction first with
  | nil => rfl
  | cons pair first inductionHypothesis =>
      simp [flatten, inductionHypothesis]

/-- Pairs with a terminator are read back. -/
theorem attribPairs_flatten {pairs : Pairs} (regular : Regular pairs)
    (rest : List Int32) :
    attribPairs (flatten pairs ++ eglNone :: rest) = pairs := by
  induction pairs with
  | nil =>
      cases rest with
      | nil => rfl
      | cons value rest => simp [flatten, attribPairs]
  | cons pair pairs inductionHypothesis =>
      have notNone : pair.1 ≠ eglNone := regular pair List.mem_cons_self
      simp [flatten, attribPairs, notNone, inductionHypothesis regular.tail]

theorem terminated_flatten (pairs : Pairs) (rest : List Int32) :
    Terminated (flatten pairs ++ eglNone :: rest) := by
  refine ⟨pairs.length, ?_⟩
  rw [List.getElem?_append_right (by simp)]
  simp

/-- What is terminated consists of its pairs and the terminator. -/
theorem eq_flatten_of_terminated {attribs : List Int32}
    (terminated : Terminated attribs) :
    ∃ rest, attribs = flatten (attribPairs attribs) ++ eglNone :: rest := by
  fun_induction attribPairs attribs with
  | case1 value rest => exact ⟨value :: rest, rfl⟩
  | case2 name value rest other inductionHypothesis =>
      have tail := (terminated_cons_cons name value rest).mp terminated
      rcases inductionHypothesis (tail.resolve_left other) with
        ⟨behind, split⟩
      refine ⟨behind, ?_⟩
      simp only [flatten, List.cons_append]
      rw [← split]
  | case3 attribs short =>
      rcases terminated with ⟨index, found⟩
      cases attribs with
      | nil => simp at found
      | cons name attribs =>
          cases attribs with
          | cons value rest => exact absurd rfl (short name value rest)
          | nil =>
              cases index with
              | zero => exact ⟨[], by simpa [flatten] using found⟩
              | succ index => simp [Nat.mul_add] at found

/-! ## The attributes that are passed on -/

theorem replaceSurfaceTypes_flatten (pairs : Pairs) :
    replaceSurfaceTypes (flatten pairs) =
      flatten (pairs.map replacePair) := by
  induction pairs with
  | nil => rfl
  | cons pair pairs inductionHypothesis =>
      simp only [flatten, replaceSurfaceTypes, List.map_cons,
        inductionHypothesis, replacePair]
      split
      · rfl
      · rfl

/-- The scan counts the pairs and looks at each of them. -/
theorem scanAttribs_flatten {pairs : Pairs} (regular : Regular pairs)
    (rest : List Int32) (scan : Scan) :
    scanAttribs (flatten pairs ++ eglNone :: rest) scan =
      some
        { numAttribs := scan.numAttribs + 2 * pairs.length
          hasSurfaceType :=
            scan.hasSurfaceType ||
              pairs.any fun pair => pair.1 = eglSurfaceType
          mustReplaceSurfaceType :=
            scan.mustReplaceSurfaceType ||
              pairs.any fun pair =>
                pair.1 = eglSurfaceType ∧ pair.2 ≠ eglPbufferBit } := by
  induction pairs generalizing scan with
  | nil =>
      cases rest with
      | nil => simp [flatten, scanAttribs]
      | cons value rest => simp [flatten, scanAttribs]
  | cons pair pairs inductionHypothesis =>
      have notNone : pair.1 ≠ eglNone := regular pair List.mem_cons_self
      simp only [flatten, List.cons_append, scanAttribs, if_neg notNone]
      split
      · rename_i surface
        rw [inductionHypothesis regular.tail]
        simp [surface, Nat.mul_add, Nat.add_assoc, Nat.add_comm 2,
          Bool.or_assoc]
      · rename_i other
        rw [inductionHypothesis regular.tail]
        simp [other, Nat.mul_add, Nat.add_assoc, Nat.add_comm 2]

/-- Pairs that ask for pbuffers only stay as they are. -/
theorem map_replacePair_of_pbuffers {pairs : Pairs}
    (pbuffers :
      (pairs.any fun pair =>
        pair.1 = eglSurfaceType ∧ pair.2 ≠ eglPbufferBit) = false) :
    pairs.map replacePair = pairs := by
  rw [List.any_eq_false] at pbuffers
  conv_rhs => rw [← List.map_id pairs]
  apply List.map_congr_left
  intro pair member
  have kept := pbuffers pair member
  unfold replacePair
  split
  · rename_i surface
    have value : pair.2 = eglPbufferBit := by simpa [surface] using kept
    exact Prod.ext rfl value.symm
  · rfl

/-- What has to be replaced is there. -/
theorem any_surfaceType_of_replaced {pairs : Pairs}
    (none : (pairs.any fun pair => pair.1 = eglSurfaceType) = false) :
    (pairs.any fun pair =>
      pair.1 = eglSurfaceType ∧ pair.2 ≠ eglPbufferBit) = false := by
  rw [List.any_eq_false] at none ⊢
  intro pair member
  have other : pair.1 ≠ eglSurfaceType := by simpa using none pair member
  simp [other]

/-- The attributes that are passed on, by the pairs they consist of. -/
theorem passedAttribs_flatten {pairs : Pairs} (regular : Regular pairs)
    (rest : List Int32) :
    ∃ behind,
      passedAttribs (flatten pairs ++ eglNone :: rest) =
        some (flatten (pbufferPairs pairs) ++ eglNone :: behind) := by
  have copied :
      copyAttribs (flatten pairs ++ eglNone :: rest) (2 * pairs.length) =
        some (flatten pairs) := by
    rw [copyAttribs, if_pos (by simp)]
    exact congrArg some (List.take_left' (length_flatten pairs))
  rw [passedAttribs, scanAttribs_flatten regular]
  simp only [Bool.false_or, Nat.zero_add, newAttribs, copied]
  unfold pbufferPairs
  cases surface : pairs.any fun pair => pair.1 = eglSurfaceType with
  | false =>
      rw [any_surfaceType_of_replaced surface]
      refine ⟨[], ?_⟩
      simp [flatten_append, flatten]
  | true =>
      cases replaced : pairs.any fun pair =>
          pair.1 = eglSurfaceType ∧ pair.2 ≠ eglPbufferBit with
      | false =>
          refine ⟨rest, ?_⟩
          simp [map_replacePair_of_pbuffers replaced]
      | true =>
          refine ⟨[], ?_⟩
          simp [replaceSurfaceTypes_flatten]

theorem regular_pbufferPairs {pairs : Pairs} (regular : Regular pairs) :
    Regular (pbufferPairs pairs) := by
  have notNone : eglSurfaceType ≠ eglNone := by decide
  unfold pbufferPairs
  split
  · intro pair member
    rcases List.mem_map.mp member with ⟨original, listed, rfl⟩
    unfold replacePair
    split
    · exact regular original listed
    · exact regular original listed
  · intro pair member
    rcases List.mem_append.mp member with old | new
    · exact regular pair old
    · rw [List.mem_singleton.mp new]
      exact notNone

/--
A list of attributes that is terminated is passed on as a terminated list, in
which the surface types are replaced.
-/
theorem passedAttribs_of_terminated {attribs : List Int32}
    (terminated : Terminated attribs) :
    ∃ passed, passedAttribs attribs = some passed ∧ Terminated passed ∧
      attribPairs passed = pbufferPairs (attribPairs attribs) := by
  rcases eq_flatten_of_terminated terminated with ⟨rest, split⟩
  have regular := regular_attribPairs attribs
  rcases passedAttribs_flatten regular rest with ⟨behind, passes⟩
  rw [← split] at passes
  exact ⟨_, passes, terminated_flatten _ _,
    attribPairs_flatten (regular_pbufferPairs regular) behind⟩

/-! ## The configurations that are chosen -/

section

variable {Config : Type} [DecidableEq Config]

/-- The index of what the renderer keeps for a configuration of the host. -/
def guestIndex (mConfigs : List (RendererConfig Config)) (config : Config) :
    Option Nat :=
  mConfigs.findIdx? fun guest => guest.mEglConfig = config

/-- The indices for what the host has chosen, in its order. -/
def guestIndices (attributes : Attributes Config)
    (mConfigs : List (RendererConfig Config)) (chosen : List Config) :
    List Nat :=
  (chosen.filter (isCompatibleHostConfig attributes)).filterMap
    (guestIndex mConfigs)

/-- No two configurations have the same identifier. -/
def UniqueIds (attributes : Attributes Config) : Prop :=
  ∀ first second,
    attributes first eglConfigId = attributes second eglConfigId →
      first = second

/-- What the host has chosen in a call. -/
def hostChosen (answers : Answers Config) (passed : List Int32) :
    List Config :=
  match answers.numHostConfigs with
  | none => []
  | some numHostConfigs =>
      (answers.eglChooseConfig passed numHostConfigs).getD []

/-- The first indices are written from a place on, and nothing else is. -/
structure Written (indices : List Nat) (configsSize start : Nat)
    (before : Nat → Int32) (collected : Collected) : Prop where
  count : collected.result = min (start + indices.length) configsSize
  entries :
    ∃ after, collected.configs = some after ∧
      (∀ index, start ≤ index → index < collected.result →
        indices[index - start]?.map Int32.ofNat = some (after index)) ∧
      ∀ index, index < start ∨ collected.result ≤ index →
        after index = before index

variable {attributes : Attributes Config}

/-- What is kept for a configuration is found by its identifier. -/
theorem findGuestConfig_eq (unique : UniqueIds attributes)
    (hasDisplay : Bool) (hostConfigs : Option (List Config))
    (config : Config) :
    findGuestConfig (rendererConfigList attributes hasDisplay hostConfigs)
        (attributes config eglConfigId) =
      guestIndex (rendererConfigList attributes hasDisplay hostConfigs)
        config := by
  have identified : ∀ other,
      (RendererConfig.create attributes other).getConfigId =
          attributes config eglConfigId ↔
        (RendererConfig.create attributes other).mEglConfig = config := by
    intro other
    constructor
    · exact unique other config
    · rintro rfl
      rfl
  unfold findGuestConfig guestIndex rendererConfigList
  split
  · rfl
  · split
    · rfl
    · simp only [List.findIdx?_map, Function.comp_def, identified]

theorem guestIndices_cons (mConfigs : List (RendererConfig Config))
    (config : Config) (chosen : List Config) :
    guestIndices attributes mConfigs (config :: chosen) =
      if isCompatibleHostConfig attributes config = true then
        (guestIndex mConfigs config).toList ++
          guestIndices attributes mConfigs chosen
      else guestIndices attributes mConfigs chosen := by
  unfold guestIndices
  split
  · rename_i compatible
    rw [List.filter_cons_of_pos compatible]
    cases found : guestIndex mConfigs config with
    | none => simp [found]
    | some guest => simp [found]
  · rename_i incompatible
    rw [List.filter_cons_of_neg incompatible]

/-- Where there is no room, nothing is written. -/
theorem written_of_full {indices : List Nat} {configsSize start : Nat}
    (full : min (start + indices.length) configsSize = start)
    (before : Nat → Int32) :
    Written indices configsSize start before ⟨start, some before⟩ := by
  refine ⟨full.symm, before, rfl, ?_, fun _ _ => rfl⟩
  intro index from' below
  exact absurd below (Nat.not_lt.mpr from')

/-- One index is written before the others. -/
theorem Written.cons {guest : Nat} {indices : List Nat}
    {configsSize start : Nat} {before : Nat → Int32} {collected : Collected}
    (room : start < configsSize)
    (written :
      Written indices configsSize (start + 1)
        (Function.update before start (Int32.ofNat guest)) collected) :
    Written (guest :: indices) configsSize start before collected := by
  rcases written with ⟨count, after, held, inside, outside⟩
  have longer : (guest :: indices).length = indices.length + 1 := rfl
  refine ⟨by omega, after, held, ?_, ?_⟩
  · intro index above below
    rcases Nat.eq_or_lt_of_le above with rfl | later
    · have first := outside start (Or.inl (Nat.lt_succ_self start))
      rw [first, Function.update_self, Nat.sub_self]
      rfl
    · have position : index - start = index - (start + 1) + 1 := by omega
      rw [position, List.getElem?_cons_succ]
      exact inside index later below
  · intro index apart
    rw [outside index (by omega)]
    exact Function.update_of_ne (by omega) _ _

/-- The loop writes the indices that it finds. -/
theorem written_collectConfigs {mConfigs : List (RendererConfig Config)}
    (finds :
      ∀ config,
        findGuestConfig mConfigs (attributes config eglConfigId) =
          guestIndex mConfigs config)
    {configsSize : Nat} (chosen : List Config) {start : Nat}
    (inside : start ≤ configsSize) (before : Nat → Int32)
    (positive : 0 < configsSize) :
    Written (guestIndices attributes mConfigs chosen) configsSize start
      before
      (collectConfigs attributes mConfigs configsSize chosen
        ⟨start, some before⟩) := by
  induction chosen generalizing start before with
  | nil => exact written_of_full (by simpa [guestIndices] using inside) before
  | cons config chosen inductionHypothesis =>
      unfold collectConfigs
      split
      · rename_i full
        have atEnd : configsSize ≤ start := by exact_mod_cast full.2.2
        exact written_of_full (by omega) before
      · rename_i notFull
        have room : start < configsSize := by
          by_contra atEnd
          apply notFull
          refine ⟨rfl, by exact_mod_cast positive, ?_⟩
          exact_mod_cast Nat.not_lt.mp atEnd
        rw [guestIndices_cons, finds]
        cases compatible : isCompatibleHostConfig attributes config with
        | false => exact inductionHypothesis inside before
        | true =>
            cases found : guestIndex mConfigs config with
            | none => exact inductionHypothesis inside before
            | some guest =>
                have stored : (start : Int) < configsSize := by
                  exact_mod_cast room
                have next :=
                  inductionHypothesis (Nat.succ_le_of_lt room)
                    (Function.update before start (Int32.ofNat guest))
                simpa [stored] using next.cons room

/--
What is asked of a call: the attributes that reach the host are terminated and
are those of the guest with the surface types replaced, and a guest with room
for indices is given the first of them for what the host has chosen.
-/
structure ChoosesConfigs (attributes : Attributes Config)
    (mConfigs : List (RendererConfig Config)) (answers : Answers Config)
    (attribs : List Int32) (configs : Option (Nat → Int32))
    (configsSize : Int) (outcome : Outcome) : Prop where
  passes :
    outcome.passed.isSome = true ↔ answers.numHostConfigs.isSome = true
  replaces :
    ∀ passed, outcome.passed = some passed →
      Terminated passed ∧
        attribPairs passed = pbufferPairs (attribPairs attribs)
  written :
    ∀ (before : Nat → Int32) (size : Nat),
      configs = some before → configsSize = size → 0 < size →
        Written
          (guestIndices attributes mConfigs
            (hostChosen answers (outcome.passed.getD [])))
          size 0 before ⟨outcome.result, outcome.configs⟩

/-- Every call with a terminated list of attributes is as it should be. -/
theorem chooseConfig_chooses (unique : UniqueIds attributes)
    (hasDisplay : Bool) (hostConfigs : Option (List Config))
    (answers : Answers Config) {attribs : List Int32}
    (terminated : Terminated attribs) (configs : Option (Nat → Int32))
    (configsSize : Int) :
    ∃ outcome,
      chooseConfig attributes
          (rendererConfigList attributes hasDisplay hostConfigs) answers
          attribs configs configsSize =
        some outcome ∧
      ChoosesConfigs attributes
        (rendererConfigList attributes hasDisplay hostConfigs) answers
        attribs configs configsSize outcome := by
  unfold chooseConfig
  cases count : answers.numHostConfigs with
  | none =>
      refine ⟨⟨0, none, configs⟩, rfl, ?_⟩
      constructor
      case passes => simp [count]
      case replaces => exact nofun
      case written =>
        rintro before size rfl - -
        rw [hostChosen, count]
        exact written_of_full (Nat.zero_min _) before
  | some numHostConfigs =>
      rcases passedAttribs_of_terminated terminated with
        ⟨passed, passes, ends, pairs⟩
      rw [passes]
      refine ⟨_, rfl, ?_⟩
      constructor
      case passes => simp [count]
      case replaces =>
        rintro other ⟨rfl⟩
        exact ⟨ends, pairs⟩
      case written =>
        rintro before size rfl rfl positive
        have chosen :
            hostChosen answers passed =
              (answers.eglChooseConfig passed numHostConfigs).getD [] := by
          rw [hostChosen, count]
        rw [Option.getD_some, chosen]
        exact written_collectConfigs
          (findGuestConfig_eq unique hasDisplay hostConfigs) _
          (Nat.zero_le _) before positive

end

/-- Two configurations, of which the second one is preferred. -/
def twoConfigs : Answers Bool :=
  ⟨some 2, fun _ _ => some [true, false]⟩

/-- The values of their attributes. -/
def twoAttributes : Attributes Bool := fun config name =>
  if name = eglConfigId then (if config then 20 else 10) else 1

/-- Attributes with a surface type that is replaced. -/
def windowAttribs : List Int32 :=
  [eglRedSize, 8, eglSurfaceType, eglWindowBit, eglNone]

/-- A guest with room for one of two configurations, and one that counts. -/
theorem chooseConfig_two_chooses :
    (∃ outcome,
      chooseConfig twoAttributes
          (rendererConfigList twoAttributes true (some [false, true]))
          twoConfigs windowAttribs (some fun _ => -1) 1 =
        some outcome ∧
      ChoosesConfigs twoAttributes
        (rendererConfigList twoAttributes true (some [false, true]))
        twoConfigs windowAttribs (some fun _ => -1) 1 outcome) ∧
      ∃ outcome,
        chooseConfig twoAttributes
            (rendererConfigList twoAttributes true (some [false, true]))
            twoConfigs windowAttribs none 0 =
          some outcome ∧
        ChoosesConfigs twoAttributes
          (rendererConfigList twoAttributes true (some [false, true]))
          twoConfigs windowAttribs none 0 outcome :=
  have unique : UniqueIds twoAttributes := by
    unfold UniqueIds
    decide
  ⟨chooseConfig_chooses unique true (some [false, true]) twoConfigs ⟨2, rfl⟩
      (some fun _ => -1) 1,
    chooseConfig_chooses unique true (some [false, true]) twoConfigs
      ⟨2, rfl⟩ none 0⟩

end Anbox.Graphics.ConfigChoice
