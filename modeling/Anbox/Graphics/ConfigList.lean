import Mathlib.Algebra.Order.Ring.Nat
import Mathlib.Data.List.Basic
import Mathlib.Logic.Function.Basic

/-!
# The configurations of the renderer

A guest chooses among the EGL configurations of the host.  It sends a list of
attributes and their values that ends with `EGL_NONE`.  `chooseConfig` replaces
the values of `EGL_SURFACE_TYPE` before it passes the list on to the host.

The size of the list is not passed to `chooseConfig`.  What it computes is
`none` if it reads an element that is not in the array, since nothing is known
of what happens then.
-/

namespace Anbox.Graphics.ConfigList

/-! ## Constants of EGL -/

def eglNone : Int32 := 0x3038

def eglSurfaceType : Int32 := 0x3033

def eglPbufferBit : Int32 := 1

def eglWindowBit : Int32 := 4

def eglConfigId : Int32 := 0x3028

def eglRedSize : Int32 := 0x3024

def eglGreenSize : Int32 := 0x3023

def eglBlueSize : Int32 := 0x3022

/--
`kConfigAttributes`, from `EGL_DEPTH_SIZE`, `EGL_STENCIL_SIZE` and
`EGL_RENDERABLE_TYPE` to `EGL_CONFORMANT`.
-/
def kConfigAttributes : List Int32 :=
  [0x3025, 0x3026, 0x3040, eglSurfaceType, eglConfigId, 0x3020, 0x3021,
    eglBlueSize, eglGreenSize, eglRedSize, 0x3027, 0x3029, 0x302a, 0x302b,
    0x302c, 0x302d, 0x302e, 0x302f, 0x3031, 0x3032, 0x3034, 0x3035, 0x3036,
    0x3037, 0x3039, 0x303a, 0x303b, 0x303c, 0x303d, 0x303e, 0x303f, 0x3042]

/-! ## Configurations of the host and of the renderer -/

section

variable {Config : Type}

/-- The values that `eglGetConfigAttrib` gives for the attributes. -/
abbrev Attributes (Config : Type) := Config → Int32 → Int32

def isCompatibleHostConfig (attributes : Attributes Config)
    (config : Config) : Bool :=
  if attributes config eglSurfaceType &&& eglPbufferBit = 0 then false
  else if attributes config eglRedSize = 0 ||
      attributes config eglGreenSize = 0 ||
      attributes config eglBlueSize = 0 then false
  else true

structure RendererConfig (Config : Type) where
  mEglConfig : Config
  mAttribValues : List Int32
deriving DecidableEq, Repr

/-- The constructor of `RendererConfig`. -/
def RendererConfig.create (attributes : Attributes Config)
    (hostConfig : Config) : RendererConfig Config :=
  { mEglConfig := hostConfig
    mAttribValues := kConfigAttributes.map fun name =>
      if name = eglSurfaceType then
        attributes hostConfig name ||| eglWindowBit
      else attributes hostConfig name }

def RendererConfig.getConfigId (config : RendererConfig Config) : Int32 :=
  config.mAttribValues[4]?.getD 0

/--
The constructor of `RendererConfigList`, given the configurations of the host
if `eglGetConfigs` succeeds.
-/
def rendererConfigList (attributes : Attributes Config) (hasDisplay : Bool)
    (hostConfigs : Option (List Config)) : List (RendererConfig Config) :=
  if !hasDisplay then []
  else
    match hostConfigs with
    | none => []
    | some configs =>
        (configs.filter (isCompatibleHostConfig attributes)).map
          (.create attributes)

end

/-! ## The attributes that are passed on -/

structure Scan where
  numAttribs : Nat
  hasSurfaceType : Bool
  mustReplaceSurfaceType : Bool
deriving DecidableEq, Repr

/--
The loop that counts the attributes.  The list is what the array holds from
`numAttribs` on.
-/
def scanAttribs : List Int32 → Scan → Option Scan
  | [], _ => none
  -- without a terminator the next element that is read is not there
  | [name], scan => if name = eglNone then some scan else none
  | name :: value :: rest, scan =>
      if name = eglNone then some scan
      else if name = eglSurfaceType then
        scanAttribs rest
          { numAttribs := scan.numAttribs + 2
            hasSurfaceType := true
            mustReplaceSurfaceType :=
              scan.mustReplaceSurfaceType || value ≠ eglPbufferBit }
      else scanAttribs rest { scan with numAttribs := scan.numAttribs + 2 }

/-- `memcpy` from the attributes. -/
def copyAttribs (attribs : List Int32) (count : Nat) :
    Option (List Int32) :=
  if count ≤ attribs.length then some (attribs.take count) else none

/-- The loop that replaces the values of `EGL_SURFACE_TYPE`. -/
def replaceSurfaceTypes : List Int32 → List Int32
  | name :: value :: rest =>
      name :: (if name = eglSurfaceType then eglPbufferBit else value) ::
        replaceSurfaceTypes rest
  | rest => rest

/-- The new array of attributes, if there is one. -/
def newAttribs (attribs : List Int32) (scan : Scan) :
    Option (Option (List Int32)) :=
  if scan.mustReplaceSurfaceType then
    (copyAttribs attribs scan.numAttribs).map fun copied =>
      some (replaceSurfaceTypes copied ++ [eglNone])
  else if !scan.hasSurfaceType then
    (copyAttribs attribs scan.numAttribs).map fun copied =>
      some (copied ++ [eglSurfaceType, eglPbufferBit, eglNone])
  else some none

/-- The array that is passed to `eglChooseConfig`. -/
def passedAttribs (attribs : List Int32) : Option (List Int32) :=
  match scanAttribs attribs ⟨0, false, false⟩ with
  | none => none
  | some scan =>
      (newAttribs attribs scan).map fun replaced => replaced.getD attribs

/-! ## The configurations that are chosen -/

section

variable {Config : Type}

/-- What the host answers during a call of `chooseConfig`. -/
structure Answers (Config : Type) where
  /-- The number of configurations, if `eglGetConfigs` succeeds. -/
  numHostConfigs : Option Nat
  /-- What `eglChooseConfig` finds, if it succeeds. -/
  eglChooseConfig : List Int32 → Nat → Option (List Config)

/-- The result and the array of the caller, which may be null. -/
structure Collected where
  result : Nat
  configs : Option (Nat → Int32)

/-- The search for the configuration with the identifier. -/
def findGuestConfig (mConfigs : List (RendererConfig Config))
    (hostConfigId : Int32) : Option Nat :=
  mConfigs.findIdx? fun config => config.getConfigId = hostConfigId

/-- The loop over the configurations that the host has chosen. -/
def collectConfigs (attributes : Attributes Config)
    (mConfigs : List (RendererConfig Config)) (configsSize : Int) :
    List Config → Collected → Collected
  | [], collected => collected
  | config :: rest, collected =>
      if collected.configs.isSome ∧ 0 < configsSize ∧
          configsSize ≤ collected.result then collected
      else if !isCompatibleHostConfig attributes config then
        collectConfigs attributes mConfigs configsSize rest collected
      else
        match findGuestConfig mConfigs (attributes config eglConfigId) with
        | none =>
            collectConfigs attributes mConfigs configsSize rest collected
        | some guest =>
            collectConfigs attributes mConfigs configsSize rest
              { result := collected.result + 1
                configs := collected.configs.map fun memory =>
                  if collected.result < configsSize then
                    Function.update memory collected.result
                      (Int32.ofNat guest)
                  else memory }

/-- The outcome of a call, with the array that was passed to the host. -/
structure Outcome where
  result : Nat
  passed : Option (List Int32)
  configs : Option (Nat → Int32)

/-- `RendererConfigList::chooseConfig`. -/
def chooseConfig (attributes : Attributes Config)
    (mConfigs : List (RendererConfig Config)) (answers : Answers Config)
    (attribs : List Int32) (configs : Option (Nat → Int32))
    (configsSize : Int) : Option Outcome :=
  match answers.numHostConfigs with
  | none => some ⟨0, none, configs⟩
  | some numHostConfigs =>
      match passedAttribs attribs with
      | none => none
      | some passed =>
          let matched :=
            (answers.eglChooseConfig passed numHostConfigs).getD []
          let collected :=
            collectConfigs attributes mConfigs configsSize matched
              ⟨0, configs⟩
          some ⟨collected.result, some passed, collected.configs⟩

/-- An array that a guest has sent, and its size in bytes. -/
structure GuestArray where
  size : UInt32
  elements : List Int32
  whole : elements.length = size.toNat / 4

/-- `rcChooseConfig`. -/
def rcChooseConfig (attributes : Attributes Config)
    (renderer : Option (List (RendererConfig Config)))
    (answers : Answers Config) (attribs : GuestArray)
    (configs : Option (Nat → Int32)) (configsSize : UInt32) :
    Option Outcome :=
  match renderer with
  | none => some ⟨0, none, configs⟩
  | some mConfigs =>
      if attribs.size = 0 then some ⟨0, none, configs⟩
      else
        chooseConfig attributes mConfigs answers attribs.elements configs
          configsSize.toInt32.toInt

/-! ## Staying inside the array -/

/-- There is a terminator where the name of an attribute is expected. -/
def Terminated (attribs : List Int32) : Prop :=
  ∃ index, attribs[2 * index]? = some eglNone

theorem terminated_cons_cons (name value : Int32) (rest : List Int32) :
    Terminated (name :: value :: rest) ↔
      name = eglNone ∨ Terminated rest := by
  constructor
  · rintro ⟨index, found⟩
    cases index with
    | zero => exact Or.inl (by simpa using found)
    | succ index => exact Or.inr ⟨index, by simpa [Nat.mul_add] using found⟩
  · rintro (rfl | ⟨index, found⟩)
    · exact ⟨0, rfl⟩
    · exact ⟨index + 1, by simpa [Nat.mul_add] using found⟩

/-- The scan stays inside the array exactly if it meets a terminator. -/
theorem isSome_scanAttribs_iff (attribs : List Int32) (scan : Scan) :
    (scanAttribs attribs scan).isSome = true ↔ Terminated attribs := by
  fun_induction scanAttribs attribs scan with
  | case1 scan => simp [Terminated]
  | case2 scan => exact iff_of_true rfl ⟨0, rfl⟩
  | case3 name scan other =>
      refine iff_of_false (by simp) ?_
      rintro ⟨index, found⟩
      cases index with
      | zero => exact other (by simpa using found)
      | succ index => simp [Nat.mul_add] at found
  | case4 scan value rest =>
      exact iff_of_true rfl ((terminated_cons_cons _ _ _).mpr (Or.inl rfl))
  | case5 scan value rest notNone inductionHypothesis =>
      rw [inductionHypothesis, terminated_cons_cons]
      simp [notNone]
  | case6 scan name value rest notNone notSurface inductionHypothesis =>
      rw [inductionHypothesis, terminated_cons_cons]
      simp [notNone]

/-- The attributes that are counted are inside the array. -/
theorem numAttribs_scanAttribs_le {attribs : List Int32} {scan after : Scan}
    (scanned : scanAttribs attribs scan = some after) :
    after.numAttribs ≤ scan.numAttribs + attribs.length := by
  fun_induction scanAttribs attribs scan with
  | case1 scan => cases scanned
  | case2 scan =>
      cases scanned
      exact Nat.le_add_right _ _
  | case3 name scan other => cases scanned
  | case4 scan value rest =>
      cases scanned
      exact Nat.le_add_right _ _
  | case5 scan value rest notNone inductionHypothesis =>
      have bound := inductionHypothesis scanned
      simp only [List.length_cons] at bound ⊢
      omega
  | case6 scan name value rest notNone notSurface inductionHypothesis =>
      have bound := inductionHypothesis scanned
      simp only [List.length_cons] at bound ⊢
      omega

/-- What was counted can be copied. -/
theorem isSome_newAttribs {attribs : List Int32} {scan : Scan}
    (inside : scan.numAttribs ≤ attribs.length) :
    (newAttribs attribs scan).isSome = true := by
  have copied : copyAttribs attribs scan.numAttribs =
      some (attribs.take scan.numAttribs) := if_pos inside
  unfold newAttribs
  rw [copied]
  split_ifs <;> rfl

theorem isSome_passedAttribs_iff (attribs : List Int32) :
    (passedAttribs attribs).isSome = true ↔ Terminated attribs := by
  rw [← isSome_scanAttribs_iff attribs ⟨0, false, false⟩, passedAttribs]
  cases scanned : scanAttribs attribs ⟨0, false, false⟩ with
  | none => exact Iff.rfl
  | some scan =>
      have inside := numAttribs_scanAttribs_le scanned
      have copied : (newAttribs attribs scan).isSome = true :=
        isSome_newAttribs (by simpa using inside)
      simp [copied]

/--
A call reads only elements of the array if and only if there is a terminator
in the name position, or nothing is read at all.
-/
theorem rcChooseConfig_reads_inside_iff (attributes : Attributes Config)
    (renderer : Option (List (RendererConfig Config)))
    (answers : Answers Config) (attribs : GuestArray)
    (configs : Option (Nat → Int32)) (configsSize : UInt32) :
    (rcChooseConfig attributes renderer answers attribs configs
        configsSize).isSome = true ↔
      (renderer.isSome = true → attribs.size ≠ 0 →
        answers.numHostConfigs.isSome = true →
          Terminated attribs.elements) := by
  unfold rcChooseConfig
  cases renderer with
  | none => simp
  | some mConfigs =>
      by_cases empty : attribs.size = 0
      · simp [empty]
      · unfold chooseConfig
        cases answers.numHostConfigs with
        | none => simp [empty]
        | some numHostConfigs =>
            rw [← isSome_passedAttribs_iff]
            cases passedAttribs attribs.elements with
            | none => simp [empty]
            | some passed => simp [empty]

end

/-- A terminator in the place of a value. -/
def misplacedTerminator : GuestArray := ⟨8, [eglRedSize, eglNone], rfl⟩

/-- A host with one configuration. -/
def singleConfig : Answers Unit := ⟨some 1, fun _ _ => some [()]⟩

/-- The terminator is not found, and the next element is not in the array. -/
theorem misplaced_terminator_read_outside :
    (rcChooseConfig (fun _ _ => 1) (some []) singleConfig
      misplacedTerminator none 0).isNone = true := by
  decide

end Anbox.Graphics.ConfigList
