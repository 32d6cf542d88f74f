import Anbox.Foundation.LastMaximum
import Anbox.Foundation.ScannedNumber
import Mathlib.Data.List.Forall2
import Mathlib.Logic.Function.Basic

/-!
# Layers and the windows they are drawn into

Android composes the whole screen, and `MultiWindowComposerStrategy` gives each
layer to the window of its task.  The name of a layer tells its task.  Within a
window, the layer that covers the largest area is taken for the frame of the
window, and all layers are placed relative to it.

A map from windows to layers is a function here, with no entry where it is
`none`.  The transformation and the transparency of a layer are only copied.
-/

namespace Anbox.Graphics.LayerComposer

open Anbox.Foundation.LastMaximum
open Anbox.Foundation.ScannedNumber

/-! ## Rectangles and layers -/

/-- `graphics::Rect`. -/
structure Rect where
  left : Int32
  top : Int32
  right : Int32
  bottom : Int32
deriving DecidableEq, Repr

def Rect.width (rect : Rect) : Int32 := rect.right - rect.left

def Rect.height (rect : Rect) : Int32 := rect.bottom - rect.top

def Rect.invalid : Rect := ⟨-1, -1, -1, -1⟩

structure Renderable (Transformation Alpha : Type) where
  name : String
  buffer : UInt32
  screenPosition : Rect
  crop : Rect
  transformation : Transformation
  alpha : Alpha
deriving DecidableEq, Repr

/-! ## Tasks -/

/-- What the names of layers start with that are meant for a task. -/
def surfaceName : List Char := "org.anbox.surface.".toList

/-- What `%d` stores, where `long` has 64 bits. -/
def storedInt (number : Int) : Int32 :=
  Int32.ofInt (max (-2 ^ 63) (min number (2 ^ 63 - 1)))

/-- `sscanf(name, "org.anbox.surface.%d", ..)`. -/
def scanTask (name : String) : Option Int32 :=
  match surfaceName.isPrefixOf? name.toList with
  | none => none
  | some text => (scanInteger text).map storedInt

section

variable {Window Transformation Alpha : Type} [DecidableEq Window]
variable (findWindowForTask : Int32 → Option Window)

/-! ## Layers of the windows -/

/-- The map from windows to layers while it is built. -/
abbrev WindowRenderables (Window Transformation Alpha : Type) :=
  Window → Option (List (Renderable Transformation Alpha))

/-- The body of the first loop of `process_layers`. -/
def addLayer (layers : WindowRenderables Window Transformation Alpha)
    (renderable : Renderable Transformation Alpha) :
    WindowRenderables Window Transformation Alpha :=
  if !surfaceName.isPrefixOf renderable.name.toList then layers
  else
    match scanTask renderable.name with
    | none => layers
    | some task =>
        if task = 0 then layers
        else
          match findWindowForTask task with
          | none => layers
          | some window =>
              match layers window with
              | none => Function.update layers window (some [renderable])
              | some before =>
                  Function.update layers window
                    (some (before ++ [renderable]))

/-! ## Placing the layers of a window -/

/-- The body of the loop that looks for the frame of a window. -/
def chooseFrame (chosen : Rect × Int32)
    (renderable : Renderable Transformation Alpha) : Rect × Int32 :=
  let layerArea :=
    renderable.screenPosition.width * renderable.screenPosition.height
  if layerArea < chosen.2 then chosen
  else (renderable.screenPosition, layerArea)

def newWindowFrame
    (renderables : List (Renderable Transformation Alpha)) : Rect :=
  (renderables.foldl chooseFrame (.invalid, -1)).1

/-- A layer with a position relative to the frame. -/
def placeIn (frame : Rect) (renderable : Renderable Transformation Alpha) :
    Renderable Transformation Alpha :=
  let position := renderable.screenPosition
  let crop := renderable.crop
  { renderable with
    screenPosition :=
      { left := position.left - frame.left + crop.left
        top := position.top - frame.top + crop.top
        right := position.right - frame.left + crop.left
        bottom := position.bottom - frame.top + crop.top } }

/-- The body of the second loop of `process_layers`. -/
def placeLayers (renderables : List (Renderable Transformation Alpha)) :
    List (Renderable Transformation Alpha) :=
  renderables.map (placeIn (newWindowFrame renderables))

/-- `MultiWindowComposerStrategy::process_layers`. -/
def processLayers (renderables : List (Renderable Transformation Alpha)) :
    WindowRenderables Window Transformation Alpha := fun window =>
  (renderables.foldl (addLayer findWindowForTask) (fun _ => none) window).map
    placeLayers

end

section

variable {Window Transformation Alpha : Type}
variable (findWindowForTask : Int32 → Option Window)

/-! ## What is asked of it -/

/-- The name is that of a surface of the task. -/
def SurfaceOf (task : Int32) (name : String) : Prop :=
  ∃ text number, name.toList = surfaceName ++ text ∧
    scanInteger text = some number ∧ storedInt number = task

/-- The layer is meant for a task that has the window. -/
def BelongsTo (window : Window)
    (renderable : Renderable Transformation Alpha) : Prop :=
  ∃ task, SurfaceOf task renderable.name ∧ task ≠ 0 ∧
    findWindowForTask task = some window

/-- The window of the task of a layer. -/
def windowOf (renderable : Renderable Transformation Alpha) :
    Option Window :=
  match scanTask renderable.name with
  | none => none
  | some task => if task = 0 then none else findWindowForTask task

theorem scanTask_eq_some_iff (name : String) (task : Int32) :
    scanTask name = some task ↔ SurfaceOf task name := by
  unfold scanTask SurfaceOf
  constructor
  · intro scanned
    split at scanned
    · cases scanned
    · rename_i text split
      rcases Option.map_eq_some_iff.mp scanned with ⟨number, read, stored⟩
      exact ⟨text, number,
        (List.append_eq_of_isPrefixOf?_eq_some split).symm, read, stored⟩
  · rintro ⟨text, number, split, read, stored⟩
    have stripped :
        surfaceName.isPrefixOf? name.toList = some text :=
      List.isPrefixOf?_eq_some_iff_append_eq.mpr split.symm
    rw [stripped]
    exact Option.map_eq_some_iff.mpr ⟨number, read, stored⟩

theorem windowOf_eq_some_iff
    (renderable : Renderable Transformation Alpha) (window : Window) :
    windowOf findWindowForTask renderable = some window ↔
      BelongsTo findWindowForTask window renderable := by
  unfold windowOf BelongsTo
  constructor
  · intro found
    split at found
    · cases found
    · rename_i task scanned
      split at found
      · cases found
      · rename_i nonzero
        exact ⟨task, (scanTask_eq_some_iff _ _).mp scanned, nonzero, found⟩
  · rintro ⟨task, surface, nonzero, found⟩
    rw [(scanTask_eq_some_iff _ _).mpr surface]
    exact (if_neg nonzero).trans found

variable [DecidableEq Window]

instance (window : Window) (renderable : Renderable Transformation Alpha) :
    Decidable (BelongsTo findWindowForTask window renderable) :=
  decidable_of_iff _ (windowOf_eq_some_iff findWindowForTask renderable window)

/-- The layers that are meant for a window, in the order they came in. -/
def layersOf (renderables : List (Renderable Transformation Alpha))
    (window : Window) : List (Renderable Transformation Alpha) :=
  renderables.filter fun renderable =>
    BelongsTo findWindowForTask window renderable

/-- The area that a layer covers. -/
def area (renderable : Renderable Transformation Alpha) : Int :=
  (renderable.screenPosition.right.toInt -
      renderable.screenPosition.left.toInt) *
    (renderable.screenPosition.bottom.toInt -
      renderable.screenPosition.top.toInt)

/-- A layer as it is drawn relative to the corner of another one. -/
structure Placed (origin : Rect)
    (original placed : Renderable Transformation Alpha) : Prop where
  others :
    placed = { original with screenPosition := placed.screenPosition }
  left :
    placed.screenPosition.left.toInt =
      original.screenPosition.left.toInt - origin.left.toInt +
        original.crop.left.toInt
  top :
    placed.screenPosition.top.toInt =
      original.screenPosition.top.toInt - origin.top.toInt +
        original.crop.top.toInt
  width :
    placed.screenPosition.right.toInt - placed.screenPosition.left.toInt =
      original.screenPosition.right.toInt -
        original.screenPosition.left.toInt
  height :
    placed.screenPosition.bottom.toInt - placed.screenPosition.top.toInt =
      original.screenPosition.bottom.toInt -
        original.screenPosition.top.toInt

/--
The layers that a window is given are those meant for it, placed relative to
the last one that covers the largest area.
-/
def Composed (renderables : List (Renderable Transformation Alpha))
    (window : Window) :
    Option (List (Renderable Transformation Alpha)) → Prop
  | none => layersOf findWindowForTask renderables window = []
  | some layers =>
      ∃ frame,
        IsLastMaximum area (layersOf findWindowForTask renderables window)
            frame ∧
          List.Forall₂ (Placed frame.screenPosition)
            (layersOf findWindowForTask renderables window) layers

/-! ## Coordinates that do not overflow -/

def InInt32 (value : Int) : Prop := -2 ^ 31 ≤ value ∧ value < 2 ^ 31

instance (value : Int) : Decidable (InInt32 value) :=
  inferInstanceAs (Decidable (_ ∧ _))

/-- The lengths of a layer are not negative, and its area is a number. -/
@[mk_iff]
structure LayerFits (renderable : Renderable Transformation Alpha) :
    Prop where
  width :
    0 ≤ renderable.screenPosition.right.toInt -
      renderable.screenPosition.left.toInt
  height :
    0 ≤ renderable.screenPosition.bottom.toInt -
      renderable.screenPosition.top.toInt
  widthInRange :
    InInt32 (renderable.screenPosition.right.toInt -
      renderable.screenPosition.left.toInt)
  heightInRange :
    InInt32 (renderable.screenPosition.bottom.toInt -
      renderable.screenPosition.top.toInt)
  areaInRange : InInt32 (area renderable)

/-- An edge can be moved relative to another one. -/
@[mk_iff]
structure EdgeFits (edge origin crop : Int32) : Prop where
  difference : InInt32 (edge.toInt - origin.toInt)
  sum : InInt32 (edge.toInt - origin.toInt + crop.toInt)

/-- A layer can be placed relative to the frame. -/
@[mk_iff]
structure PlacementFits (frame : Rect)
    (renderable : Renderable Transformation Alpha) : Prop where
  left :
    EdgeFits renderable.screenPosition.left frame.left renderable.crop.left
  top : EdgeFits renderable.screenPosition.top frame.top renderable.crop.top
  right :
    EdgeFits renderable.screenPosition.right frame.left renderable.crop.left
  bottom :
    EdgeFits renderable.screenPosition.bottom frame.top renderable.crop.top

instance (renderable : Renderable Transformation Alpha) :
    Decidable (LayerFits renderable) :=
  decidable_of_iff' _ (layerFits_iff renderable)

instance (edge origin crop : Int32) : Decidable (EdgeFits edge origin crop) :=
  decidable_of_iff' _ (edgeFits_iff edge origin crop)

instance (frame : Rect) (renderable : Renderable Transformation Alpha) :
    Decidable (PlacementFits frame renderable) :=
  decidable_of_iff' _ (placementFits_iff frame renderable)

/-- No sum or product that is computed for a window overflows. -/
structure WindowFits (renderables : List (Renderable Transformation Alpha))
    (window : Window) : Prop where
  layers :
    ∀ renderable ∈ layersOf findWindowForTask renderables window,
      LayerFits renderable
  placements :
    ∀ frame,
      IsLastMaximum area (layersOf findWindowForTask renderables window)
          frame →
        ∀ renderable ∈ layersOf findWindowForTask renderables window,
          PlacementFits frame.screenPosition renderable

/-! ## Grouping the layers -/

theorem addLayer_eq (layers : WindowRenderables Window Transformation Alpha)
    (renderable : Renderable Transformation Alpha) :
    addLayer findWindowForTask layers renderable =
      match windowOf findWindowForTask renderable with
      | none => layers
      | some window =>
          Function.update layers window
            (some ((layers window).getD [] ++ [renderable])) := by
  unfold addLayer windowOf
  cases scanned : scanTask renderable.name with
  | none => simp
  | some task =>
      rcases (scanTask_eq_some_iff _ _).mp scanned with ⟨text, _, split, _⟩
      have isPrefix :
          surfaceName.isPrefixOf renderable.name.toList = true := by
        rw [split]
        exact List.isPrefixOf_iff_prefix.mpr (List.prefix_append _ _)
      by_cases zero : task = 0
      · simp [zero]
      · cases found : findWindowForTask task with
        | none => simp [zero, found]
        | some window =>
            cases before : layers window with
            | none => simp [isPrefix, zero, found, before]
            | some others => simp [isPrefix, zero, found, before]

theorem layersOf_append_singleton
    (renderables : List (Renderable Transformation Alpha))
    (renderable : Renderable Transformation Alpha) (window : Window) :
    layersOf findWindowForTask (renderables ++ [renderable]) window =
      if windowOf findWindowForTask renderable = some window then
        layersOf findWindowForTask renderables window ++ [renderable]
      else layersOf findWindowForTask renderables window := by
  rw [layersOf, List.filter_append]
  simp only [windowOf_eq_some_iff]
  split
  · rename_i belongs
    simp [layersOf, belongs]
  · rename_i other
    simp [layersOf, other]

/-- The first loop collects the layers of each window in order. -/
theorem foldl_addLayer
    (renderables : List (Renderable Transformation Alpha))
    (window : Window) :
    renderables.foldl (addLayer findWindowForTask) (fun _ => none) window =
      if layersOf findWindowForTask renderables window = [] then none
      else some (layersOf findWindowForTask renderables window) := by
  induction renderables using List.reverseRecOn generalizing window with
  | nil => rfl
  | append_singleton renderables renderable inductionHypothesis =>
      rw [List.foldl_append, List.foldl_cons, List.foldl_nil, addLayer_eq,
        layersOf_append_singleton]
      cases found : windowOf findWindowForTask renderable with
      | none => simpa using inductionHypothesis window
      | some owner =>
          by_cases same : owner = window
          · subst same
            have before := inductionHypothesis owner
            simp only [Function.update_self, before]
            split
            · rename_i empty
              simp [empty]
            · simp
          · have differs : window ≠ owner := Ne.symm same
            simpa [same, Function.update_of_ne differs] using
              inductionHypothesis window

/-! ## The frame of a window -/

theorem toInt_sub_of_inInt32 {left right : Int32}
    (fits : InInt32 (left.toInt - right.toInt)) :
    (left - right).toInt = left.toInt - right.toInt := by
  rcases fits with ⟨lower, upper⟩
  rw [Int32.toInt_sub]
  exact Int.bmod_eq_of_le (by omega) (by omega)

theorem toInt_add_of_inInt32 {left right : Int32}
    (fits : InInt32 (left.toInt + right.toInt)) :
    (left + right).toInt = left.toInt + right.toInt := by
  rcases fits with ⟨lower, upper⟩
  rw [Int32.toInt_add]
  exact Int.bmod_eq_of_le (by omega) (by omega)

theorem toInt_mul_of_inInt32 {left right : Int32}
    (fits : InInt32 (left.toInt * right.toInt)) :
    (left * right).toInt = left.toInt * right.toInt := by
  rcases fits with ⟨lower, upper⟩
  rw [Int32.toInt_mul]
  exact Int.bmod_eq_of_le (by omega) (by omega)

end

section

variable {Transformation Alpha : Type}

/-- The area that is computed for a layer that fits. -/
theorem LayerFits.toInt_area
    {renderable : Renderable Transformation Alpha}
    (fits : LayerFits renderable) :
    (renderable.screenPosition.width *
        renderable.screenPosition.height).toInt = area renderable := by
  have width := toInt_sub_of_inInt32 fits.widthInRange
  have height := toInt_sub_of_inInt32 fits.heightInRange
  have product :
      renderable.screenPosition.width.toInt *
          renderable.screenPosition.height.toInt = area renderable := by
    rw [Rect.width, Rect.height, width, height, area]
  rw [toInt_mul_of_inInt32 (product ▸ fits.areaInRange), product]

theorem LayerFits.area_nonneg
    {renderable : Renderable Transformation Alpha}
    (fits : LayerFits renderable) : 0 ≤ area renderable :=
  Int.mul_nonneg fits.width fits.height

/-- The loop keeps the position of the last layer of maximal area. -/
theorem foldl_chooseFrame
    (renderables : List (Renderable Transformation Alpha))
    (fit : ∀ renderable ∈ renderables, LayerFits renderable) :
    renderables.foldl chooseFrame (.invalid, -1) =
      match lastMaximum area renderables with
      | none => (.invalid, -1)
      | some best =>
          (best.screenPosition,
            best.screenPosition.width * best.screenPosition.height) := by
  induction renderables using List.reverseRecOn with
  | nil => rfl
  | append_singleton renderables renderable inductionHypothesis =>
      have earlier : ∀ other ∈ renderables, LayerFits other :=
        fun other member => fit other (List.mem_append_left _ member)
      have fits : LayerFits renderable :=
        fit renderable (List.mem_append_right _ List.mem_cons_self)
      rw [List.foldl_append, List.foldl_cons, List.foldl_nil,
        inductionHypothesis earlier, lastMaximum_append_singleton]
      rcases lastMaximum_cases area renderables with
        ⟨none, _⟩ | ⟨best, some, isLast⟩
      · have notSmaller :
            ¬renderable.screenPosition.width *
              renderable.screenPosition.height < -1 := by
          rw [Int32.lt_iff_toInt_lt, fits.toInt_area]
          have nonneg := fits.area_nonneg
          have minusOne : (-1 : Int32).toInt = -1 := rfl
          omega
        rw [none]
        exact if_neg notSmaller
      · have bestFits := earlier best isLast.mem
        have smaller :
            renderable.screenPosition.width *
                renderable.screenPosition.height <
              best.screenPosition.width * best.screenPosition.height ↔
                area renderable < area best := by
          rw [Int32.lt_iff_toInt_lt, fits.toInt_area, bestFits.toInt_area]
        rw [some]
        simp only [chooseFrame, keepLarger, smaller]
        split
        · rfl
        · rfl

/-- The frame of a window is the last layer of maximal area. -/
theorem newWindowFrame_spec
    {renderables : List (Renderable Transformation Alpha)}
    (fit : ∀ renderable ∈ renderables, LayerFits renderable)
    (nonempty : renderables ≠ []) :
    ∃ frame, IsLastMaximum area renderables frame ∧
      newWindowFrame renderables = frame.screenPosition := by
  rcases lastMaximum_cases area renderables with
    ⟨_, empty⟩ | ⟨best, some, isLast⟩
  · exact absurd empty nonempty
  · refine ⟨best, isLast, ?_⟩
    rw [newWindowFrame, foldl_chooseFrame renderables fit, some]

/-! ## Placing the layers -/

theorem EdgeFits.toInt_moved {edge origin crop : Int32}
    (fits : EdgeFits edge origin crop) :
    (edge - origin + crop).toInt =
      edge.toInt - origin.toInt + crop.toInt := by
  have difference := toInt_sub_of_inInt32 fits.difference
  rw [toInt_add_of_inInt32 (difference.symm ▸ fits.sum), difference]

theorem placed_placeIn {frame : Rect}
    {renderable : Renderable Transformation Alpha}
    (fits : PlacementFits frame renderable) :
    Placed frame renderable (placeIn frame renderable) := by
  have left := fits.left.toInt_moved
  have top := fits.top.toInt_moved
  have right := fits.right.toInt_moved
  have bottom := fits.bottom.toInt_moved
  constructor
  case others => rfl
  case left => exact left
  case top => exact top
  case width =>
    simp only [placeIn]
    omega
  case height =>
    simp only [placeIn]
    omega

end

/--
Each window is given the layers of its tasks in order, placed relative to the
last one of maximal area, if nothing overflows.
-/
theorem processLayers_composed {Window Transformation Alpha : Type}
    [DecidableEq Window] (findWindowForTask : Int32 → Option Window)
    (renderables : List (Renderable Transformation Alpha))
    (window : Window)
    (fits : WindowFits findWindowForTask renderables window) :
    Composed findWindowForTask renderables window
      (processLayers findWindowForTask renderables window) := by
  rw [processLayers, foldl_addLayer]
  split
  · rename_i empty
    exact empty
  · rename_i nonempty
    rcases newWindowFrame_spec fits.layers nonempty with
      ⟨frame, isLast, chosen⟩
    refine ⟨frame, isLast, ?_⟩
    rw [placeLayers, chosen, List.forall₂_map_right_iff, List.forall₂_same]
    intro renderable member
    exact placed_placeIn (fits.placements frame isLast renderable member)

/-- Layers of a window that can be placed relative to each other. -/
theorem windowFits_of_among {Window Transformation Alpha : Type}
    [DecidableEq Window] {findWindowForTask : Int32 → Option Window}
    {renderables layers : List (Renderable Transformation Alpha)}
    {window : Window}
    (same : layersOf findWindowForTask renderables window = layers)
    (fit : ∀ renderable ∈ layers, LayerFits renderable)
    (among :
      ∀ frame ∈ layers, ∀ renderable ∈ layers,
        PlacementFits frame.screenPosition renderable) :
    WindowFits findWindowForTask renderables window := by
  constructor
  case layers =>
    rw [same]
    exact fit
  case placements =>
    rw [same]
    exact fun frame isLast => among frame isLast.mem

/-- A layer of a window that is partially off the screen. -/
def offscreenLayer : Renderable Unit Unit :=
  { name := "org.anbox.surface.1"
    buffer := 0
    screenPosition := ⟨-100, -100, 924, 668⟩
    crop := ⟨0, 0, 1024, 768⟩
    transformation := ()
    alpha := () }

/-- A layer in front of it. -/
def innerLayer : Renderable Unit Unit :=
  { offscreenLayer with
    buffer := 1
    screenPosition := ⟨0, 0, 100, 200⟩
    crop := ⟨0, 0, 100, 200⟩ }

/-- The window of the task 1. -/
def onlyTask (task : Int32) : Option Nat := if task = 1 then some 7 else none

/-- The layers of the window are composed. -/
theorem processLayers_offscreen_composed :
    Composed onlyTask [offscreenLayer, innerLayer] 7
      (processLayers onlyTask [offscreenLayer, innerLayer] 7) := by
  have same :
      layersOf onlyTask [offscreenLayer, innerLayer] 7 =
        [offscreenLayer, innerLayer] := by
    decide
  apply processLayers_composed
  exact windowFits_of_among same (by decide) (by decide)

end Anbox.Graphics.LayerComposer
