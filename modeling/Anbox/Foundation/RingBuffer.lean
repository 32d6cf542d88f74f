import Mathlib.Data.List.Basic
import Mathlib.Logic.Function.Basic
import Mathlib.Tactic.Cases

/-!
# Ring buffers

A ring buffer keeps a list in a fixed number of slots.  The list starts at a
position and goes on in the following slots, from the last slot to the first.
A position is at most one turn behind its slot, so that going back by the
number of slots once is enough.
-/

namespace Anbox.Foundation.RingBuffer

universe u

variable {Element : Type u}

/-- The slot `offset` places behind `position`. -/
def wrap (capacity position offset : Nat) : Nat :=
  if capacity ≤ position + offset then position + offset - capacity
  else position + offset

/-- The list of `count` elements that starts at `position`. -/
def contents (slots : Nat → Element) (capacity position count : Nat) :
    List Element :=
  (List.range count).map fun offset => slots (wrap capacity position offset)

theorem wrap_lt {capacity position offset : Nat}
    (inside : position < capacity) (atMost : offset ≤ capacity) :
    wrap capacity position offset < capacity := by
  unfold wrap
  split
  · omega
  · omega

@[simp]
theorem wrap_zero {capacity position : Nat} (inside : position < capacity) :
    wrap capacity position 0 = position := by
  simp [wrap, Nat.not_le.mpr inside]

/-- Within one turn every offset has a slot of its own. -/
theorem wrap_inj {capacity position first second : Nat}
    (firstInside : first < capacity) (secondInside : second < capacity)
    (same : wrap capacity position first = wrap capacity position second) :
    first = second := by
  unfold wrap at same
  split at same
  · split at same
    · omega
    · omega
  · split at same
    · omega
    · omega

theorem wrap_next {capacity position offset : Nat}
    (inside : position < capacity) (within : offset + 1 ≤ capacity) :
    wrap capacity (wrap capacity position 1) offset =
      wrap capacity position (offset + 1) := by
  unfold wrap
  split
  · split
    · split
      · omega
      · omega
    · split
      · omega
      · omega
  · split
    · split
      · omega
      · omega
    · split
      · omega
      · omega

@[simp]
theorem contents_length (slots : Nat → Element)
    (capacity position count : Nat) :
    (contents slots capacity position count).length = count := by
  simp [contents]

/-- Slots that hold no element of the list may be overwritten. -/
theorem contents_update {slots : Nat → Element}
    {capacity position count index : Nat} (element : Element)
    (unused : ∀ offset < count, wrap capacity position offset ≠ index) :
    contents (Function.update slots index element) capacity position count =
      contents slots capacity position count := by
  apply List.map_congr_left
  intro offset member
  exact Function.update_of_ne (unused offset (List.mem_range.mp member)) ..

/-- Writing the first slot behind the list appends an element. -/
theorem contents_push {slots : Nat → Element}
    {capacity position count : Nat} (room : count < capacity)
    (element : Element) :
    contents
        (Function.update slots (wrap capacity position count) element)
        capacity position (count + 1) =
      contents slots capacity position count ++ [element] := by
  have unused : ∀ offset < count,
      wrap capacity position offset ≠ wrap capacity position count := by
    intro offset before same
    have equal := wrap_inj (Nat.lt_trans before room) room same
    omega
  rw [← contents_update element unused]
  simp [contents, List.range_succ]

/-- The list without its first element starts one slot later. -/
theorem contents_pop {slots : Nat → Element}
    {capacity position count : Nat} (inside : position < capacity)
    (within : count + 1 ≤ capacity) :
    contents slots capacity position (count + 1) =
      slots position ::
        contents slots capacity (wrap capacity position 1) count := by
  rw [contents, List.range_succ_eq_map, List.map_cons, List.map_map,
    wrap_zero inside]
  congr 1
  apply List.map_congr_left
  intro offset member
  have before := List.mem_range.mp member
  rw [wrap_next inside (by omega)]
  rfl

end Anbox.Foundation.RingBuffer
