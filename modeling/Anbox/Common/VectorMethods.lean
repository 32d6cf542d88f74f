import Anbox.Common.VectorStorage
import Mathlib.Data.Set.Lattice
import Mathlib.Order.CompletePartialOrder

/-!
# What the methods of a small vector do

A method may find no memory.  It never does anything undefined as long as its
arguments are there and the number of bytes that it asks for can be
represented.
-/

namespace Anbox.Common.SmallVector

open Anbox.Foundation.Fallible
open Anbox.Foundation.Footprint
open Anbox.Foundation.ObjectMemory

universe u

variable {T Name : Type u} {type : VectorType T} {name : Name}
  {vector : Members Name} {objects : List T} {storage : Storage Name T}

/-! ## Two vectors -/

variable {other : Name} {source : Members Name} {elements : List T}

/--
After a move one vector holds the elements.  The other one holds something, and
the two have no place in common.
-/
structure Moved (type : VectorType T) (name other : Name)
    (before : Set (Place Name)) (storage : Storage Name T)
    (elements : List T)
    (result : Members Name × Members Name × Storage Name T) : Prop where
  target : Holds type name result.1 elements result.2.2
  source : ∃ leftover, Holds type other result.2.1 leftover result.2.2
  apart :
    Disjoint (owned type name result.1) (owned type other result.2.1)
  confined :
    Confined before storage
      (owned type name result.1 ∪ owned type other result.2.1) result.2.2

/-- What was done before may have worked on the same places. -/
theorem Moved.after {before between : Set (Place Name)}
    {storage' : Storage Name T}
    {result : Members Name × Members Name × Storage Name T}
    (moved : Moved type name other between storage' elements result)
    (first : Confined before storage between storage') :
    Moved type name other before storage elements result :=
  ⟨moved.target, moved.source, moved.apart, first.trans moved.confined⟩

/-- The buffer of another vector is taken over. -/
theorem Holds.stolen (moved : Holds type other source elements storage)
    (allocated : isAllocated other source)
    (hasArray : HasArray type name storage) (distinct : name ≠ other)
    {before : Set (Place Name)} (own : type.array name ∈ before)
    (taken : owned type other source ⊆ before) :
    Moved type name other before storage elements
      (source, initInplace type other, storage) := by
  rcases moved.isAllocated_iff.mp allocated with ⟨address, outside⟩
  refine ⟨⟨moved.size_eq, moved.row, ?_, hasArray⟩,
    ⟨[], holds_initInplace moved.hasArray⟩, ?_, Confined.still ?_ storage⟩
  · have larger := moved.isAllocated_iff_lt.mp allocated
    exact Or.inr ⟨⟨address, outside⟩, larger, moved.bytes_le⟩
  · rw [Set.disjoint_left]
    rintro place (rfl | rfl) <;>
      simp [owned, initInplace, VectorType.array, outside, distinct]
  · rintro place ((rfl | rfl) | (rfl | rfl))
    · exact own
    · exact taken (begin_mem_owned type other source)
    · exact taken (Or.inl rfl)
    · exact taken (Or.inl rfl)

variable [DecidableEq Name] {offer : Option Nat}

/-! ## One vector -/

theorem Holds.emplaceBack_returns
    (holds : Holds type name vector objects storage)
    {construct : Storage Name T → Option T} {object : T}
    (made : Returns (fun grown => construct grown.2 = some object)
      (growForSize type name offer (vector.size + 1) vector storage)) :
    Returns (Becomes type name vector storage (objects ++ [object]))
      (emplaceBack type name offer construct vector storage) := by
  have noWrap := holds.next_bytes_lt
  have representable : vector.size + 1 < sizeLimit :=
    (le_elementSize_mul type _).trans_lt noWrap
  rw [emplaceBack, Nat.mod_eq_of_lt representable]
  apply ((holds.growForSize_returns fun _ => noWrap).both made).bind
  rintro ⟨grown, storage'⟩ ⟨⟨room, becomes⟩, constructed⟩
  dsimp only at room becomes constructed ⊢
  rcases becomes.holds.row with ⟨spare, row, total⟩
  dsimp only at row total
  cases spare with
  | nil =>
      rw [holds.size_eq] at room
      rw [List.length_nil] at total
      omega
  | cons cell spare =>
      have written := write_between row (some object)
      rw [length_living, ← becomes.holds.size_eq] at written
      simp only [constructed, defined, Bind.bind, Except.bind, written]
      have appended := becomes.holds.replaced (objects ++ [object]) spare
        (by simp at total ⊢; omega)
      simp only [living_append, living_cons, living_nil, List.append_assoc,
        List.cons_append, List.nil_append, List.length_append,
        List.length_singleton, ← becomes.holds.size_eq] at appended
      exact becomes.trans appended

theorem Holds.clear_returns (holds : Holds type name vector objects storage) :
    ∃ result, clear type vector storage = .ok result ∧
      Becomes type name vector storage [] result := by
  rcases holds.destructed with ⟨cells, done, length, -⟩
  refine ⟨_, congrArg (· >>= _) done, ?_⟩
  exact holds.replaced [] cells (by simpa using length)

theorem Holds.reserve_returns
    (holds : Holds type name vector objects storage) {newCap : Nat}
    (noWrap : vector.capacity < newCap →
      type.elementSize * newCap < sizeLimit) :
    Returns (Becomes type name vector storage objects)
      (reserve type name offer newCap vector storage) := by
  rw [reserve]
  split
  case isTrue => exact Becomes.refl holds
  case isFalse more =>
    have larger : vector.capacity < newCap := Nat.lt_of_not_le more
    apply (holds.setCapacity_returns (holds.smallSize_le.trans_lt larger)
      (holds.length_le.trans larger.le) (noWrap larger)).weaken
    exact fun result wanted => wanted.2.1

/-- Only the elements from `newSize` on are destroyed. -/
theorem Holds.destructed_from (holds : Holds type name vector objects storage)
    {newSize : Nat} (smaller : newSize ≤ vector.size) :
    ∃ cells,
      destruct type vector.begin newSize (vector.size - newSize) storage =
        .ok (Function.update storage vector.begin
          (some (living (objects.take newSize) ++ cells))) ∧
      newSize + cells.length = vector.capacity := by
  rcases holds.row with ⟨spare, row, total⟩
  have length : (objects.take newSize).length = newSize := by
    rw [List.length_take, ← holds.size_eq, Nat.min_eq_left smaller]
  have split : living objects ++ spare =
      living (objects.take newSize) ++ living (objects.drop newSize) ++
        spare := by
    rw [← living_append, List.take_append_drop]
  rcases @destruct_between _ _ type _ _ _ _ _ _
    (row.trans (congrArg some split)) with ⟨cells, removed, -, done⟩
  rw [length_living, length, List.length_drop, ← holds.size_eq] at done
  refine ⟨cells ++ spare, ?_, ?_⟩
  · rw [done, List.append_assoc]
  · rw [List.length_append, removed, List.length_drop, ← total]
    rw [holds.size_eq] at smaller
    omega

/-- There are enough cells behind the elements to fill up to `newSize`. -/
theorem Holds.filled (holds : Holds type name vector objects storage)
    {newSize : Nat} (larger : vector.size ≤ newSize)
    (room : newSize ≤ vector.capacity) (object : T) :
    ∃ storage',
      fillRange object vector.begin vector.size (newSize - vector.size)
        storage = some storage' ∧
      Becomes type name vector storage
        (objects ++ List.replicate (newSize - objects.length) object)
        ({ vector with size := newSize }, storage') := by
  rcases holds.row with ⟨spare, row, total⟩
  rw [holds.size_eq] at larger ⊢
  have enough : newSize - objects.length ≤ spare.length := by omega
  have done := fillRange_append object row enough
  rw [length_living, ← living_append] at done
  refine ⟨_, done, ?_⟩
  have replaced := holds.replaced
    (objects ++ List.replicate (newSize - objects.length) object)
    (spare.drop (newSize - objects.length)) (by simp; omega)
  rwa [List.length_append, List.length_replicate,
    Nat.add_sub_cancel' larger] at replaced

theorem Holds.resize_returns
    (holds : Holds type name vector objects storage) {newSize : Nat}
    (noWrap : vector.capacity < newSize →
      type.elementSize * newSize < sizeLimit) :
    Returns
      (Becomes type name vector storage
        (objects.take newSize ++
          List.replicate (newSize - objects.length) type.default))
      (resize type name offer newSize vector storage) := by
  rw [resize]
  split
  case isTrue smaller =>
    rcases holds.destructed_from smaller.le with ⟨cells, done, total⟩
    rw [holds.size_eq] at smaller
    have length : (objects.take newSize).length = newSize :=
      List.length_take_of_le smaller.le
    have replaced := holds.replaced (objects.take newSize) cells
      (by rw [length, total])
    rw [Nat.sub_eq_zero_of_le smaller.le, List.replicate_zero,
      List.append_nil, done]
    rwa [length] at replaced
  case isFalse notSmaller =>
    have taken : objects.take newSize = objects :=
      List.take_of_length_le (by rw [← holds.size_eq]; omega)
    rw [taken]
    split
    case isTrue larger =>
      apply (holds.growForSize_returns noWrap).bind
      rintro ⟨grown, storage'⟩ ⟨room, becomes⟩
      dsimp only at room becomes ⊢
      have size_eq : grown.size = vector.size :=
        becomes.holds.size_eq.trans holds.size_eq.symm
      rcases becomes.holds.filled (by rw [size_eq]; exact larger.le) room
        type.default with ⟨final, done, filled⟩
      dsimp only at done
      simp only [done, defined, Bind.bind, Except.bind]
      exact becomes.trans filled
    case isFalse notLarger =>
      have same : newSize = objects.length := by
        rw [← holds.size_eq]
        omega
      rw [same, Nat.sub_self, List.replicate_zero, List.append_nil]
      exact Becomes.refl holds

/-- There are enough cells behind the elements for those that are copied. -/
theorem Holds.extended (holds : Holds type name vector objects storage)
    {source : Place Name} {elements : List T} {rest : Cells T}
    (copied : storage source = some (living elements ++ rest))
    (distinct : source ≠ vector.begin)
    (room : vector.size + elements.length ≤ vector.capacity) :
    ∃ storage',
      transferRange id source vector.begin 0 vector.size elements.length
        storage = some storage' ∧
      Becomes type name vector storage (objects ++ elements)
        ({ vector with size := vector.size + elements.length }, storage') := by
  rcases holds.row with ⟨spare, row, total⟩
  rw [holds.size_eq] at room ⊢
  have enough : elements.length ≤ spare.length := by omega
  have done := transferRange_append id distinct copied row enough
  -- The copied elements are written back as they are.
  rw [List.map_id, ← copied, Function.update_eq_self, length_living,
    ← living_append] at done
  refine ⟨_, done, ?_⟩
  have replaced := holds.replaced (objects ++ elements)
    (spare.drop elements.length) (by simp; omega)
  rwa [List.length_append] at replaced

/-- Elements that are copied from elsewhere go behind those that there are. -/
theorem Holds.insertBack_returns
    (holds : Holds type name vector objects storage) {source : Place Name}
    {elements : List T} {rest : Cells T}
    (copied : storage source = some (living elements ++ rest))
    (foreign : source ∉ owned type name vector)
    (noWrap :
      type.elementSize * (objects.length + elements.length) < sizeLimit) :
    Returns (Becomes type name vector storage (objects ++ elements))
      (insertBack type name offer source elements.length vector storage) := by
  rw [insertBack]
  split
  case isTrue nothing =>
    rw [List.length_eq_zero_iff.mp nothing, List.append_nil]
    exact Becomes.refl holds
  case isFalse something =>
    rw [← holds.size_eq] at noWrap
    rw [Nat.mod_eq_of_lt ((le_elementSize_mul type _).trans_lt noWrap)]
    apply (holds.growForSize_returns fun _ => noWrap).bind
    rintro ⟨grown, storage'⟩ ⟨room, becomes⟩
    have still := becomes.confined.kept source _ foreign copied
    have distinct : source ≠ grown.begin := fun same =>
      becomes.confined.not_taken foreign copied (Or.inr same)
    have size_eq : grown.size = vector.size :=
      becomes.holds.size_eq.trans holds.size_eq.symm
    rcases becomes.holds.extended still distinct (size_eq ▸ room)
      with ⟨final, done, extended⟩
    dsimp only at done ⊢
    simp only [done, defined, Bind.bind, Except.bind]
    exact becomes.trans extended

/-! ## Copies -/


theorem copyConstruct_returns (hasArray : HasArray type name storage)
    (copied : Holds type other source elements storage)
    (foreign : source.begin ≠ type.array name) :
    Returns (Becomes type name (initInplace type name) storage elements)
      (copyConstruct type name offer source storage) := by
  rcases copied.row with ⟨rest, row, -⟩
  rw [copyConstruct, copied.size_eq]
  refine (holds_initInplace hasArray).insertBack_returns row ?_ ?_
  · simp [owned, initInplace, foreign]
  · rw [List.length_nil, Nat.zero_add]
    exact copied.length_bytes_lt

theorem Holds.copyAssign_returns
    (holds : Holds type name vector objects storage)
    (copied : Holds type other source elements storage)
    (foreign : source.begin ∉ owned type name vector) :
    Returns (Becomes type name vector storage elements)
      (copyAssign type name offer source vector storage) := by
  rcases holds.clear_returns with ⟨⟨cleared, storage'⟩, done, becomes⟩
  rcases copied.row with ⟨rest, row, -⟩
  have still := becomes.confined.kept source.begin _ foreign row
  have outside := becomes.confined.not_taken foreign row
  have noWrap : type.elementSize * (([] : List T).length + elements.length) <
      sizeLimit := by
    rw [List.length_nil, Nat.zero_add]
    exact copied.length_bytes_lt
  rw [copyAssign, done, copied.size_eq]
  apply (becomes.holds.insertBack_returns still outside noWrap).weaken
  intro result final
  exact becomes.trans final

/-! ## Moves of elements -/

/-- Elements of another vector are moved into the cells of an empty one. -/
theorem Holds.receives (holds : Holds type name vector [] storage)
    (moved : Holds type other source elements storage)
    (apart : Disjoint (owned type name vector) (owned type other source))
    (room : elements.length ≤ vector.capacity) :
    ∃ storage',
      transferRange type.movedFrom source.begin vector.begin 0 0 source.size
        storage = some storage' ∧
      Moved type name other
        (owned type name vector ∪ owned type other source) storage elements
        ({ vector with size := source.size }, source, storage') := by
  rcases moved.row with ⟨rest, movedRow, movedTotal⟩
  rcases holds.row with ⟨cells, row, total⟩
  rw [List.length_nil, Nat.zero_add] at total
  have beginFirst := begin_mem_owned type name vector
  have beginSecond := begin_mem_owned type other source
  have notSecond := Set.disjoint_left.mp apart beginFirst
  have notFirst := Set.disjoint_right.mp apart beginSecond
  have distinct : source.begin ≠ vector.begin :=
    ne_of_mem_of_not_mem beginSecond notSecond
  have done := transferRange_empty type.movedFrom distinct movedRow row
    (total.symm ▸ room)
  have left := moved.replaced (elements.map type.movedFrom) rest
    (by rw [List.length_map, movedTotal])
  rw [List.length_map, ← moved.size_eq] at left
  have received := (holds.elsewhere notFirst
    (some (living (elements.map type.movedFrom) ++ rest))).replaced elements
      (cells.drop elements.length) (by rw [List.length_drop]; omega)
  rw [← moved.size_eq] at received done
  refine ⟨_, done, received.holds, ⟨_, left.holds.elsewhere notSecond _⟩,
    apart, ?_⟩
  exact (Confined.update (Set.mem_union_right _ beginSecond) subset_rfl _).trans
    (Confined.update (Set.mem_union_left _ beginFirst) subset_rfl _)

theorem moveConstruct_returns (hasArray : HasArray type name storage)
    (moved : Holds type other source elements storage)
    (distinct : name ≠ other) :
    ∃ result, moveConstruct type name other source storage = .ok result ∧
      Moved type name other
        (owned type name (initInplace type name) ∪ owned type other source)
        storage elements result := by
  rw [moveConstruct]
  split
  case isTrue allocated =>
    exact ⟨_, rfl, moved.stolen allocated hasArray distinct
      (Or.inl (Or.inl rfl)) Set.subset_union_right⟩
  case isFalse inside =>
    have array : source.begin = type.array other :=
      begin_of_not_isAllocated inside
    have apart : Disjoint (owned type name (initInplace type name))
        (owned type other source) := by
      simp [owned, initInplace, array, VectorType.array, distinct]
    rcases (holds_initInplace hasArray).receives moved apart
      (moved.length_le_smallSize inside) with ⟨storage', done, result⟩
    refine ⟨_, ?_, result⟩
    rw [initInplace] at done
    rw [done]
    rfl

/--
Only vectors with an array are moved element by element, so there is always
room and the branch that gives up the own buffer is never taken.
-/
theorem Holds.moveAssign_returns
    (holds : Holds type name vector objects storage)
    (moved : Holds type other source elements storage)
    (apart : Disjoint (owned type name vector) (owned type other source)) :
    ∃ result, moveAssign type name other vector source storage = .ok result ∧
      Moved type name other (owned type name vector ∪ owned type other source)
        storage elements result := by
  have distinct : name ≠ other := by
    rintro rfl
    exact Set.disjoint_left.mp apart (Or.inl rfl) (Or.inl rfl)
  have beginFirst := begin_mem_owned type name vector
  have notSecond := Set.disjoint_left.mp apart beginFirst
  rw [moveAssign]
  split
  case isTrue allocated =>
    rcases holds.dtor_ok with ⟨left, done, inside⟩
    have hasArray : HasArray type name
        (Function.update storage vector.begin left) := by
      apply holds.hasArray.update
      intro same
      rcases inside same with ⟨cells, there, whole, -⟩
      exact ⟨cells, there, whole⟩
    have worked : Confined
        (owned type name vector ∪ owned type other source) storage
        (owned type name vector ∪ owned type other source)
        (Function.update storage vector.begin left) :=
      Confined.update (Set.mem_union_left _ beginFirst) subset_rfl left
    exact ⟨_, congrArg (· >>= _) done,
      ((moved.elsewhere notSecond left).stolen allocated hasArray distinct
        (Or.inl (Or.inl rfl)) Set.subset_union_right).after worked⟩
  case isFalse inside =>
    have room : elements.length ≤ vector.capacity :=
      (moved.length_le_smallSize inside).trans holds.smallSize_le
    rw [if_neg fun both => (both.2.trans_le (moved.size_eq.trans_le room)).ne
      rfl]
    rcases holds.destructed with ⟨cells, done, length, -⟩
    have emptied := holds.replaced [] cells (by simpa using length)
    rcases emptied.holds.receives (moved.elsewhere notSecond _) apart room with
      ⟨storage', transferred, received⟩
    refine ⟨_, ?_, received.after (emptied.confined.beside _)⟩
    simp only [living_nil, List.nil_append] at transferred
    simp only [done, transferred, defined, Bind.bind, Except.bind]

end Anbox.Common.SmallVector
