import Anbox.Common.SmallVector
import Anbox.Foundation.Footprint
import Mathlib.Data.Set.Insert
import Mathlib.Order.MinMax

/-!
# The storage of a small vector

`Holds` describes a vector that has these elements: they stand at the start of
its buffer, which has as many cells as its capacity says, and the buffer is the
array inside of it or, with a larger capacity, one from `malloc`.  `Becomes`
specifies a method by what the vector holds afterwards and by its footprint,
which consists of the array and the buffer of the vector.

The buffer grows as long as the number of bytes that are asked for can be
represented, or there is no memory.
-/

namespace Anbox.Common.SmallVector

open Anbox.Foundation.Fallible
open Anbox.Foundation.Footprint
open Anbox.Foundation.ObjectMemory

universe u

variable {T Name : Type u} {type : VectorType T}

/-! ## Sizes -/

/-- The array is the next member, as `smallBufferStart` takes for granted. -/
theorem dataOffset_eq (type : VectorType T) :
    type.dataOffset = baseSize := by
  have small : max sizeAlignment type.alignment = sizeAlignment :=
    Nat.max_eq_left (Nat.le_of_dvd (by decide) type.alignment_dvd)
  rw [VectorType.dataOffset, small]
  rfl

theorem array_eq (type : VectorType T) (name : Name) :
    type.array name = smallBufferStart name := by
  rw [VectorType.array, dataOffset_eq, smallBufferStart]

/-- A buffer can be doubled without an overflow of its number of bytes. -/
theorem elementSize_mul_lt {capacity count : Nat}
    (fits : type.elementSize * capacity ≤ ptrdiffMax)
    (atMost : count ≤ 2 * capacity) :
    type.elementSize * count < sizeLimit := by
  have doubled : type.elementSize * count ≤
      2 * (type.elementSize * capacity) := by
    calc type.elementSize * count
        ≤ type.elementSize * (2 * capacity) :=
          Nat.mul_le_mul_left type.elementSize atMost
      _ = 2 * (type.elementSize * capacity) := Nat.mul_left_comm _ _ _
  unfold ptrdiffMax at fits
  unfold sizeLimit
  omega

theorem le_elementSize_mul (type : VectorType T) (count : Nat) :
    count ≤ type.elementSize * count :=
  Nat.le_mul_of_pos_left count type.elementSize_pos

variable {name : Name} {vector : Members Name} {objects : List T}
  {storage : Storage Name T}

/-! ## What a vector holds -/

/-- The array inside of a vector has its cells, whatever is in them. -/
def HasArray (type : VectorType T) (name : Name) (storage : Storage Name T) :
    Prop :=
  ∃ cells, storage (type.array name) = some cells ∧
    cells.length = type.smallSize

/-- The elements of a vector and the buffer that they are in. -/
structure Holds (type : VectorType T) (name : Name) (vector : Members Name)
    (objects : List T) (storage : Storage Name T) : Prop where
  size_eq : vector.size = objects.length
  row :
    ∃ spare, storage vector.begin = some (living objects ++ spare) ∧
      objects.length + spare.length = vector.capacity
  buffer :
    (vector.begin = type.array name ∧ vector.capacity = type.smallSize) ∨
      ((∃ address, vector.begin = .heap address) ∧
        type.smallSize < vector.capacity ∧
        type.elementSize * vector.capacity ≤ ptrdiffMax)
  hasArray : HasArray type name storage

/-- The places that belong to a vector. -/
def owned (type : VectorType T) (name : Name) (vector : Members Name) :
    Set (Place Name) :=
  {type.array name, vector.begin}

namespace Holds

theorem length_le (holds : Holds type name vector objects storage) :
    objects.length ≤ vector.capacity := by
  rcases holds.row with ⟨spare, -, total⟩
  omega

theorem smallSize_le (holds : Holds type name vector objects storage) :
    type.smallSize ≤ vector.capacity := by
  rcases holds.buffer with ⟨-, same⟩ | ⟨-, more, -⟩
  · exact same.ge
  · exact more.le

theorem capacity_pos (holds : Holds type name vector objects storage) :
    0 < vector.capacity :=
  Nat.lt_of_lt_of_le type.smallSize_pos holds.smallSize_le

theorem bytes_le (holds : Holds type name vector objects storage) :
    type.elementSize * vector.capacity ≤ ptrdiffMax := by
  rcases holds.buffer with ⟨-, same⟩ | ⟨-, -, fits⟩
  · rw [same]
    exact type.array_fits
  · exact fits

/-- As many elements again can be asked for in another buffer. -/
theorem length_bytes_lt (holds : Holds type name vector objects storage) :
    type.elementSize * objects.length < sizeLimit :=
  elementSize_mul_lt holds.bytes_le (holds.length_le.trans (by omega))

theorem next_bytes_lt (holds : Holds type name vector objects storage) :
    type.elementSize * (vector.size + 1) < sizeLimit := by
  apply elementSize_mul_lt holds.bytes_le
  have positive := holds.capacity_pos
  have length_le := holds.length_le
  have size_eq := holds.size_eq
  omega

theorem isAllocated_iff (holds : Holds type name vector objects storage) :
    isAllocated name vector ↔ ∃ address, vector.begin = .heap address := by
  rw [isAllocated, ← array_eq type name]
  rcases holds.buffer with ⟨inside, -⟩ | ⟨⟨address, outside⟩, -⟩
  · rw [inside]
    simp [VectorType.array]
  · simp [outside, VectorType.array]

theorem isAllocated_iff_lt (holds : Holds type name vector objects storage) :
    isAllocated name vector ↔ type.smallSize < vector.capacity := by
  rw [holds.isAllocated_iff]
  rcases holds.buffer with ⟨inside, same⟩ | ⟨outside, more, -⟩
  · simp [inside, same, VectorType.array]
  · exact iff_of_true outside more

theorem begin_live (holds : Holds type name vector objects storage) :
    storage vector.begin ≠ none := by
  rcases holds.row with ⟨spare, row, -⟩
  simp [row]

theorem length_le_smallSize (holds : Holds type name vector objects storage)
    (inside : ¬isAllocated name vector) :
    objects.length ≤ type.smallSize := by
  rw [holds.isAllocated_iff_lt, not_lt] at inside
  exact holds.length_le.trans inside

theorem owned_live (holds : Holds type name vector objects storage)
    {place : Place Name} (own : place ∈ owned type name vector) :
    storage place ≠ none := by
  rcases own with rfl | rfl
  · rcases holds.hasArray with ⟨cells, there, -⟩
    simp [there]
  · exact holds.begin_live

end Holds

theorem begin_of_not_isAllocated (inside : ¬isAllocated name vector) :
    vector.begin = type.array name := by
  rw [isAllocated, not_not] at inside
  rw [inside, array_eq]

/-- Buffers and arrays are different places. -/
theorem array_ne_heap (type : VectorType T) (name : Name) (address : Nat) :
    type.array name ≠ .heap address := by
  simp [VectorType.array]

theorem begin_mem_owned (type : VectorType T) (name : Name)
    (vector : Members Name) : vector.begin ∈ owned type name vector :=
  Or.inr rfl

/--
The vector holds these elements at the end of a method, which has worked on no
other places than those of the vector.
-/
structure Becomes (type : VectorType T) (name : Name)
    (vector : Members Name) (storage : Storage Name T) (objects : List T)
    (result : Members Name × Storage Name T) : Prop where
  holds : Holds type name result.1 objects result.2
  confined :
    Confined (owned type name vector) storage (owned type name result.1)
      result.2

theorem Becomes.refl (holds : Holds type name vector objects storage) :
    Becomes type name vector storage objects (vector, storage) :=
  ⟨holds, Confined.still subset_rfl storage⟩

theorem Becomes.trans {between : Members Name × Storage Name T}
    {middle final : List T} {result : Members Name × Storage Name T}
    (first : Becomes type name vector storage middle between)
    (second : Becomes type name between.1 between.2 final result) :
    Becomes type name vector storage final result :=
  ⟨second.holds, first.confined.trans second.confined⟩

/-- The capacity that `grow_for_size` asks for is a permitted one. -/
theorem Holds.growth (holds : Holds type name vector objects storage)
    {newSize : Nat} (tooSmall : vector.capacity < newSize)
    (noWrap : type.elementSize * newSize < sizeLimit) :
    let newCap :=
      max newSize ((vector.capacity + vector.capacity / 2) % sizeLimit)
    type.smallSize < newCap ∧ objects.length ≤ newCap ∧
      type.elementSize * newCap < sizeLimit := by
  intro newCap
  have atLeast : newSize ≤ newCap := Nat.le_max_left ..
  have smallSize_le := holds.smallSize_le
  have length_le := holds.length_le
  refine ⟨by omega, by omega, ?_⟩
  rcases max_choice newSize
    ((vector.capacity + vector.capacity / 2) % sizeLimit) with asked | grown
  · exact (congrArg (type.elementSize * ·) asked).trans_lt noWrap
  · apply elementSize_mul_lt holds.bytes_le
    have remainder :=
      Nat.mod_le (vector.capacity + vector.capacity / 2) sizeLimit
    omega

theorem holds_initInplace (hasArray : HasArray type name storage) :
    Holds type name (initInplace type name) [] storage := by
  rcases hasArray with ⟨cells, there, whole⟩
  exact ⟨rfl, ⟨cells, there, by simpa [initInplace] using whole⟩,
    Or.inl ⟨rfl, rfl⟩, ⟨cells, there, whole⟩⟩

/-- What is stored elsewhere does not matter. -/
theorem Holds.congr (holds : Holds type name vector objects storage)
    {storage' : Storage Name T}
    (same :
      ∀ place ∈ owned type name vector, storage' place = storage place) :
    Holds type name vector objects storage' := by
  rcases holds with ⟨size_eq, ⟨spare, row, total⟩, buffer,
    ⟨array, there, whole⟩⟩
  refine ⟨size_eq, ⟨spare, ?_, total⟩, buffer, ⟨array, ?_, whole⟩⟩
  · rw [same vector.begin (begin_mem_owned type name vector), row]
  · rw [same (type.array name) (Or.inl rfl), there]

variable [DecidableEq Name] {offer : Option Nat}

theorem Holds.elsewhere (holds : Holds type name vector objects storage)
    {place : Place Name} (foreign : place ∉ owned type name vector)
    (content : Option (Cells T)) :
    Holds type name vector objects
      (Function.update storage place content) := by
  apply holds.congr
  intro own member
  apply Function.update_of_ne
  rintro rfl
  exact foreign member

/-! ## Destruction and allocation -/

/-- Destruction empties the cells, unless there is nothing to destroy. -/
theorem destruct_between {start : Place Name} {front back : Cells T}
    (row : storage start = some (front ++ living objects ++ back)) :
    ∃ cells : Cells T, cells.length = objects.length ∧
      (type.isTriviallyDestructible = true → cells = living objects) ∧
      destruct type start front.length objects.length storage =
        .ok (Function.update storage start
          (some (front ++ cells ++ back))) := by
  by_cases trivially : type.isTriviallyDestructible = true
  · refine ⟨living objects, length_living objects, fun _ => rfl, ?_⟩
    rw [destruct, if_pos trivially, ← row, Function.update_eq_self]
  · refine ⟨List.replicate objects.length none, List.length_replicate,
      fun impossible => absurd impossible trivially, ?_⟩
    rw [destruct, if_neg trivially, destroyRange_between row]
    rfl

theorem HasArray.update (hasArray : HasArray type name storage)
    {place : Place Name} {content : Option (Cells T)}
    (inside : place = type.array name →
      ∃ cells, content = some cells ∧ cells.length = type.smallSize) :
    HasArray type name (Function.update storage place content) := by
  by_cases same : place = type.array name
  · rcases inside same with ⟨cells, rfl, whole⟩
    exact ⟨cells, by rw [same, Function.update_self], whole⟩
  · rcases hasArray with ⟨cells, there, whole⟩
    exact ⟨cells, by rwa [Function.update_of_ne (Ne.symm same)], whole⟩

/-- A row that is as long as the one before it does no harm. -/
theorem HasArray.update_row (hasArray : HasArray type name storage)
    {place : Place Name} {old cells : Cells T}
    (row : storage place = some old) (length : cells.length = old.length) :
    HasArray type name (Function.update storage place (some cells)) := by
  apply hasArray.update
  rintro rfl
  rcases hasArray with ⟨array, there, whole⟩
  rw [there] at row
  cases row
  exact ⟨cells, rfl, length.trans whole⟩

theorem HasArray.update_heap (hasArray : HasArray type name storage)
    (address : Nat) (content : Option (Cells T)) :
    HasArray type name (Function.update storage (.heap address) content) :=
  hasArray.update fun same =>
    absurd same.symm (array_ne_heap type name address)

/-- The elements can be replaced in the cells that there are. -/
theorem Holds.replaced (holds : Holds type name vector objects storage)
    (after : List T) (spare : Cells T)
    (total : after.length + spare.length = vector.capacity) :
    Becomes type name vector storage after
      ({ vector with size := after.length },
        Function.update storage vector.begin
          (some (living after ++ spare))) := by
  rcases holds.row with ⟨rest, row, whole⟩
  constructor
  case holds =>
    refine ⟨rfl, ⟨spare, Function.update_self .., total⟩, holds.buffer,
      holds.hasArray.update_row row ?_⟩
    simp [total, whole]
  case confined =>
    exact Confined.update (begin_mem_owned type name vector) subset_rfl _

/-- Destruction leaves the cells of the buffer, which can be used again. -/
theorem Holds.destructed (holds : Holds type name vector objects storage) :
    ∃ cells,
      destruct type vector.begin 0 vector.size storage =
        .ok (Function.update storage vector.begin (some cells)) ∧
      cells.length = vector.capacity ∧
      (type.isTriviallyDestructible = true →
        storage vector.begin = some cells) := by
  rcases holds.row with ⟨spare, row, total⟩
  rcases @destruct_between _ _ type objects storage _ vector.begin [] spare row
    with ⟨cells, length, unchanged, done⟩
  refine ⟨cells ++ spare, holds.size_eq ▸ done, ?_, ?_⟩
  · rw [List.length_append, length, total]
  · intro trivially
    rw [row, unchanged trivially]

/-- `dtor` works on the buffer only; an array is left behind with its cells. -/
theorem Holds.dtor_ok (holds : Holds type name vector objects storage) :
    ∃ left,
      dtor type name vector storage =
        .ok (Function.update storage vector.begin left) ∧
      (vector.begin = type.array name →
        ∃ cells, left = some cells ∧ cells.length = type.smallSize ∧
          (type.isTriviallyDestructible = true →
            storage vector.begin = some cells)) := by
  rcases holds.destructed with ⟨cells, done, length, unchanged⟩
  rw [dtor, done]
  by_cases allocated : isAllocated name vector
  · rcases holds.isAllocated_iff.mp allocated with ⟨address, outside⟩
    refine ⟨none, ?_, ?_⟩
    · simp [Bind.bind, Except.bind, allocated, outside, free]
    · simp [outside, VectorType.array]
  · refine ⟨some cells, ?_, fun inside => ⟨cells, rfl, ?_, unchanged⟩⟩
    · simp [Bind.bind, Except.bind, allocated]
    · rcases holds.buffer with ⟨-, same⟩ | ⟨⟨address, outside⟩, -⟩
      · rw [length, same]
      · rw [outside, VectorType.array] at inside
        cases inside

/-- What `malloc` hands out is not in use and has room for the bytes. -/
theorem malloc_some {bytes : Nat} {start : Place Name}
    {storage' : Storage Name T}
    (found : malloc type offer bytes storage = some (start, storage')) :
    (∃ address, start = .heap address) ∧ storage start = none ∧
      bytes ≤ ptrdiffMax ∧
      storage' = Function.update storage start
        (some (List.replicate (bytes / type.elementSize) none)) := by
  cases offer with
  | none => cases found
  | some address =>
      rw [malloc] at found
      split at found
      case isTrue => cases found
      case isFalse refused =>
        rw [not_or, Option.not_isSome_iff_eq_none, not_lt] at refused
        cases found
        exact ⟨⟨address, rfl⟩, refused.1, refused.2, rfl⟩

/-! ## Larger buffers -/

/-- Storage once the elements were moved to a new buffer. -/
def movedTo (type : VectorType T) (address newCap : Nat)
    (start : Place Name) (objects : List T) (spare : Cells T)
    (storage : Storage Name T) : Storage Name T :=
  Function.update
    (Function.update
      (Function.update storage (.heap address)
        (some (List.replicate newCap none)))
      start (some (living (objects.map type.movedFrom) ++ spare)))
    (.heap address)
    (some (living objects ++ List.replicate (newCap - objects.length) none))

theorem transferRange_movedTo {address newCap : Nat} {start : Place Name}
    {spare : Cells T} (row : storage start = some (living objects ++ spare))
    (outside : start ≠ .heap address) (room : objects.length ≤ newCap) :
    transferRange type.movedFrom start (.heap address) 0 0 objects.length
        (Function.update storage (.heap address)
          (some (List.replicate newCap none))) =
      some (movedTo type address newCap start objects spare storage) := by
  have old : Function.update storage (.heap address)
      (some (List.replicate newCap none)) start =
        some (living objects ++ spare) :=
    (Function.update_of_ne outside ..).trans row
  have new : Function.update storage (.heap address)
      (some (List.replicate newCap none)) (.heap address) =
        some (List.replicate newCap (none : Option T)) :=
    Function.update_self ..
  have enough : objects.length ≤
      (List.replicate newCap (none : Option T)).length := by
    rwa [List.length_replicate]
  have moved := transferRange_empty type.movedFrom outside old new enough
  rwa [List.drop_replicate] at moved

theorem Holds.moved (holds : Holds type name vector objects storage)
    {address newCap : Nat} {spare : Cells T}
    (row : storage vector.begin = some (living objects ++ spare))
    (outside : vector.begin ≠ .heap address) :
    Holds type name vector (objects.map type.movedFrom)
      (movedTo type address newCap vector.begin objects spare storage) := by
  rcases holds.row with ⟨rest, there, total⟩
  rw [row] at there
  cases List.append_cancel_left (Option.some.inj there)
  refine ⟨?_, ⟨spare, ?_, ?_⟩, holds.buffer, ?_⟩
  · rw [List.length_map, holds.size_eq]
  · rw [movedTo, Function.update_of_ne outside,
      Function.update_self]
  · rw [List.length_map, total]
  · apply HasArray.update_heap
    apply (holds.hasArray.update_heap address _).update_row
      ((Function.update_of_ne outside ..).trans row)
    simp

/-- The new buffer, once the old one is gone. -/
theorem Holds.relocated (holds : Holds type name vector objects storage)
    {address newCap : Nat} {spare : Cells T} {left : Option (Cells T)}
    (row : storage vector.begin = some (living objects ++ spare))
    (unused : storage (.heap address) = none)
    (outside : vector.begin ≠ .heap address)
    (larger : type.smallSize < newCap) (room : objects.length ≤ newCap)
    (fits : type.elementSize * newCap ≤ ptrdiffMax)
    (inside : vector.begin = type.array name →
      ∃ cells, left = some cells ∧ cells.length = type.smallSize) :
    Becomes type name vector storage objects
      (⟨.heap address, objects.length, newCap⟩,
        Function.update
          (movedTo type address newCap vector.begin objects spare storage)
          vector.begin left) := by
  constructor <;> dsimp only
  case holds =>
    refine ⟨rfl, ⟨List.replicate (newCap - objects.length) none, ?_, ?_⟩,
      Or.inr ⟨⟨address, rfl⟩, larger, fits⟩, ?_⟩
    · rw [Function.update_of_ne outside.symm, movedTo, Function.update_self]
    · rw [List.length_replicate, Nat.add_sub_cancel' room]
    · exact (holds.moved row outside).hasArray.update inside
  case confined =>
    constructor
    case kept =>
      intro place content foreign stored
      have notBegin : place ≠ vector.begin := by
        rintro rfl
        exact foreign (begin_mem_owned type name vector)
      have notNew : place ≠ .heap address := by
        rintro rfl
        rw [unused] at stored
        cases stored
      rw [Function.update_of_ne notBegin, movedTo,
        Function.update_of_ne notNew, Function.update_of_ne notBegin,
        Function.update_of_ne notNew, stored]
    case acquired =>
      rintro place (rfl | rfl)
      · exact Or.inl (Or.inl rfl)
      · exact Or.inr unused

/--
Elements that are trivial to destroy stay in the array as the move has left
them.
-/
theorem Holds.setCapacity_returns
    (holds : Holds type name vector objects storage)
    {newCap : Nat} (larger : type.smallSize < newCap)
    (room : objects.length ≤ newCap)
    (noWrap : type.elementSize * newCap < sizeLimit) :
    Returns
      (fun result =>
        result.1.capacity = newCap ∧
        Becomes type name vector storage objects result ∧
        (type.isTriviallyDestructible = true →
          vector.begin = type.array name →
          ∃ spare, result.2 vector.begin =
            some (living (objects.map type.movedFrom) ++ spare)))
      (setCapacity type name offer newCap vector storage) := by
  rw [setCapacity, Nat.mod_eq_of_lt noWrap]
  cases found : malloc type offer (type.elementSize * newCap) storage with
  | none => exact rfl
  | some allocated =>
      rcases allocated with ⟨start, between⟩
      rcases malloc_some found with ⟨⟨address, rfl⟩, unused, fits, rfl⟩
      rw [Nat.mul_div_cancel_left newCap type.elementSize_pos]
      rcases holds.row with ⟨spare, row, -⟩
      have outside : vector.begin ≠ .heap address := by
        intro same
        rw [same, unused] at row
        cases row
      have moved : Holds type name vector (objects.map type.movedFrom)
          (movedTo type address newCap vector.begin objects spare storage) :=
        holds.moved row outside
      rcases moved.dtor_ok with ⟨left, done, inside⟩
      simp only [holds.size_eq, transferRange_movedTo row outside room,
        defined, Bind.bind, Except.bind, done]
      refine ⟨rfl, ?_, ?_⟩
      · apply holds.relocated row unused outside larger room fits
        intro same
        rcases inside same with ⟨cells, there, whole, -⟩
        exact ⟨cells, there, whole⟩
      · intro trivially same
        rcases inside same with ⟨cells, rfl, -, unchanged⟩
        refine ⟨spare, (Function.update_self ..).trans ?_⟩
        rw [← unchanged trivially, movedTo, Function.update_of_ne outside,
          Function.update_self]

theorem Holds.growForSize_returns
    (holds : Holds type name vector objects storage) {newSize : Nat}
    (noWrap : vector.capacity < newSize →
      type.elementSize * newSize < sizeLimit) :
    Returns
      (fun result =>
        newSize ≤ result.1.capacity ∧
        Becomes type name vector storage objects result)
      (growForSize type name offer newSize vector storage) := by
  rw [growForSize]
  split
  case isTrue tooSmall =>
    rcases holds.growth tooSmall (noWrap tooSmall) with ⟨larger, room, fits⟩
    apply (holds.setCapacity_returns larger room fits).weaken
    rintro result ⟨capacity, becomes, -⟩
    exact ⟨capacity.symm ▸ Nat.le_max_left .., becomes⟩
  case isFalse enough =>
    exact ⟨Nat.le_of_not_lt enough, Becomes.refl holds⟩

/--
References into other vectors stay good.  Those to an element of the vector
itself do if it does not grow, or if it leaves the array and neither the move
nor the destruction has changed the element.
-/
theorem Holds.growForSize_reads
    (holds : Holds type name vector objects storage) {newSize : Nat}
    (noWrap : vector.capacity < newSize →
      type.elementSize * newSize < sizeLimit)
    {place : Place Name} {index : Nat} {object : T}
    (there : objectAt storage place index = some object)
    (good :
      place ∉ owned type name vector ∨
        place = vector.begin ∧ objects[index]? = some object ∧
          (newSize ≤ vector.capacity ∨
            vector.begin = type.array name ∧
              type.isTriviallyDestructible = true ∧
              type.movedFrom object = object)) :
    Returns (fun result => objectAt result.2 place index = some object)
      (growForSize type name offer newSize vector storage) := by
  rcases good with foreign | ⟨rfl, element, still | ⟨inside, trivially, same⟩⟩
  · apply (holds.growForSize_returns noWrap).weaken
    rintro result ⟨-, becomes⟩
    cases row : storage place with
    | none => simp [objectAt, row] at there
    | some cells =>
        have kept := becomes.confined.kept place cells foreign row
        rwa [objectAt, kept, ← row, ← objectAt]
  · rw [growForSize, if_neg (Nat.not_lt.mpr still)]
    exact there
  · rw [growForSize]
    split
    case isTrue tooSmall =>
      rcases holds.growth tooSmall (noWrap tooSmall) with ⟨larger, room, fits⟩
      apply (holds.setCapacity_returns larger room fits).weaken
      rintro result ⟨-, -, left⟩
      rcases left trivially inside with ⟨spare, row⟩
      have within : index < (objects.map type.movedFrom).length := by
        rw [List.length_map]
        exact (List.getElem?_eq_some_iff.mp element).1
      rw [objectAt_living row within, List.getElem?_map, element,
        Option.map_some, same]
    case isFalse => exact there

end Anbox.Common.SmallVector
