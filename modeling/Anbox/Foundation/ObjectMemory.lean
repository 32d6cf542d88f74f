import Mathlib.Logic.Function.Basic
import Mathlib.Data.List.Basic

/-!
# Objects in raw storage

Storage comes in pieces, each of which has a row of cells.  A cell holds a
living object or is empty.  Programs that manage the lifetime of their objects
themselves read, construct and destroy them cell by cell; an access outside of
the storage, or to an object that is not there, is not defined, which is
`none`.

The specifications describe the row of a piece as its objects between what
stands in front of them and what stands behind them.
-/

namespace Anbox.Foundation.ObjectMemory

universe u

/-- The cells of a piece of storage. -/
abbrev Cells (Object : Type u) := List (Option Object)

/-- The pieces of storage that there are. -/
abbrev Store (Place Object : Type u) :=
  Place → Option (Cells Object)

variable {Place Object : Type u}

/-- Cells that hold these objects. -/
def living (objects : List Object) : Cells Object :=
  objects.map some

@[simp]
theorem living_nil : living ([] : List Object) = [] :=
  rfl

@[simp]
theorem living_cons (object : Object) (objects : List Object) :
    living (object :: objects) = some object :: living objects :=
  rfl

@[simp]
theorem living_append (first second : List Object) :
    living (first ++ second) = living first ++ living second :=
  List.map_append

@[simp]
theorem length_living (objects : List Object) :
    (living objects).length = objects.length :=
  List.length_map some

/-- The object in a cell. -/
def objectAt (store : Store Place Object) (place : Place) (index : Nat) :
    Option Object :=
  (store place).bind fun cells => cells[index]?.join

/-- The objects in `count` cells. -/
def objectsAt (store : Store Place Object) (place : Place) :
    Nat → Nat → Option (List Object)
  | _, 0 => some []
  | first, count + 1 => do
      let object ← objectAt store place first
      let objects ← objectsAt store place (first + 1) count
      some (object :: objects)

theorem objectAt_living {store : Store Place Object} {place : Place}
    {objects : List Object} {spare : Cells Object}
    (row : store place = some (living objects ++ spare)) {index : Nat}
    (inside : index < objects.length) :
    objectAt store place index = objects[index]? := by
  have within : index < (living objects).length := by simpa using inside
  rw [objectAt, row, Option.bind_some, List.getElem?_append_left within,
    living, List.getElem?_map]
  cases objects[index]? <;> rfl

theorem objectsAt_between {store : Store Place Object} {place : Place}
    {front back : Cells Object} {objects : List Object}
    (row : store place = some (front ++ living objects ++ back)) :
    objectsAt store place front.length objects.length = some objects := by
  induction objects generalizing front with
  | nil => rfl
  | cons object objects inductionHypothesis =>
      have first : objectAt store place front.length = some object := by
        simp [objectAt, row]
      have rest :
          objectsAt store place (front.length + 1) objects.length =
            some objects := by
        have next :=
          @inductionHypothesis (front ++ [some object]) (by simp [row])
        rwa [List.length_append] at next
      simp [objectsAt, first, rest]

theorem objectsAt_living {store : Store Place Object} {place : Place}
    {objects : List Object} {spare : Cells Object}
    (row : store place = some (living objects ++ spare)) :
    objectsAt store place 0 objects.length = some objects :=
  @objectsAt_between _ _ _ _ [] spare objects row

theorem take_append_drop_row {store : Store Place Object} {place : Place}
    {front spare : Cells Object} (row : store place = some (front ++ spare))
    (count : Nat) :
    store place = some (front ++ spare.take count ++ spare.drop count) := by
  rw [row, List.append_assoc, List.take_append_drop]

variable [DecidableEq Place]

/-- Construct an object in a cell, or leave the cell empty. -/
def write (store : Store Place Object) (place : Place) (index : Nat)
    (cell : Option Object) : Option (Store Place Object) :=
  (store place).bind fun cells =>
    if index < cells.length then
      some (Function.update store place (some (cells.set index cell)))
    else none

theorem write_between {store : Store Place Object} {place : Place}
    {front back : Cells Object} {old : Option Object}
    (row : store place = some (front ++ old :: back))
    (cell : Option Object) :
    write store place front.length cell =
      some (Function.update store place (some (front ++ cell :: back))) := by
  simp [write, row]

/-! ## Ranges of cells -/

/-- Construct `count` copies of an object. -/
def fillRange (object : Object) (place : Place) :
    Nat → Nat → Store Place Object → Option (Store Place Object)
  | _, 0, store => some store
  | first, count + 1, store => do
      let store ← write store place first (some object)
      fillRange object place (first + 1) count store

/-- Destroy the objects in `count` cells. -/
def destroyRange (place : Place) :
    Nat → Nat → Store Place Object → Option (Store Place Object)
  | _, 0, store => some store
  | first, count + 1, store => do
      let _ ← objectAt store place first
      let store ← write store place first none
      destroyRange place (first + 1) count store

/--
Construct `count` objects from those in the cells of another piece.  `leaves`
says what that does to the objects they are made from.
-/
def transferRange (leaves : Object → Object) (source target : Place) :
    Nat → Nat → Nat → Store Place Object → Option (Store Place Object)
  | _, _, 0, store => some store
  | first, position, count + 1, store => do
      let object ← objectAt store source first
      let store ← write store target position (some object)
      let store ← write store source first (some (leaves object))
      transferRange leaves source target (first + 1) (position + 1) count
        store

theorem fillRange_between (object : Object) {store : Store Place Object}
    {place : Place} {front old back : Cells Object}
    (row : store place = some (front ++ old ++ back)) :
    fillRange object place front.length old.length store =
      some (Function.update store place
        (some (front ++ living (List.replicate old.length object) ++
          back))) := by
  induction old generalizing front store with
  | nil =>
      rw [List.append_nil] at row
      simp [fillRange, ← row]
  | cons cell old inductionHypothesis =>
      rw [List.append_assoc, List.cons_append] at row
      have next :=
        @inductionHypothesis
          (Function.update store place
            (some (front ++ some object :: (old ++ back))))
          (front ++ [some object]) (by simp)
      rw [List.length_append, Function.update_idem] at next
      simp only [List.length_cons, fillRange, write_between row]
      refine next.trans ?_
      simp [List.replicate_succ]

theorem destroyRange_between {store : Store Place Object} {place : Place}
    {front back : Cells Object} {objects : List Object}
    (row : store place = some (front ++ living objects ++ back)) :
    destroyRange place front.length objects.length store =
      some (Function.update store place
        (some (front ++ List.replicate objects.length none ++ back))) := by
  induction objects generalizing front store with
  | nil =>
      rw [living_nil, List.append_nil] at row
      simp [destroyRange, ← row]
  | cons object objects inductionHypothesis =>
      rw [List.append_assoc, living_cons, List.cons_append] at row
      have present : objectAt store place front.length = some object := by
        simp [objectAt, row]
      have next :=
        @inductionHypothesis
          (Function.update store place
            (some (front ++ none :: (living objects ++ back))))
          (front ++ [none]) (by simp)
      rw [List.length_append, Function.update_idem] at next
      simp only [List.length_cons, destroyRange, present, write_between row]
      refine next.trans ?_
      simp [List.replicate_succ]

/-- Rewriting two different pieces again leaves the last rows. -/
theorem update_pair_again {store : Store Place Object}
    {source target : Place} (distinct : source ≠ target)
    (first second third fourth : Option (Cells Object)) :
    Function.update (Function.update
        (Function.update (Function.update store target first) source second)
        source third) target fourth =
      Function.update (Function.update store source third) target fourth := by
  have swapped :
      Function.update (Function.update store target first) source third =
        Function.update (Function.update store source third) target first :=
    Function.update_comm distinct.symm first third store
  rw [Function.update_idem, swapped, Function.update_idem]

theorem transferRange_between (leaves : Object → Object)
    {store : Store Place Object} {source target : Place}
    (distinct : source ≠ target)
    {before after front old back : Cells Object} {objects : List Object}
    (sourceRow : store source = some (before ++ living objects ++ after))
    (targetRow : store target = some (front ++ old ++ back))
    (fits : old.length = objects.length) :
    transferRange leaves source target before.length front.length
        objects.length store =
      some (Function.update
        (Function.update store source
          (some (before ++ living (objects.map leaves) ++ after)))
        target (some (front ++ living objects ++ back))) := by
  induction objects generalizing before front old store with
  | nil =>
      rw [List.length_nil, List.length_eq_zero_iff] at fits
      rw [fits, List.append_nil] at targetRow
      rw [living_nil, List.append_nil] at sourceRow
      simp [transferRange, ← sourceRow, ← targetRow]
  | cons object objects inductionHypothesis =>
      cases old with
      | nil => cases fits
      | cons cell old =>
          rw [List.append_assoc, living_cons, List.cons_append] at sourceRow
          rw [List.append_assoc, List.cons_append] at targetRow
          have present : objectAt store source before.length = some object := by
            simp [objectAt, sourceRow]
          have constructed := write_between targetRow (some object)
          have left :=
            @write_between _ _ _
              (Function.update store target
                (some (front ++ some object :: (old ++ back))))
              source before (living objects ++ after) (some object)
              ((Function.update_of_ne distinct _ _).trans sourceRow)
              (some (leaves object))
          have next :=
            @inductionHypothesis
              (Function.update
                (Function.update store target
                  (some (front ++ some object :: (old ++ back))))
                source
                (some (before ++ some (leaves object) ::
                  (living objects ++ after))))
              (before ++ [some (leaves object)]) (front ++ [some object]) old
              (by simp) (by simp [Function.update_of_ne distinct.symm])
              (Nat.succ.inj fits)
          rw [List.length_append, List.length_append,
            update_pair_again distinct] at next
          simp only [List.length_cons, transferRange, present,
            Option.bind_eq_bind, Option.bind_some, constructed, left]
          refine next.trans ?_
          simp

/-! ## Rows with room behind the objects -/

variable {store : Store Place Object} {source target : Place}
  {objects : List Object} {front spare after : Cells Object}

theorem fillRange_append (object : Object)
    (row : store target = some (front ++ spare)) {count : Nat}
    (room : count ≤ spare.length) :
    fillRange object target front.length count store =
      some (Function.update store target
        (some (front ++ living (List.replicate count object) ++
          spare.drop count))) := by
  have done := fillRange_between object (take_append_drop_row row count)
  rwa [List.length_take_of_le room] at done

theorem transferRange_append (leaves : Object → Object)
    (distinct : source ≠ target)
    (sourceRow : store source = some (living objects ++ after))
    (targetRow : store target = some (front ++ spare))
    (room : objects.length ≤ spare.length) :
    transferRange leaves source target 0 front.length objects.length store =
      some (Function.update
        (Function.update store source
          (some (living (objects.map leaves) ++ after)))
        target
        (some (front ++ living objects ++ spare.drop objects.length))) :=
  @transferRange_between _ _ _ leaves _ _ _ distinct [] _ _ _ _ _ sourceRow
    (take_append_drop_row targetRow objects.length)
    (List.length_take_of_le room)

theorem transferRange_empty (leaves : Object → Object)
    (distinct : source ≠ target)
    (sourceRow : store source = some (living objects ++ after))
    (targetRow : store target = some spare)
    (room : objects.length ≤ spare.length) :
    transferRange leaves source target 0 0 objects.length store =
      some (Function.update
        (Function.update store source
          (some (living (objects.map leaves) ++ after)))
        target (some (living objects ++ spare.drop objects.length))) :=
  @transferRange_append _ _ _ _ _ _ _ [] _ _ leaves distinct sourceRow
    targetRow room

end Anbox.Foundation.ObjectMemory
