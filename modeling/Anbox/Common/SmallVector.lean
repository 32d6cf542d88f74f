import Anbox.Foundation.Fallible
import Anbox.Foundation.ObjectMemory
import Mathlib.Algebra.Order.Ring.Nat

/-!
# Small vectors

`SmallFixedVector` is a vector that keeps its elements in an array of
`SmallSize` cells inside of itself.  Only if these do not suffice, it allocates
a buffer; a move takes such a buffer over from the other vector.

The methods work on the members of the vector and on the storage.  Reading an
object that is not alive, constructing one outside of the storage, and giving
back a buffer twice is undefined behaviour in C++ and ends a run of the model;
so does `abort`, which is how the vector reacts if there is no memory.
-/

namespace Anbox.Common.SmallVector

open Anbox.Foundation.Fallible
open Anbox.Foundation.ObjectMemory

universe u

/-! ## Elements and pointers -/

/-- The number of values of `size_t`. -/
def sizeLimit : Nat := 2 ^ 64

/-- `PTRDIFF_MAX`; no array and no allocated buffer has more bytes. -/
def ptrdiffMax : Nat := 2 ^ 63 - 1

/-- `alignof(size_t)` -/
def sizeAlignment : Nat := 8

/-- `sizeof(SmallVector<T>)`: the members are two pointers and a `size_t`. -/
def baseSize : Nat := 24

/-- `SmallFixedVector<T, SmallSize>` for one `T` and one `SmallSize`. -/
structure VectorType (T : Type u) where
  /-- `sizeof(T)` -/
  elementSize : Nat
  /-- `alignof(T)` -/
  alignment : Nat
  /-- `std::is_trivially_destructible<T>::value` -/
  isTriviallyDestructible : Bool
  /-- `T()` -/
  default : T
  /-- What an object holds after another one was made from it by a move. -/
  movedFrom : T → T
  smallSize : Nat
  elementSize_pos : 0 < elementSize
  /-- `alignas(size_type)` admits no `T` with a stricter alignment. -/
  alignment_dvd : alignment ∣ sizeAlignment
  smallSize_pos : 1 ≤ smallSize
  /-- `T array[kSmallSize]` is a type. -/
  array_fits : elementSize * smallSize ≤ ptrdiffMax

variable {T Name : Type u}

/-- `offsetof(SmallFixedVector, mData)`: the next multiple of the alignment. -/
def VectorType.dataOffset (type : VectorType T) : Nat :=
  let alignment := max sizeAlignment type.alignment
  (baseSize + alignment - 1) / alignment * alignment

/-- What a pointer to elements points to the start of. -/
inductive Place (Name : Type u) where
  /-- The part of a vector object that begins at this offset. -/
  | member (name : Name) (offset : Nat)
  /-- A buffer from `malloc`. -/
  | heap (address : Nat)
deriving DecidableEq

/-- The members of a `SmallVector`; `mEnd` is `size` elements after `mBegin`. -/
structure Members (Name : Type u) where
  begin : Place Name
  size : Nat
  capacity : Nat
deriving DecidableEq

abbrev Storage (Name T : Type u) := Store (Place Name) T

/-- How a run of the program ends early. -/
inductive Ending where
  | aborted
  | undefined
deriving DecidableEq, Repr

/-- An access is undefined behaviour unless it has a result. -/
def defined {Result : Type u} (result : Option Result) :
    Except Ending Result :=
  match result with
  | some value => .ok value
  | none => .error .undefined

/-- A method returns what is wanted, or it finds no memory. -/
abbrev Returns {Result : Type u} (Wanted : Result → Prop) :
    Except Ending Result → Prop :=
  Ensures (fun ending => ending = Ending.aborted) Wanted

/-- `&mCapacity + 1` -/
def smallBufferStart (name : Name) : Place Name :=
  .member name baseSize

/-- `mData.array` -/
def VectorType.array (type : VectorType T) (name : Name) : Place Name :=
  .member name type.dataOffset

section Methods

variable [DecidableEq Name] (type : VectorType T) (name : Name)

/-! ## The methods of `SmallVector`

`name` is the vector that a method is called on.  `offer` is the address of
the free memory that `malloc` would find during the call, if it finds any.
-/

def isAllocated (vector : Members Name) : Prop :=
  vector.begin ≠ smallBufferStart name

instance (vector : Members Name) :
    Decidable (isAllocated name vector) :=
  inferInstanceAs (Decidable (vector.begin ≠ smallBufferStart name))

/-- `destruct`, for the `count` elements from `first` on. -/
def destruct (start : Place Name) (first count : Nat)
    (storage : Storage Name T) : Except Ending (Storage Name T) :=
  if type.isTriviallyDestructible then .ok storage
  else defined (destroyRange start first count storage)

/-- `free`: only what came from `malloc` can be given back, and only once. -/
def free (start : Place Name) (storage : Storage Name T) :
    Except Ending (Storage Name T) :=
  match start, storage start with
  | .heap address, some _ =>
      .ok (Function.update storage (.heap address) none)
  | _, _ => .error .undefined

/-- `malloc`: memory that is in use is never handed out. -/
def malloc (offer : Option Nat) (bytes : Nat) (storage : Storage Name T) :
    Option (Place Name × Storage Name T) :=
  match offer with
  | none => none
  | some address =>
      if (storage (.heap address)).isSome ∨ ptrdiffMax < bytes then none
      else
        some (.heap address,
          Function.update storage (.heap address)
            (some (List.replicate (bytes / type.elementSize) none)))

def dtor (vector : Members Name) (storage : Storage Name T) :
    Except Ending (Storage Name T) := do
  let storage ← destruct type vector.begin 0 vector.size storage
  if isAllocated name vector then free vector.begin storage else .ok storage

def setCapacity (offer : Option Nat) (newCap : Nat)
    (vector : Members Name) (storage : Storage Name T) :
    Except Ending (Members Name × Storage Name T) :=
  match malloc type offer (type.elementSize * newCap % sizeLimit) storage with
  | none => .error .aborted
  | some (newBegin, storage) => do
      let storage ← defined (transferRange type.movedFrom vector.begin
        newBegin 0 0 vector.size storage)
      let storage ← dtor type name vector storage
      .ok (⟨newBegin, vector.size, newCap⟩, storage)

def growForSize (offer : Option Nat) (newSize : Nat)
    (vector : Members Name) (storage : Storage Name T) :
    Except Ending (Members Name × Storage Name T) :=
  if vector.capacity < newSize then
    setCapacity type name offer
      (max newSize ((vector.capacity + vector.capacity / 2) % sizeLimit))
      vector storage
  else .ok (vector, storage)

/--
`construct` is what the constructor of the element makes of the arguments, which
may be references into the storage.
-/
def emplaceBack (offer : Option Nat) (construct : Storage Name T → Option T)
    (vector : Members Name) (storage : Storage Name T) :
    Except Ending (Members Name × Storage Name T) := do
  let (vector, storage) ← growForSize type name offer
    ((vector.size + 1) % sizeLimit) vector storage
  let object ← defined (construct storage)
  let storage ← defined (write storage vector.begin vector.size (some object))
  .ok ({ vector with size := vector.size + 1 }, storage)

def clear (vector : Members Name) (storage : Storage Name T) :
    Except Ending (Members Name × Storage Name T) := do
  let storage ← destruct type vector.begin 0 vector.size storage
  .ok ({ vector with size := 0 }, storage)

def reserve (offer : Option Nat) (newCap : Nat)
    (vector : Members Name) (storage : Storage Name T) :
    Except Ending (Members Name × Storage Name T) :=
  if newCap ≤ vector.capacity then .ok (vector, storage)
  else setCapacity type name offer newCap vector storage

/-- `resize_impl<true>` -/
def resize (offer : Option Nat) (newSize : Nat)
    (vector : Members Name) (storage : Storage Name T) :
    Except Ending (Members Name × Storage Name T) :=
  if newSize < vector.size then do
    let storage ← destruct type vector.begin newSize (vector.size - newSize)
      storage
    .ok ({ vector with size := newSize }, storage)
  else if vector.size < newSize then do
    let (vector, storage) ← growForSize type name offer newSize vector storage
    let storage ← defined (fillRange type.default vector.begin vector.size
      (newSize - vector.size) storage)
    .ok ({ vector with size := newSize }, storage)
  else .ok (vector, storage)

/-- `insert_back`, for the `count` elements at the start of a place. -/
def insertBack (offer : Option Nat) (source : Place Name) (count : Nat)
    (vector : Members Name) (storage : Storage Name T) :
    Except Ending (Members Name × Storage Name T) :=
  if count = 0 then .ok (vector, storage)
  else do
    let (vector, storage) ← growForSize type name offer
      ((vector.size + count) % sizeLimit) vector storage
    -- Copying does not change the elements that are copied.
    let storage ← defined (transferRange id source vector.begin 0 vector.size
      count storage)
    .ok ({ vector with size := vector.size + count }, storage)

/-! ## The methods of `SmallFixedVector` -/

/-- The members after `init_inplace`. -/
def initInplace : Members Name :=
  ⟨type.array name, 0, type.smallSize⟩

def copyConstruct (offer : Option Nat) (source : Members Name)
    (storage : Storage Name T) :
    Except Ending (Members Name × Storage Name T) :=
  insertBack type name offer source.begin source.size (initInplace type name)
    storage

/-- The members of the new vector and of the other one. -/
def moveConstruct (other : Name) (source : Members Name)
    (storage : Storage Name T) :
    Except Ending (Members Name × Members Name × Storage Name T) :=
  if isAllocated other source then
    .ok (source, initInplace type other, storage)
  else do
    let storage ← defined (transferRange type.movedFrom source.begin
      (type.array name) 0 0 source.size storage)
    .ok (⟨type.array name, source.size, type.smallSize⟩, source, storage)

/-- `operator=(const SmallFixedVector&)`; the other vector is not `*this`. -/
def copyAssign (offer : Option Nat) (source : Members Name)
    (vector : Members Name) (storage : Storage Name T) :
    Except Ending (Members Name × Storage Name T) := do
  let (vector, storage) ← clear type vector storage
  insertBack type name offer source.begin source.size vector storage

/-- The members of both vectors after `operator=(SmallFixedVector&&)`. -/
def moveAssign (other : Name) (vector source : Members Name)
    (storage : Storage Name T) :
    Except Ending (Members Name × Members Name × Storage Name T) :=
  if isAllocated other source then do
    let storage ← dtor type name vector storage
    .ok (source, initInplace type other, storage)
  else do
    let (vector, storage) ←
      if isAllocated name vector ∧ vector.capacity < source.size then do
        let storage ← dtor type name vector storage
        .ok (initInplace type name, storage)
      else do
        let storage ← destruct type vector.begin 0 vector.size storage
        .ok (vector, storage)
    let storage ← defined (transferRange type.movedFrom source.begin
      vector.begin 0 0 source.size storage)
    .ok ({ vector with size := source.size }, source, storage)

end Methods

end Anbox.Common.SmallVector
