import Anbox.Common.SmallVector

/-!
# Programs with small vectors

A program creates, uses and destroys any number of vectors.  It is compared
with a program on lists, which knows nothing of buffers and capacities.  What
is left in a vector after a move is not specified, so there the list may be any.
-/

namespace Anbox.Common.SmallVector

open Anbox.Foundation.Fallible
open Anbox.Foundation.ObjectMemory

universe u

variable {T Name : Type u}

/-! ## Programs -/

/-- What a `const T&` refers to. -/
inductive Argument (Name T : Type u) where
  /-- An object that is no element of a vector. -/
  | object (value : T)
  | element (name : Name) (index : Nat)

/-- `name` is the vector that a method is called on or that is constructed. -/
inductive Operation (Name T : Type u) where
  | construct (name : Name)
  | copyConstruct (name other : Name)
  | moveConstruct (name other : Name)
  | copyAssign (name other : Name)
  | moveAssign (name other : Name)
  | pushBack (name : Name) (argument : Argument Name T)
  /-- `build` is the constructor of the element. -/
  | emplaceBack (name : Name) (build : List T → T)
      (arguments : List (Argument Name T))
  | resize (name : Name) (newSize : Nat)
  | reserve (name : Name) (newCap : Nat)
  | clear (name : Name)
  | destroy (name : Name)

/-- An operation, and the free memory that `malloc` would find during it. -/
structure Call (Name T : Type u) where
  operation : Operation Name T
  offer : Option Nat

/-- The vectors that there are, and the storage. -/
structure Memory (Name T : Type u) where
  vectors : Name → Option (Members Name)
  storage : Storage Name T

/-- Before the first call the storage of the vectors is set aside. -/
def Memory.initial (type : VectorType T) : Memory Name T where
  vectors := fun _ => none
  storage
    | .member _ offset =>
        if offset = type.dataOffset then
          some (List.replicate type.smallSize none)
        else none
    | .heap _ => none

/-- The elements of a vector. -/
def Memory.contents (memory : Memory Name T) (name : Name) :
    Option (List T) :=
  (memory.vectors name).bind fun vector =>
    objectsAt memory.storage vector.begin 0 vector.size

/-- An argument as it is passed on. -/
inductive Reference (Name T : Type u) where
  | object (value : T)
  | cell (place : Place Name) (index : Nat)

def Argument.reference (memory : Memory Name T) :
    Argument Name T → Except Ending (Reference Name T)
  | .object value => .ok (.object value)
  | .element name index => do
      let vector ← defined (memory.vectors name)
      .ok (.cell vector.begin index)

/-- The object when it is read. -/
def Reference.value (storage : Storage Name T) :
    Reference Name T → Option T
  | .object value => some value
  | .cell place index => objectAt storage place index

variable [DecidableEq Name]

/-- Call a method that works on one vector. -/
def onVector (memory : Memory Name T) (name : Name)
    (method : Members Name → Storage Name T →
      Except Ending (Members Name × Storage Name T)) :
    Except Ending (Memory Name T) := do
  let vector ← defined (memory.vectors name)
  let (vector, storage) ← method vector memory.storage
  .ok ⟨Function.update memory.vectors name (some vector), storage⟩

def perform (type : VectorType T) (memory : Memory Name T)
    (call : Call Name T) : Except Ending (Memory Name T) :=
  match call.operation with
  | .construct name =>
      .ok { memory with
        vectors :=
          Function.update memory.vectors name (some (initInplace type name)) }
  | .copyConstruct name other => do
      let source ← defined (memory.vectors other)
      let (vector, storage) ←
        copyConstruct type name call.offer source memory.storage
      .ok ⟨Function.update memory.vectors name (some vector), storage⟩
  | .moveConstruct name other => do
      let source ← defined (memory.vectors other)
      let (vector, source, storage) ←
        moveConstruct type name other source memory.storage
      .ok ⟨Function.update
        (Function.update memory.vectors name (some vector)) other
        (some source), storage⟩
  | .copyAssign name other =>
      if name = other then .ok memory
      else do
        let source ← defined (memory.vectors other)
        onVector memory name (copyAssign type name call.offer source)
  | .moveAssign name other => do
      let vector ← defined (memory.vectors name)
      let source ← defined (memory.vectors other)
      let (vector, source, storage) ←
        moveAssign type name other vector source memory.storage
      .ok ⟨Function.update
        (Function.update memory.vectors name (some vector)) other
        (some source), storage⟩
  | .pushBack name argument => do
      let reference ← argument.reference memory
      onVector memory name
        (emplaceBack type name call.offer fun storage =>
          reference.value storage)
  | .emplaceBack name build arguments => do
      let references ← arguments.mapM (Argument.reference memory)
      onVector memory name
        (emplaceBack type name call.offer fun storage =>
          (references.mapM (Reference.value storage)).map build)
  | .resize name newSize =>
      onVector memory name (resize type name call.offer newSize)
  | .reserve name newCap =>
      onVector memory name (reserve type name call.offer newCap)
  | .clear name => onVector memory name (clear type)
  | .destroy name => do
      let vector ← defined (memory.vectors name)
      let storage ← dtor type name vector memory.storage
      .ok ⟨Function.update memory.vectors name none, storage⟩

/-- Nothing happens any more after the end of the program. -/
def step (type : VectorType T) (machine : Except Ending (Memory Name T))
    (call : Call Name T) : Except Ending (Memory Name T) := do
  let memory ← machine
  perform type memory call

/-! ## The same programs on lists -/

/-- The contents of the lists that there are. -/
abbrev Lists (Name T : Type u) := Name → Option (List T)

def Argument.listValue (lists : Lists Name T) : Argument Name T → Option T
  | .object value => some value
  | .element name index => (lists name).bind (·[index]?)

/-- `leftover` is what a moved-from list happens to hold. -/
def listStep (default : T) (leftover : List T) (lists : Lists Name T) :
    Operation Name T → Lists Name T
  | .construct name => Function.update lists name (some [])
  | .copyConstruct name other => Function.update lists name (lists other)
  | .moveConstruct name other =>
      Function.update (Function.update lists name (lists other)) other
        (some leftover)
  | .copyAssign name other => Function.update lists name (lists other)
  | .moveAssign name other =>
      Function.update (Function.update lists name (lists other)) other
        (some leftover)
  | .pushBack name argument =>
      Function.update lists name do
        let objects ← lists name
        let object ← argument.listValue lists
        some (objects ++ [object])
  | .emplaceBack name build arguments =>
      Function.update lists name do
        let objects ← lists name
        let values ← arguments.mapM (Argument.listValue lists)
        some (objects ++ [build values])
  | .resize name newSize =>
      Function.update lists name ((lists name).map fun objects =>
        objects.take newSize ++
          List.replicate (newSize - objects.length) default)
  | .reserve _ _ => lists
  | .clear name => Function.update lists name (some [])
  | .destroy name => Function.update lists name none

/-- What may come after the call. -/
def ListNext (type : VectorType T) (lists : Lists Name T)
    (call : Call Name T) (lists' : Lists Name T) : Prop :=
  ∃ leftover,
    lists' = listStep type.default leftover lists call.operation

/-- What a vector shows to its users, and the list that it stands for. -/
structure Agrees (type : VectorType T) (memory : Memory Name T)
    (lists : Lists Name T) : Prop where
  present : ∀ name, memory.vectors name = none ↔ lists name = none
  contents :
    ∀ name objects, lists name = some objects →
      memory.contents name = some objects
  size_le_capacity :
    ∀ name vector, memory.vectors name = some vector →
      vector.size ≤ vector.capacity
  smallSize_le_capacity :
    ∀ name vector, memory.vectors name = some vector →
      type.smallSize ≤ vector.capacity
  isAllocated_iff :
    ∀ name vector, memory.vectors name = some vector →
      (isAllocated name vector ↔ type.smallSize < vector.capacity)
  unshared :
    ∀ first second vector vector',
      memory.vectors first = some vector →
      memory.vectors second = some vector' →
      isAllocated first vector → vector.begin = vector'.begin →
      first = second

/-- What is shown of a program that may have been aborted. -/
def Refines (type : VectorType T) (machine : Except Ending (Memory Name T))
    (lists : Lists Name T) : Prop :=
  Returns (fun memory => Agrees type memory lists) machine

/-! ## Calls -/

/-- A reference to an element is one to an element that there is. -/
def Argument.Denotes (memory : Memory Name T) : Argument Name T → Prop
  | .object _ => True
  | .element name index =>
      ∃ vector, memory.vectors name = some vector ∧ index < vector.size

/-- Vectors are used while they live, and not assigned to themselves. -/
def WellFormed (memory : Memory Name T) : Operation Name T → Prop
  | .construct name => memory.vectors name = none
  | .copyConstruct name other | .moveConstruct name other =>
      memory.vectors name = none ∧ memory.vectors other ≠ none
  | .copyAssign name other | .moveAssign name other =>
      name ≠ other ∧ memory.vectors name ≠ none ∧ memory.vectors other ≠ none
  | .pushBack name argument =>
      memory.vectors name ≠ none ∧ argument.Denotes memory
  | .emplaceBack name _ arguments =>
      memory.vectors name ≠ none ∧
        ∀ argument ∈ arguments, argument.Denotes memory
  | .resize name _ | .reserve name _ | .clear name | .destroy name =>
      memory.vectors name ≠ none

/--
An argument is still there when the element is constructed: it is no element of
the vector itself, or the vector does not grow, or it leaves its array, where
neither the move nor the destruction changes the element.
-/
def Argument.Survives (type : VectorType T) (memory : Memory Name T)
    (name : Name) : Argument Name T → Prop
  | .object _ => True
  | .element other index =>
      other = name → ∀ vector, memory.vectors name = some vector →
        vector.size < vector.capacity ∨
          ¬isAllocated name vector ∧ type.isTriviallyDestructible = true ∧
            ∀ object,
              objectAt memory.storage vector.begin index = some object →
                type.movedFrom object = object

/-- No argument is lost, and the bytes of no requested buffer overflow. -/
def Harmless (type : VectorType T) (memory : Memory Name T) :
    Operation Name T → Prop
  | .pushBack name argument => argument.Survives type memory name
  | .emplaceBack name _ arguments =>
      ∀ argument ∈ arguments, argument.Survives type memory name
  | .resize name count | .reserve name count =>
      ∀ vector, memory.vectors name = some vector →
        vector.capacity < count → type.elementSize * count < sizeLimit
  | _ => True

/-- The calls of a program that has not ended. -/
def CallWellFormed (machine : Except Ending (Memory Name T))
    (call : Call Name T) : Prop :=
  ∀ memory, machine = .ok memory → WellFormed memory call.operation

def CallHarmless (type : VectorType T)
    (machine : Except Ending (Memory Name T)) (call : Call Name T) : Prop :=
  ∀ memory, machine = .ok memory →
    WellFormed memory call.operation ∧ Harmless type memory call.operation

end Anbox.Common.SmallVector
