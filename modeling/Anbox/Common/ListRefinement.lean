import Anbox.Common.VectorMethods
import Anbox.Common.VectorPrograms
import Anbox.Foundation.Simulation

/-!
# Small vectors are lists

Every vector has its own storage, and a method works on the storage of its own
vectors only, so that one vector after the other can be replaced by its list.
The comparison covers all programs in which no reference into a vector is
passed to a method that reallocates its buffer, and no requested buffer is
larger than what a `size_t` can count.
-/

namespace Anbox.Common.SmallVector

open Anbox.Foundation.Fallible
open Anbox.Foundation.Footprint
open Anbox.Foundation.ObjectMemory
open Anbox.Foundation.Runs
open Anbox.Foundation.Simulation

universe u

variable {T Name : Type u}

/-! ## Representation -/

/-- The members of a vector, or those that it will have at first. -/
def Memory.members (type : VectorType T) (memory : Memory Name T)
    (name : Name) : Members Name :=
  (memory.vectors name).getD (initInplace type name)

/-- The places that belong to a vector. -/
def Memory.places (type : VectorType T) (memory : Memory Name T)
    (name : Name) : Set (Place Name) :=
  owned type name (memory.members type name)

/-- A vector and its list, or the storage for a vector that there may be. -/
inductive Stored (type : VectorType T) (name : Name)
    (storage : Storage Name T) :
    Option (Members Name) → Option (List T) → Prop
  | absent : HasArray type name storage → Stored type name storage none none
  | present {vector : Members Name} {objects : List T} :
      Holds type name vector objects storage →
        Stored type name storage (some vector) (some objects)

/-- The lists stand for the vectors, which have no storage in common. -/
structure Represents (type : VectorType T) (memory : Memory Name T)
    (lists : Lists Name T) : Prop where
  stored :
    ∀ name,
      Stored type name memory.storage (memory.vectors name) (lists name)
  separate : Separate (memory.places type)

variable {type : VectorType T} {memory : Memory Name T} {lists : Lists Name T}
  {name other : Name}

theorem Stored.hasArray {storage : Storage Name T}
    {vector : Option (Members Name)} {list : Option (List T)}
    (stored : Stored type name storage vector list) :
    HasArray type name storage := by
  cases stored with
  | absent hasArray => exact hasArray
  | present holds => exact holds.hasArray

theorem members_none (absent : memory.vectors name = none) :
    memory.members type name = initInplace type name := by
  rw [Memory.members, absent, Option.getD_none]

theorem places_some {vector : Members Name}
    (there : memory.vectors name = some vector) :
    memory.places type name = owned type name vector := by
  rw [Memory.places, Memory.members, there, Option.getD_some]

theorem places_none (absent : memory.vectors name = none) :
    memory.places type name = owned type name (initInplace type name) := by
  rw [Memory.places, members_none absent]

theorem Stored.live (stored :
      Stored type name memory.storage (memory.vectors name) (lists name))
    {place : Place Name} (own : place ∈ memory.places type name) :
    memory.storage place ≠ none := by
  unfold Memory.places Memory.members at own
  generalize memory.vectors name = vector at stored own
  generalize lists name = list at stored
  cases stored with
  | absent hasArray => exact (holds_initInplace hasArray).owned_live own
  | present holds => exact holds.owned_live own

/-- What a vector that takes no part is stored in has not changed. -/
theorem Stored.kept {storage' : Storage Name T}
    (stored :
      Stored type name memory.storage (memory.vectors name) (lists name))
    (same :
      ∀ place ∈ memory.places type name,
        storage' place = memory.storage place) :
    Stored type name storage' (memory.vectors name) (lists name) := by
  unfold Memory.places Memory.members at same
  generalize memory.vectors name = vector at stored same
  generalize lists name = list at stored
  cases stored with
  | absent hasArray =>
      exact Stored.absent ((holds_initInplace hasArray).congr same).hasArray
  | present holds => exact Stored.present (holds.congr same)

theorem represents_initial (type : VectorType T) :
    Represents type (Memory.initial type : Memory Name T) fun _ => none := by
  constructor
  case stored =>
    intro name
    exact Stored.absent ⟨List.replicate type.smallSize none, if_pos rfl,
      List.length_replicate⟩
  case separate =>
    intro first second place own own'
    rw [places_none rfl] at own own'
    rcases own with rfl | rfl <;> rcases own' with same | same <;>
      exact (Place.member.inj same).1

namespace Represents

theorem holds (represents : Represents type memory lists)
    {vector : Members Name} (there : memory.vectors name = some vector) :
    ∃ objects, lists name = some objects ∧
      Holds type name vector objects memory.storage := by
  have stored := represents.stored name
  rw [there] at stored
  generalize list : lists name = found at stored
  cases stored with
  | present holds => exact ⟨_, rfl, holds⟩

/-- The representation shows in what can be observed of the vectors. -/
theorem agrees (represents : Represents type memory lists) :
    Agrees type memory lists := by
  constructor
  case present =>
    intro name
    have stored := represents.stored name
    generalize memory.vectors name = vector at stored
    generalize lists name = list at stored
    cases stored <;> simp
  case contents =>
    intro name objects list
    have stored := represents.stored name
    rw [list] at stored
    unfold Memory.contents
    generalize memory.vectors name = vector at stored
    cases stored with
    | present holds =>
        rcases holds.row with ⟨spare, row, -⟩
        rw [Option.bind_some, holds.size_eq]
        exact objectsAt_living row
  case size_le_capacity =>
    intro name vector there
    rcases represents.holds there with ⟨objects, -, holds⟩
    exact holds.size_eq.trans_le holds.length_le
  case smallSize_le_capacity =>
    intro name vector there
    rcases represents.holds there with ⟨objects, -, holds⟩
    exact holds.smallSize_le
  case isAllocated_iff =>
    intro name vector there
    rcases represents.holds there with ⟨objects, -, holds⟩
    exact holds.isAllocated_iff_lt
  case unshared =>
    intro first second vector vector' there there' _ same
    apply represents.separate first second vector.begin
    · rw [places_some there]
      exact begin_mem_owned type first vector
    · rw [places_some there', same]
      exact begin_mem_owned type second vector'

theorem hasArray (represents : Represents type memory lists) (name : Name) :
    HasArray type name memory.storage :=
  (represents.stored name).hasArray

theorem live (represents : Represents type memory lists)
    (present : memory.vectors name ≠ none) :
    ∃ vector objects,
      memory.vectors name = some vector ∧ lists name = some objects ∧
        Holds type name vector objects memory.storage := by
  rcases Option.ne_none_iff_exists'.mp present with ⟨vector, there⟩
  rcases represents.holds there with ⟨objects, list, holds⟩
  exact ⟨vector, objects, there, list, holds⟩

/-- The buffer of a vector belongs to no other one. -/
theorem begin_not_owned (represents : Represents type memory lists)
    {source : Members Name} (there : memory.vectors other = some source)
    (distinct : other ≠ name) :
    source.begin ∉ memory.places type name := by
  intro own
  apply distinct
  apply represents.separate other name source.begin _ own
  rw [places_some there]
  exact begin_mem_owned type other source

/-- The vectors that take part in a call are replaced. -/
theorem change (represents : Represents type memory lists)
    {memory' : Memory Name T} {lists' : Lists Name T} {movers : Set Name}
    {before after : Set (Place Name)}
    (confined : Confined before memory.storage after memory'.storage)
    (within :
      ∀ place, place ∈ before →
        ∃ owner ∈ movers, place ∈ memory.places type owner)
    (inside : ∀ owner ∈ movers, memory'.places type owner ⊆ after)
    (apart :
      ∀ first ∈ movers, ∀ second ∈ movers, ∀ place,
        place ∈ memory'.places type first →
        place ∈ memory'.places type second → first = second)
    (others :
      ∀ owner ∉ movers, memory'.vectors owner = memory.vectors owner ∧
        lists' owner = lists owner)
    (replaced :
      ∀ owner ∈ movers,
        Stored type owner memory'.storage (memory'.vectors owner)
          (lists' owner)) :
    Represents type memory' lists' := by
  constructor
  case stored =>
    intro owner
    by_cases moves : owner ∈ movers
    · exact replaced owner moves
    · rw [(others owner moves).1, (others owner moves).2]
      apply (represents.stored owner).kept
      intro place own
      cases content : memory.storage place with
      | none => exact absurd content ((represents.stored owner).live own)
      | some cells =>
          exact confined.untouched represents.separate within moves own content
  case separate =>
    have backed : Backed (memory.places type) memory.storage :=
      fun owner place own => (represents.stored owner).live own
    apply confined.separate represents.separate backed within _ inside apart
    intro owner stays
    rw [Memory.places, Memory.members, (others owner stays).1, ← Memory.members,
      ← Memory.places]

variable [DecidableEq Name]

/-- Only one vector takes part, which may be new or be gone afterwards. -/
theorem changeOne (represents : Represents type memory lists)
    {vector : Option (Members Name)} {list : Option (List T)}
    {storage : Storage Name T}
    (confined :
      Confined (memory.places type name) memory.storage
        (owned type name (vector.getD (initInplace type name))) storage)
    (stored : Stored type name storage vector list) :
    Represents type ⟨Function.update memory.vectors name vector, storage⟩
      (Function.update lists name list) := by
  have within : ∀ place, place ∈ memory.places type name →
      ∃ owner ∈ ({name} : Set Name), place ∈ memory.places type owner :=
    fun place own => ⟨name, rfl, own⟩
  apply represents.change confined within
  case inside =>
    rintro owner rfl
    simp [Memory.places, Memory.members]
  case apart =>
    rintro first rfl second rfl place - -
    rfl
  case others =>
    intro owner stays
    exact ⟨Function.update_of_ne stays .., Function.update_of_ne stays ..⟩
  case replaced =>
    rintro owner rfl
    simpa using stored

/-- A method of one vector, which may be the constructor. -/
theorem one (represents : Represents type memory lists) {objects : List T}
    {result : Members Name × Storage Name T}
    (becomes :
      Becomes type name (memory.members type name) memory.storage objects
        result) :
    Represents type
      ⟨Function.update memory.vectors name (some result.1), result.2⟩
      (Function.update lists name (some objects)) :=
  represents.changeOne becomes.confined (Stored.present becomes.holds)

/-- A move from one vector to another one, which may be new. -/
theorem two (represents : Represents type memory lists)
    (distinct : name ≠ other) {elements : List T}
    {result : Members Name × Members Name × Storage Name T}
    (moved :
      Moved type name other
        (memory.places type name ∪ memory.places type other) memory.storage
        elements result) :
    ∃ leftover,
      Represents type
        ⟨Function.update
          (Function.update memory.vectors name (some result.1)) other
          (some result.2.1), result.2.2⟩
        (Function.update (Function.update lists name (some elements)) other
          (some leftover)) := by
  rcases moved.source with ⟨leftover, left⟩
  refine ⟨leftover, ?_⟩
  have within : ∀ place,
      place ∈ memory.places type name ∪ memory.places type other →
        ∃ owner ∈ ({name, other} : Set Name),
          place ∈ memory.places type owner := by
    rintro place (own | own)
    · exact ⟨name, Or.inl rfl, own⟩
    · exact ⟨other, Or.inr rfl, own⟩
  have first : Function.update
      (Function.update memory.vectors name (some result.1)) other
      (some result.2.1) name = some result.1 := by
    rw [Function.update_of_ne distinct, Function.update_self]
  have second : Function.update
      (Function.update memory.vectors name (some result.1)) other
      (some result.2.1) other = some result.2.1 :=
    Function.update_self ..
  apply represents.change moved.confined within
  case inside =>
    rintro owner (rfl | rfl)
    · rw [places_some first]
      exact Set.subset_union_left
    · rw [places_some second]
      exact Set.subset_union_right
  case apart =>
    have separate := Set.disjoint_left.mp moved.apart
    rintro _ (rfl | rfl) _ (rfl | rfl) place own own'
    · rfl
    · rw [places_some first] at own
      rw [places_some second] at own'
      exact absurd own' (separate own)
    · rw [places_some second] at own
      rw [places_some first] at own'
      exact absurd own (separate own')
    · rfl
  case others =>
    intro owner stays
    rw [Set.mem_insert_iff, Set.mem_singleton_iff, not_or] at stays
    simp [Function.update_of_ne stays.1, Function.update_of_ne stays.2]
  case replaced =>
    rintro owner (rfl | rfl) <;> dsimp only
    · rw [first, Function.update_of_ne distinct, Function.update_self]
      exact Stored.present moved.target
    · rw [second, Function.update_self]
      exact Stored.present left

/-- The end of the life of a vector. -/
theorem destroyed (represents : Represents type memory lists)
    {vector : Members Name} (there : memory.vectors name = some vector)
    {left : Option (Cells T)}
    (inside : vector.begin = type.array name →
      ∃ cells, left = some cells ∧ cells.length = type.smallSize) :
    Represents type
      ⟨Function.update memory.vectors name none,
        Function.update memory.storage vector.begin left⟩
      (Function.update lists name none) := by
  rcases represents.holds there with ⟨objects, -, holds⟩
  have confined : Confined (memory.places type name) memory.storage
      (owned type name (initInplace type name))
      (Function.update memory.storage vector.begin left) := by
    rw [places_some there]
    refine Confined.update (begin_mem_owned type name vector) ?_ left
    rintro place (rfl | rfl) <;> exact Or.inl rfl
  exact represents.changeOne confined
    (Stored.absent (holds.hasArray.update inside))

/-! ## Calls -/

theorem created (represents : Represents type memory lists)
    (absent : memory.vectors name = none) :
    Represents type
      { memory with
        vectors :=
          Function.update memory.vectors name (some (initInplace type name)) }
      (Function.update lists name (some [])) := by
  have becomes := Becomes.refl (holds_initInplace (represents.hasArray name))
  rw [← members_none absent] at becomes ⊢
  exact represents.one becomes

variable {offer : Option Nat} {vector : Members Name} {objects : List T}

/-- A method of one vector leaves nothing behind that is not specified. -/
theorem onVector (represents : Represents type memory lists)
    (there : memory.vectors name = some vector)
    {method : Members Name → Storage Name T →
      Except Ending (Members Name × Storage Name T)}
    (returns :
      Returns (Becomes type name vector memory.storage objects)
        (method vector memory.storage)) :
    Returns
      (fun memory' => ∃ _leftover : List T,
        Represents type memory' (Function.update lists name (some objects)))
      (SmallVector.onVector memory name method) := by
  have own : memory.members type name = vector := by
    rw [Memory.members, there, Option.getD_some]
  rw [← own] at returns
  rw [SmallVector.onVector, there, ← own]
  apply Ensures.bind returns
  rintro ⟨vector', storage'⟩ becomes
  exact ⟨[], represents.one becomes⟩

/-- An argument is the same object before the call and after the growth. -/
theorem argument (represents : Represents type memory lists)
    (there : memory.vectors name = some vector)
    (list : lists name = some objects)
    (holds : Holds type name vector objects memory.storage)
    {argument : Argument Name T} (denotes : argument.Denotes memory)
    (survives : argument.Survives type memory name) :
    ∃ reference object,
      argument.reference memory = .ok reference ∧
      argument.listValue lists = some object ∧
      Returns (fun grown => reference.value grown.2 = some object)
        (growForSize type name offer (vector.size + 1) vector
          memory.storage) := by
  have noWrap : vector.capacity < vector.size + 1 →
      type.elementSize * (vector.size + 1) < sizeLimit :=
    fun _ => holds.next_bytes_lt
  cases argument with
  | object value =>
      refine ⟨.object value, value, rfl, rfl, ?_⟩
      apply (holds.growForSize_returns noWrap).weaken
      exact fun _ _ => rfl
  | element other index =>
      rcases denotes with ⟨source, there', inside⟩
      rcases represents.holds there' with ⟨elements, list', holds'⟩
      rw [holds'.size_eq] at inside
      rcases holds'.row with ⟨spare, row, -⟩
      have found : objectAt memory.storage source.begin index =
          some elements[index] := by
        rw [objectAt_living row inside, List.getElem?_eq_getElem inside]
      refine ⟨.cell source.begin index, elements[index], ?_, ?_, ?_⟩
      · rw [Argument.reference, there']
        rfl
      · rw [Argument.listValue, list', Option.bind_some,
          List.getElem?_eq_getElem inside]
      · apply holds.growForSize_reads noWrap found
        by_cases same : other = name
        · subst same
          cases there.symm.trans there'
          cases list.symm.trans list'
          refine Or.inr ⟨rfl, List.getElem?_eq_getElem inside, ?_⟩
          rcases survives rfl vector there with room | ⟨array, trivially, kept⟩
          · exact Or.inl room
          · exact Or.inr ⟨begin_of_not_isAllocated array, trivially,
              kept _ found⟩
        · rw [← places_some there]
          exact Or.inl (represents.begin_not_owned there' same)

theorem arguments (represents : Represents type memory lists)
    (there : memory.vectors name = some vector)
    (list : lists name = some objects)
    (holds : Holds type name vector objects memory.storage)
    {arguments : List (Argument Name T)}
    (denote : ∀ argument ∈ arguments, argument.Denotes memory)
    (survive : ∀ argument ∈ arguments, argument.Survives type memory name) :
    ∃ references values,
      arguments.mapM (Argument.reference memory) = .ok references ∧
      arguments.mapM (Argument.listValue lists) = some values ∧
      Returns
        (fun grown =>
          references.mapM (Reference.value grown.2) = some values)
        (growForSize type name offer (vector.size + 1) vector
          memory.storage) := by
  induction arguments with
  | nil =>
      refine ⟨[], [], rfl, rfl, ?_⟩
      apply (holds.growForSize_returns fun _ => holds.next_bytes_lt).weaken
      exact fun _ _ => rfl
  | cons head tail inductionHypothesis =>
      rcases represents.argument there list holds
        (denote head List.mem_cons_self) (survive head List.mem_cons_self) with
        ⟨reference, object, passed, value, made⟩
      rcases inductionHypothesis
        (fun argument member => denote argument (List.mem_cons_of_mem _ member))
        (fun argument member =>
          survive argument (List.mem_cons_of_mem _ member)) with
        ⟨references, values, passed', values', made'⟩
      refine ⟨reference :: references, object :: values, ?_, ?_, ?_⟩
      · rw [List.mapM_cons, passed, passed']
        rfl
      · rw [List.mapM_cons, value, values']
        rfl
      · apply (made.both made').weaken
        rintro grown ⟨first, rest⟩
        rw [List.mapM_cons, first, rest]
        rfl

end Represents

variable [DecidableEq Name] {offer : Option Nat}

/-- A call does on the vectors what it does on the lists. -/
def Simulates (type : VectorType T) (memory : Memory Name T)
    (lists : Lists Name T) (call : Call Name T) : Prop :=
  Returns
    (fun memory' => ∃ leftover,
      Represents type memory'
        (listStep type.default leftover lists call.operation))
    (perform type memory call)

namespace Represents

theorem simulates_copyConstruct (represents : Represents type memory lists)
    (wellFormed : WellFormed memory (.copyConstruct name other)) :
    Simulates type memory lists ⟨.copyConstruct name other, offer⟩ := by
  rcases wellFormed with ⟨absent, present⟩
  rcases represents.live present with ⟨source, elements, there, list, copied⟩
  have distinct : other ≠ name := by
    rintro rfl
    exact present absent
  have foreign : source.begin ≠ type.array name := by
    intro same
    apply represents.begin_not_owned there distinct
    exact Or.inl same
  dsimp only [Simulates, perform, listStep]
  rw [there, list]
  apply Ensures.bind
    (copyConstruct_returns (represents.hasArray name) copied foreign)
  rintro ⟨vector, storage⟩ becomes
  rw [← members_none absent] at becomes
  exact ⟨[], represents.one becomes⟩

theorem simulates_moveConstruct (represents : Represents type memory lists)
    (wellFormed : WellFormed memory (.moveConstruct name other)) :
    Simulates type memory lists ⟨.moveConstruct name other, offer⟩ := by
  rcases wellFormed with ⟨absent, present⟩
  rcases represents.live present with ⟨source, elements, there, list, moved⟩
  have distinct : name ≠ other := by
    rintro rfl
    exact present absent
  rcases moveConstruct_returns (represents.hasArray name) moved distinct with
    ⟨result, done, both⟩
  rw [← places_some there, ← places_none absent] at both
  dsimp only [Simulates, perform, listStep]
  rw [there, list]
  simp only [defined, done, Bind.bind, Except.bind]
  exact represents.two distinct both

theorem simulates_copyAssign (represents : Represents type memory lists)
    (wellFormed : WellFormed memory (.copyAssign name other)) :
    Simulates type memory lists ⟨.copyAssign name other, offer⟩ := by
  rcases wellFormed with ⟨distinct, present, present'⟩
  rcases represents.live present with ⟨vector, objects, there, -, holds⟩
  rcases represents.live present' with ⟨source, elements, there', list, copied⟩
  have foreign : source.begin ∉ owned type name vector := by
    rw [← places_some there]
    exact represents.begin_not_owned there' distinct.symm
  dsimp only [Simulates, perform, listStep]
  rw [if_neg distinct, there', list]
  exact represents.onVector there (holds.copyAssign_returns copied foreign)

theorem simulates_moveAssign (represents : Represents type memory lists)
    (wellFormed : WellFormed memory (.moveAssign name other)) :
    Simulates type memory lists ⟨.moveAssign name other, offer⟩ := by
  rcases wellFormed with ⟨distinct, present, present'⟩
  rcases represents.live present with ⟨vector, objects, there, -, holds⟩
  rcases represents.live present' with ⟨source, elements, there', list, moved⟩
  have apart : Disjoint (owned type name vector) (owned type other source) := by
    rw [Set.disjoint_left, ← places_some there, ← places_some there']
    exact fun place own own' =>
      distinct (represents.separate name other place own own')
  rcases holds.moveAssign_returns moved apart with ⟨result, done, both⟩
  rw [← places_some there, ← places_some there'] at both
  dsimp only [Simulates, perform, listStep]
  rw [there, there', list]
  simp only [defined, done, Bind.bind, Except.bind]
  exact represents.two distinct both

theorem simulates_pushBack (represents : Represents type memory lists)
    {argument : Argument Name T}
    (wellFormed : WellFormed memory (.pushBack name argument))
    (harmless : Harmless type memory (.pushBack name argument)) :
    Simulates type memory lists ⟨.pushBack name argument, offer⟩ := by
  rcases wellFormed with ⟨present, denotes⟩
  rcases represents.live present with ⟨vector, objects, there, list, holds⟩
  rcases represents.argument there list holds denotes harmless with
    ⟨reference, object, passed, value, made⟩
  dsimp only [Simulates, perform, listStep]
  rw [passed, list, value]
  exact represents.onVector there (holds.emplaceBack_returns made)

theorem simulates_emplaceBack (represents : Represents type memory lists)
    {build : List T → T} {arguments : List (Argument Name T)}
    (wellFormed : WellFormed memory (.emplaceBack name build arguments))
    (harmless : Harmless type memory (.emplaceBack name build arguments)) :
    Simulates type memory lists
      ⟨.emplaceBack name build arguments, offer⟩ := by
  rcases wellFormed with ⟨present, denote⟩
  rcases represents.live present with ⟨vector, objects, there, list, holds⟩
  rcases represents.arguments there list holds denote harmless with
    ⟨references, values, passed, listed, made⟩
  have built : Returns
      (fun grown =>
        (references.mapM (Reference.value grown.2)).map build =
          some (build values))
      (growForSize type name offer (vector.size + 1) vector
        memory.storage) := by
    apply made.weaken
    intro grown read
    rw [read, Option.map_some]
  dsimp only [Simulates, perform, listStep]
  rw [passed, list, listed]
  exact represents.onVector there (holds.emplaceBack_returns built)

theorem simulates_destroy (represents : Represents type memory lists)
    (wellFormed : WellFormed memory (.destroy name)) :
    Simulates type memory lists ⟨.destroy name, offer⟩ := by
  rcases represents.live wellFormed with ⟨vector, objects, there, -, holds⟩
  rcases holds.dtor_ok with ⟨left, done, inside⟩
  dsimp only [Simulates, perform, listStep]
  rw [there]
  simp only [defined, done, Bind.bind, Except.bind]
  refine ⟨[], represents.destroyed there ?_⟩
  intro array
  rcases inside array with ⟨cells, row, whole, -⟩
  exact ⟨cells, row, whole⟩

theorem simulates (represents : Represents type memory lists)
    {call : Call Name T} (wellFormed : WellFormed memory call.operation)
    (harmless : Harmless type memory call.operation) :
    Simulates type memory lists call := by
  rcases call with ⟨operation, offer⟩
  cases operation with
  | construct name => exact ⟨[], represents.created wellFormed⟩
  | copyConstruct name other =>
      exact represents.simulates_copyConstruct wellFormed
  | moveConstruct name other =>
      exact represents.simulates_moveConstruct wellFormed
  | copyAssign name other => exact represents.simulates_copyAssign wellFormed
  | moveAssign name other => exact represents.simulates_moveAssign wellFormed
  | pushBack name argument =>
      exact represents.simulates_pushBack wellFormed harmless
  | emplaceBack name build arguments =>
      exact represents.simulates_emplaceBack wellFormed harmless
  | resize name newSize =>
      rcases represents.live wellFormed with
        ⟨vector, objects, there, list, holds⟩
      dsimp only [Simulates, perform, listStep]
      rw [list]
      exact represents.onVector there
        (holds.resize_returns (harmless vector there))
  | reserve name newCap =>
      rcases represents.live wellFormed with
        ⟨vector, objects, there, list, holds⟩
      have same : Function.update lists name (some objects) = lists := by
        rw [← list, Function.update_eq_self]
      dsimp only [Simulates, perform, listStep]
      nth_rewrite 1 [← same]
      exact represents.onVector there
        (holds.reserve_returns (harmless vector there))
  | clear name =>
      rcases represents.live wellFormed with ⟨vector, objects, there, -, holds⟩
      rcases holds.clear_returns with ⟨result, done, becomes⟩
      dsimp only [Simulates, perform, listStep]
      have returns : Returns (Becomes type name vector memory.storage [])
          (clear type vector memory.storage) := by
        rw [done]
        exact becomes
      exact represents.onVector there returns
  | destroy name => exact represents.simulates_destroy wellFormed

end Represents

/-! ## Whole programs -/

/--
In every state of a program whose calls are harmless, the vectors hold what the
lists do, with what a list program may find in moved-from lists.
-/
theorem smallVectors_refine_lists (type : VectorType T)
    {calls : List (Call Name T)}
    (admitted :
      Admitted (step type) (CallHarmless type) (.ok (Memory.initial type))
        calls) :
    Follows (step type) (ListNext type) (Refines type)
      (.ok (Memory.initial type)) (fun _ => none) calls := by
  have initial : Returns (fun memory => Represents type memory fun _ => none)
      (.ok (Memory.initial type : Memory Name T)) := represents_initial type
  apply @follows_of_simulation _ _ _ _ _ _
    (fun machine lists =>
      Returns (fun memory => Represents type memory lists) machine)
    _ _ _ _ _ _ initial admitted
  · intro machine lists represented
    exact represented.weaken fun memory represents => represents.agrees
  · intro machine lists call represented admits
    cases machine with
    | error ending => exact ⟨_, ⟨[], rfl⟩, represented⟩
    | ok memory =>
        rcases admits memory rfl with ⟨wellFormed, harmless⟩
        have simulates : Simulates type memory lists call :=
          represented.simulates wellFormed harmless
        change ∃ lists', _ ∧ Returns _ (perform type memory call)
        unfold Simulates at simulates
        generalize perform type memory call = performed at simulates ⊢
        cases performed with
        | error ending => exact ⟨_, ⟨[], rfl⟩, simulates⟩
        | ok memory' =>
            rcases simulates with ⟨leftover, represents⟩
            exact ⟨_, ⟨leftover, rfl⟩, represents⟩

/-- A program that ends with undefined behaviour follows no lists. -/
theorem not_follows_of_undefined {type : VectorType T}
    {calls : List (Call Name T)} {lists : Lists Name T}
    (ends :
      runFrom (step type) (.ok (Memory.initial type)) calls =
        .error .undefined) :
    ¬Follows (step type) (ListNext type) (Refines type)
      (.ok (Memory.initial type)) lists calls := by
  intro follows
  rcases follows.final with ⟨final, refines⟩
  rw [ends] at refines
  cases refines

/-- Vectors of strings with room for one of them. -/
def strings : VectorType String where
  elementSize := 32
  alignment := 8
  isTriviallyDestructible := false
  default := ""
  movedFrom := fun _ => ""
  smallSize := 1
  elementSize_pos := by decide
  alignment_dvd := by decide
  smallSize_pos := by decide
  array_fits := by decide

/-- Vectors of integers with room for one of them. -/
def integers : VectorType Int where
  elementSize := 4
  alignment := 4
  isTriviallyDestructible := true
  default := 0
  movedFrom := id
  smallSize := 1
  elementSize_pos := by decide
  alignment_dvd := by decide
  smallSize_pos := by decide
  array_fits := by decide

theorem smallVectors_refine_lists_moved :
    Follows (step strings) (ListNext strings) (Refines strings)
      (.ok (Memory.initial strings)) (fun _ => none)
      [⟨.construct 0, none⟩, ⟨.pushBack 0 (.object "a"), none⟩,
        ⟨.pushBack 0 (.object "b"), some 16⟩, ⟨.moveConstruct 1 0, none⟩] := by
  apply smallVectors_refine_lists
  refine ⟨?_, ?_, ?_, ?_, trivial⟩ <;> rintro memory ⟨⟩
  · exact ⟨rfl, trivial⟩
  · exact ⟨⟨Option.some_ne_none _, trivial⟩, trivial⟩
  · exact ⟨⟨Option.some_ne_none _, trivial⟩, trivial⟩
  · exact ⟨⟨rfl, Option.some_ne_none _⟩, trivial⟩

/-- The program `v.push_back("a"); v.push_back(v[0]);` -/
def selfReference : List (Call Nat String) :=
  [⟨.construct 0, none⟩, ⟨.pushBack 0 (.object "a"), none⟩,
    ⟨.pushBack 0 (.element 0 0), some 16⟩]

/--
The program `v.reserve((size_t(1) << 62) + 1); v.push_back(7); v.push_back(8);`
-/
def overflow : List (Call Nat Int) :=
  [⟨.construct 0, none⟩, ⟨.reserve 0 (2 ^ 62 + 1), some 16⟩,
    ⟨.pushBack 0 (.object 7), none⟩, ⟨.pushBack 0 (.object 8), none⟩]

/--
The string is gone when it is copied, and the integers are in a buffer of four
bytes.
-/
theorem smallVectors_not_always_lists :
    (Admitted (step strings) CallWellFormed (.ok (Memory.initial strings))
        selfReference ∧
      ¬Follows (step strings) (ListNext strings) (Refines strings)
        (.ok (Memory.initial strings)) (fun _ => none) selfReference) ∧
    (Admitted (step integers) CallWellFormed (.ok (Memory.initial integers))
        overflow ∧
      ¬Follows (step integers) (ListNext integers) (Refines integers)
        (.ok (Memory.initial integers)) (fun _ => none) overflow) := by
  refine ⟨⟨⟨?_, ?_, ?_, trivial⟩, not_follows_of_undefined rfl⟩,
    ⟨⟨?_, ?_, ?_, ?_, trivial⟩, not_follows_of_undefined rfl⟩⟩ <;>
    rintro memory ⟨⟩
  · exact rfl
  · exact ⟨Option.some_ne_none _, trivial⟩
  · exact ⟨Option.some_ne_none _, _, rfl, Nat.one_pos⟩
  · exact rfl
  · exact Option.some_ne_none _
  · exact ⟨Option.some_ne_none _, trivial⟩
  · exact ⟨Option.some_ne_none _, trivial⟩

end Anbox.Common.SmallVector
