import Mathlib.Logic.Function.Basic
import Mathlib.Data.List.Nodup

/-!
# Tables of slots that refer to objects

Objects are created under names and destroyed by name.  A table refers to
objects from its slots.  A bank is a table together with the objects it is
meant to look after: it is managed if every reference is to an object that is
there and no two slots refer to the same one, and it is covered if conversely
every object that is there has a slot.

What is created is counted, so that a balanced store destroys no object twice
and none that it did not create.
-/

namespace Anbox.Foundation.SlotTable

universe u v w

variable {Slot : Type u} {Name : Type v} {Object : Type w}

/-! ## Stores -/

/-- The objects that are there, and the names ever created and destroyed. -/
structure Store (Name : Type v) (Object : Type w) where
  objects : Name → Option Object
  created : List Name
  destroyed : List Name

namespace Store

def empty : Store Name Object := ⟨fun _ => none, [], []⟩

/-- There is an object under the name. -/
def Live (store : Store Name Object) (name : Name) : Prop :=
  (store.objects name).isSome = true

instance (store : Store Name Object) (name : Name) :
    Decidable (store.Live name) :=
  inferInstanceAs (Decidable (_ = true))

variable [DecidableEq Name]

def create (store : Store Name Object) (name : Name) (object : Object) :
    Store Name Object :=
  { store with
    objects := Function.update store.objects name (some object)
    created := store.created ++ [name] }

def destroy (store : Store Name Object) (name : Name) :
    Store Name Object :=
  { store with
    objects := Function.update store.objects name none
    destroyed := store.destroyed ++ [name] }

def modify (change : Object → Object) (store : Store Name Object)
    (name : Name) : Store Name Object :=
  { store with
    objects :=
      Function.update store.objects name ((store.objects name).map change) }

@[simp]
theorem live_create (store : Store Name Object) (name other : Name)
    (object : Object) :
    (store.create name object).Live other ↔
      other = name ∨ store.Live other := by
  by_cases same : other = name
  · simp [Live, create, same]
  · simp [Live, create, same]

@[simp]
theorem live_destroy (store : Store Name Object) (name other : Name) :
    (store.destroy name).Live other ↔ other ≠ name ∧ store.Live other := by
  by_cases same : other = name
  · simp [Live, destroy, same]
  · simp [Live, destroy, same]

@[simp]
theorem live_modify (change : Object → Object) (store : Store Name Object)
    (name other : Name) :
    (store.modify change name).Live other ↔ store.Live other := by
  by_cases same : other = name
  · simp [Live, modify, same]
  · simp [Live, modify, same]

/--
No name is created twice, and what was created has been destroyed or is there,
once.
-/
structure Balanced (store : Store Name Object) : Prop where
  nodup : store.created.Nodup
  balance :
    ∀ name,
      store.created.count name =
        store.destroyed.count name + if store.Live name then 1 else 0

theorem balanced_empty : (empty : Store Name Object).Balanced :=
  ⟨List.nodup_nil, fun _ => rfl⟩

namespace Balanced

variable {store : Store Name Object}

/-- An object that is there has been created. -/
theorem created_of_live (balanced : store.Balanced) {name : Name}
    (live : store.Live name) : name ∈ store.created := by
  have balance := balanced.balance name
  rw [if_pos live] at balance
  exact List.count_pos_iff.mp (by omega)

/-- What was created is there, or it has been destroyed once. -/
theorem exactly_once (balanced : store.Balanced) {name : Name}
    (created : name ∈ store.created) :
    (store.destroyed.count name + if store.Live name then 1 else 0) = 1 := by
  rw [← balanced.balance name]
  exact List.count_eq_one_of_mem balanced.nodup created

theorem create (balanced : store.Balanced) {name : Name}
    (fresh : name ∉ store.created) (object : Object) :
    (store.create name object).Balanced := by
  have absent : ¬store.Live name := fun live =>
    fresh (balanced.created_of_live live)
  constructor
  case nodup =>
    simpa [Store.create, List.nodup_append] using
      ⟨balanced.nodup, fun other member same => fresh (same ▸ member)⟩
  case balance =>
    intro other
    have before := balanced.balance other
    simp only [live_create]
    by_cases same : other = name
    · subst same
      rw [if_neg absent] at before
      simpa [Store.create, List.count_append] using before
    · have differs : name ≠ other := Ne.symm same
      simpa [Store.create, List.count_append, same, differs] using before

theorem destroy (balanced : store.Balanced) {name : Name}
    (live : store.Live name) : (store.destroy name).Balanced := by
  constructor
  case nodup => exact balanced.nodup
  case balance =>
    intro other
    have before := balanced.balance other
    simp only [live_destroy]
    by_cases same : other = name
    · subst same
      rw [if_pos live] at before
      simpa [Store.destroy, List.count_append] using before
    · have differs : name ≠ other := Ne.symm same
      simpa [Store.destroy, List.count_append, same, differs] using before

theorem modify (balanced : store.Balanced) (change : Object → Object)
    (name : Name) : (store.modify change name).Balanced := by
  constructor
  case nodup => exact balanced.nodup
  case balance =>
    intro other
    simp only [live_modify]
    exact balanced.balance other

end Balanced

end Store

/-! ## Banks -/

/-- A table and the objects that it looks after. -/
structure Bank (Slot : Type u) (Name : Type v) (Object : Type w) where
  table : Slot → Option Name
  store : Store Name Object

namespace Bank

/-- Slots refer to objects that are there, each to one of its own. -/
structure Managed [DecidableEq Name] (bank : Bank Slot Name Object) :
    Prop where
  live : ∀ slot name, bank.table slot = some name → bank.store.Live name
  single :
    ∀ first second name,
      bank.table first = some name → bank.table second = some name →
        first = second
  balanced : bank.store.Balanced

/-- Every object that is there has a slot. -/
def Covered (bank : Bank Slot Name Object) : Prop :=
  ∀ name, bank.store.Live name → ∃ slot, bank.table slot = some name

/-- The objects that are there are those with a slot, and they have one. -/
theorem Managed.live_iff_existsUnique [DecidableEq Name]
    {bank : Bank Slot Name Object} (managed : bank.Managed)
    (covered : bank.Covered) (name : Name) :
    bank.store.Live name ↔ ∃! slot, bank.table slot = some name := by
  constructor
  · intro live
    rcases covered name live with ⟨slot, refers⟩
    exact ⟨slot, refers, fun other same =>
      managed.single other slot name same refers⟩
  · rintro ⟨slot, refers, _⟩
    exact managed.live slot name refers

/-- Without any reference, a covered bank has no object. -/
theorem Covered.nothing {bank : Bank Slot Name Object}
    (covered : bank.Covered) (empty : ∀ slot, bank.table slot = none)
    (name : Name) : ¬bank.store.Live name := by
  intro live
  rcases covered name live with ⟨slot, refers⟩
  rw [empty slot] at refers
  cases refers

/-- Without any object, every table covers. -/
theorem covered_of_nothing {bank : Bank Slot Name Object}
    (nothing : ∀ name, ¬bank.store.Live name) : bank.Covered :=
  fun name live => absurd live (nothing name)

/-- A table may lose all its references at once. -/
theorem Managed.forget [DecidableEq Name] {bank : Bank Slot Name Object}
    (managed : bank.Managed) :
    (⟨fun _ => none, bank.store⟩ : Bank Slot Name Object).Managed := by
  refine ⟨?_, ?_, managed.balanced⟩
  · intro slot name refers
    cases refers
  · intro first second name refers
    cases refers

section Changes

variable [DecidableEq Name] {bank : Bank Slot Name Object}

/-- Change the object of a slot. -/
def modifyAt (change : Object → Object) (bank : Bank Slot Name Object)
    (slot : Slot) : Bank Slot Name Object :=
  match bank.table slot with
  | some name => { bank with store := bank.store.modify change name }
  | none => bank

/-- Change the objects of some slots, one after the other. -/
def modifyAll (change : Object → Object) (bank : Bank Slot Name Object)
    (slots : List Slot) : Bank Slot Name Object :=
  slots.foldl (modifyAt change) bank

theorem Managed.modifyAt (managed : bank.Managed)
    (change : Object → Object) (slot : Slot) :
    (bank.modifyAt change slot).Managed := by
  unfold Bank.modifyAt
  split
  · rename_i name refers
    refine ⟨?_, managed.single, managed.balanced.modify change name⟩
    intro other referred otherRefers
    exact (Store.live_modify change _ _ _).mpr
      (managed.live other referred otherRefers)
  · exact managed

@[simp]
theorem table_modifyAt (change : Object → Object)
    (bank : Bank Slot Name Object) (slot : Slot) :
    (bank.modifyAt change slot).table = bank.table := by
  unfold Bank.modifyAt
  split
  · rfl
  · rfl

@[simp]
theorem live_modifyAt (change : Object → Object)
    (bank : Bank Slot Name Object) (slot : Slot) (name : Name) :
    (bank.modifyAt change slot).store.Live name ↔ bank.store.Live name := by
  unfold Bank.modifyAt
  split
  · exact Store.live_modify change _ _ _
  · exact Iff.rfl

@[simp]
theorem created_modifyAt (change : Object → Object)
    (bank : Bank Slot Name Object) (slot : Slot) :
    (bank.modifyAt change slot).store.created = bank.store.created := by
  unfold Bank.modifyAt
  split
  · rfl
  · rfl

theorem Managed.modifyAll (managed : bank.Managed)
    (change : Object → Object) (slots : List Slot) :
    (bank.modifyAll change slots).Managed := by
  induction slots generalizing bank with
  | nil => exact managed
  | cons slot slots inductionHypothesis =>
      exact inductionHypothesis (managed.modifyAt change slot)

theorem Covered.modifyAll (covered : bank.Covered)
    (change : Object → Object) (slots : List Slot) :
    (bank.modifyAll change slots).Covered := by
  induction slots generalizing bank with
  | nil => exact covered
  | cons slot slots inductionHypothesis =>
      apply inductionHypothesis
      intro name live
      rw [table_modifyAt]
      exact covered name ((live_modifyAt change bank slot name).mp live)

@[simp]
theorem table_modifyAll (change : Object → Object)
    (bank : Bank Slot Name Object) (slots : List Slot) :
    (bank.modifyAll change slots).table = bank.table := by
  induction slots generalizing bank with
  | nil => rfl
  | cons slot slots inductionHypothesis =>
      exact (inductionHypothesis (bank.modifyAt change slot)).trans
        (table_modifyAt change bank slot)

@[simp]
theorem created_modifyAll (change : Object → Object)
    (bank : Bank Slot Name Object) (slots : List Slot) :
    (bank.modifyAll change slots).store.created = bank.store.created := by
  induction slots generalizing bank with
  | nil => rfl
  | cons slot slots inductionHypothesis =>
      exact (inductionHypothesis (bank.modifyAt change slot)).trans
        (created_modifyAt change bank slot)

/-- Every object that has been visited is as the change leaves it. -/
theorem modifyAll_holds {change : Object → Object} {Good : Object → Prop}
    (changed : ∀ object, Good (change object)) {name : Name}
    (slots : List Slot) (bank : Bank Slot Name Object)
    (visited :
      (∃ slot ∈ slots, bank.table slot = some name) ∨
        ∀ object, bank.store.objects name = some object → Good object) :
    ∀ object,
      (bank.modifyAll change slots).store.objects name = some object →
        Good object := by
  induction slots generalizing bank with
  | nil =>
      rcases visited with ⟨slot, member, _⟩ | good
      · cases member
      · exact good
  | cons first slots inductionHypothesis =>
      apply inductionHypothesis (bank.modifyAt change first)
      rcases visited with ⟨slot, member, refers⟩ | good
      · rcases List.mem_cons.mp member with rfl | later
        · right
          intro object found
          simp only [modifyAt, refers, Store.modify,
            Function.update_self] at found
          rcases Option.map_eq_some_iff.mp found with ⟨before, _, rfl⟩
          exact changed before
        · left
          exact ⟨slot, later, by rwa [table_modifyAt]⟩
      · right
        intro object found
        unfold modifyAt at found
        split at found
        · rename_i other _
          by_cases same : name = other
          · simp only [Store.modify, same, Function.update_self] at found
            rcases Option.map_eq_some_iff.mp found with ⟨before, _, rfl⟩
            exact changed before
          · simp only [Store.modify, ne_eq, same, not_false_eq_true,
              Function.update_of_ne] at found
            exact good object found
        · exact good object found

end Changes

variable [DecidableEq Slot]

/-- Clear a slot, whatever becomes of its object. -/
def clear (bank : Bank Slot Name Object) (slot : Slot) :
    Bank Slot Name Object :=
  { bank with table := Function.update bank.table slot none }

/-- References that are left were there before. -/
theorem table_of_clear {bank : Bank Slot Name Object}
    {slot other : Slot} {name : Name}
    (refers : (bank.clear slot).table other = some name) :
    other ≠ slot ∧ bank.table other = some name := by
  by_cases same : other = slot
  · simp [clear, same] at refers
  · exact ⟨same, by simpa [clear, same] using refers⟩

/-- Move what a slot refers to into another slot. -/
def move (bank : Bank Slot Name Object) (source target : Slot) :
    Bank Slot Name Object :=
  { bank with
    table :=
      Function.update (Function.update bank.table target (bank.table source))
        source none }

/-- After a move a reference comes from its own slot or from the source. -/
theorem table_of_move {bank : Bank Slot Name Object}
    {source target slot : Slot} {name : Name}
    (refers : (bank.move source target).table slot = some name) :
    slot ≠ source ∧
      (slot = target ∧ bank.table source = some name ∨
        slot ≠ target ∧ bank.table slot = some name) := by
  by_cases isSource : slot = source
  · simp [move, isSource] at refers
  · by_cases isTarget : slot = target
    · subst isTarget
      simp only [move] at refers
      rw [Function.update_of_ne isSource, Function.update_self] at refers
      exact ⟨isSource, .inl ⟨rfl, refers⟩⟩
    · simp only [move] at refers
      rw [Function.update_of_ne isSource, Function.update_of_ne isTarget]
        at refers
      exact ⟨isSource, .inr ⟨isTarget, refers⟩⟩

/-- No reference is lost by a move into a free slot. -/
theorem Covered.move {bank : Bank Slot Name Object}
    (covered : bank.Covered) {target : Slot}
    (free : bank.table target = none) (source : Slot) :
    (bank.move source target).Covered := by
  intro name live
  rcases covered name live with ⟨slot, refers⟩
  have notTarget : slot ≠ target := by
    rintro rfl
    rw [free] at refers
    cases refers
  by_cases isSource : slot = source
  · subst isSource
    refine ⟨target, ?_⟩
    simp only [Bank.move]
    rw [Function.update_of_ne notTarget.symm, Function.update_self]
    exact refers
  · refine ⟨slot, ?_⟩
    simp only [Bank.move]
    rw [Function.update_of_ne isSource, Function.update_of_ne notTarget]
    exact refers

variable [DecidableEq Name]

/-- Create an object in a slot. -/
def place (bank : Bank Slot Name Object) (slot : Slot) (name : Name)
    (object : Object) : Bank Slot Name Object :=
  ⟨Function.update bank.table slot (some name),
    bank.store.create name object⟩

/-- Destroy the object of a slot and clear the slot. -/
def destroyAt (bank : Bank Slot Name Object) (slot : Slot) :
    Bank Slot Name Object :=
  match bank.table slot with
  | some name => { bank.clear slot with store := bank.store.destroy name }
  | none => bank

/-- Destroy the objects of some slots, one after the other. -/
def destroyAll (bank : Bank Slot Name Object) (slots : List Slot) :
    Bank Slot Name Object :=
  slots.foldl destroyAt bank

section

variable {bank : Bank Slot Name Object}

theorem Managed.place (managed : bank.Managed) {slot : Slot} {name : Name}
    (fresh : name ∉ bank.store.created) (object : Object) :
    (bank.place slot name object).Managed := by
  have unused : ∀ other, bank.table other ≠ some name := by
    intro other refers
    exact fresh
      (managed.balanced.created_of_live (managed.live other name refers))
  constructor
  case live =>
    intro other referred refers
    rw [Bank.place, Store.live_create]
    by_cases same : other = slot
    · subst same
      left
      simpa [Bank.place] using refers.symm
    · right
      apply managed.live other referred
      simpa [Bank.place, same] using refers
  case single =>
    intro first second referred firstRefers secondRefers
    by_cases firstSame : first = slot
    · by_cases secondSame : second = slot
      · rw [firstSame, secondSame]
      · simp [Bank.place, firstSame] at firstRefers
        simp [Bank.place, secondSame, ← firstRefers, unused]
          at secondRefers
    · by_cases secondSame : second = slot
      · simp [Bank.place, secondSame] at secondRefers
        simp [Bank.place, firstSame, ← secondRefers, unused]
          at firstRefers
      · simp [Bank.place, firstSame] at firstRefers
        simp [Bank.place, secondSame] at secondRefers
        exact managed.single first second referred firstRefers secondRefers
  case balanced => exact managed.balanced.create fresh object

/-- A free slot may be used without losing a reference. -/
theorem Covered.place (covered : bank.Covered) {slot : Slot}
    (free : bank.table slot = none) (name : Name) (object : Object) :
    (bank.place slot name object).Covered := by
  intro other live
  rcases (Store.live_create _ _ _ _).mp live with rfl | before
  · exact ⟨slot, by simp [Bank.place]⟩
  · rcases covered other before with ⟨held, refers⟩
    refine ⟨held, ?_⟩
    have differs : held ≠ slot := by
      intro same
      rw [same, free] at refers
      cases refers
    simpa [Bank.place, differs] using refers

theorem Managed.clear (managed : bank.Managed) (slot : Slot) :
    (bank.clear slot).Managed := by
  refine ⟨?_, ?_, managed.balanced⟩
  · intro other name refers
    exact managed.live other name (table_of_clear refers).2
  · intro first second name firstRefers secondRefers
    exact managed.single first second name (table_of_clear firstRefers).2
      (table_of_clear secondRefers).2

theorem Managed.move (managed : bank.Managed) (source target : Slot) :
    (bank.move source target).Managed := by
  refine ⟨?_, ?_, managed.balanced⟩
  · intro slot name refers
    rcases (table_of_move refers).2 with ⟨-, before⟩ | ⟨-, before⟩
    · exact managed.live source name before
    · exact managed.live slot name before
  · intro first second name firstRefers secondRefers
    rcases table_of_move firstRefers with ⟨firstOther, firstFrom⟩
    rcases table_of_move secondRefers with ⟨secondOther, secondFrom⟩
    rcases firstFrom with ⟨rfl, moved⟩ | ⟨-, firstBefore⟩
    · rcases secondFrom with ⟨rfl, -⟩ | ⟨-, secondBefore⟩
      · rfl
      · exact absurd (managed.single second source name secondBefore moved)
          secondOther
    · rcases secondFrom with ⟨-, moved⟩ | ⟨-, secondBefore⟩
      · exact absurd (managed.single first source name firstBefore moved)
          firstOther
      · exact managed.single first second name firstBefore secondBefore

theorem Managed.destroyAt (managed : bank.Managed) (slot : Slot) :
    (bank.destroyAt slot).Managed := by
  unfold Bank.destroyAt
  split
  · rename_i name refers
    refine ⟨?_, (managed.clear slot).single, ?_⟩
    · intro other referred otherRefers
      rcases table_of_clear otherRefers with ⟨differs, before⟩
      refine (Store.live_destroy _ _ _).mpr
        ⟨?_, managed.live other referred before⟩
      rintro rfl
      exact differs (managed.single other slot referred before refers)
    · exact managed.balanced.destroy (managed.live slot name refers)
  · exact managed

theorem Covered.destroyAt (covered : bank.Covered) (slot : Slot) :
    (bank.destroyAt slot).Covered := by
  unfold Bank.destroyAt
  split
  · rename_i name refers
    intro other live
    rcases (Store.live_destroy _ _ _).mp live with ⟨differs, before⟩
    rcases covered other before with ⟨held, heldRefers⟩
    refine ⟨held, ?_⟩
    have apart : held ≠ slot := by
      intro same
      rw [same, refers] at heldRefers
      exact differs (Option.some.inj heldRefers).symm
    simpa [Bank.clear, apart] using heldRefers
  · exact covered

@[simp]
theorem table_destroyAt (bank : Bank Slot Name Object) (slot : Slot) :
    (bank.destroyAt slot).table = Function.update bank.table slot none := by
  unfold Bank.destroyAt
  split
  · rfl
  · rename_i empty
    rw [← empty, Function.update_eq_self]

@[simp]
theorem created_destroyAt (bank : Bank Slot Name Object) (slot : Slot) :
    (bank.destroyAt slot).store.created = bank.store.created := by
  unfold Bank.destroyAt
  split
  · rfl
  · rfl

/-- An object that is left has not been changed. -/
theorem objects_of_destroyAt {slot : Slot} {name : Name} {object : Object}
    (found : (bank.destroyAt slot).store.objects name = some object) :
    bank.store.objects name = some object := by
  unfold Bank.destroyAt at found
  split at found
  · rename_i other _
    by_cases same : name = other
    · simp [Store.destroy, same] at found
    · simpa [Store.destroy, same] using found
  · exact found

theorem Managed.destroyAll (managed : bank.Managed) (slots : List Slot) :
    (bank.destroyAll slots).Managed := by
  induction slots generalizing bank with
  | nil => exact managed
  | cons slot slots inductionHypothesis =>
      exact inductionHypothesis (managed.destroyAt slot)

theorem Covered.destroyAll (covered : bank.Covered) (slots : List Slot) :
    (bank.destroyAll slots).Covered := by
  induction slots generalizing bank with
  | nil => exact covered
  | cons slot slots inductionHypothesis =>
      exact inductionHypothesis (covered.destroyAt slot)

@[simp]
theorem created_destroyAll (bank : Bank Slot Name Object)
    (slots : List Slot) :
    (bank.destroyAll slots).store.created = bank.store.created := by
  induction slots generalizing bank with
  | nil => rfl
  | cons slot slots inductionHypothesis =>
      exact (inductionHypothesis (bank.destroyAt slot)).trans
        (created_destroyAt bank slot)

/-- The slots that were visited are empty, the others are as before. -/
theorem table_destroyAll (bank : Bank Slot Name Object)
    (slots : List Slot) (slot : Slot) :
    (bank.destroyAll slots).table slot =
      if slot ∈ slots then none else bank.table slot := by
  induction slots generalizing bank with
  | nil => rfl
  | cons first slots inductionHypothesis =>
      have unfolded :
          bank.destroyAll (first :: slots) =
            (bank.destroyAt first).destroyAll slots :=
        rfl
      rw [unfolded, inductionHypothesis, table_destroyAt]
      by_cases same : slot = first
      · simp [same]
      · simp [same]

end

end Bank

end Anbox.Foundation.SlotTable
