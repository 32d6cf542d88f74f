import Anbox.Foundation.OrderedMap
import Anbox.Json.Reader
import Anbox.Vehicle.ValueUpdates

/-!
# The mapping of properties to VIS names

Properties are mapped to VIS names by a map, and names to properties by a
multimap.  The configuration adds mappings to both and may override some.  An
override erases the old entry of the map and then reads its name through the
iterator, which is invalid by now.  What this read yields is left open.
-/

namespace Anbox.Vehicle.PropertyMapping

open Anbox.Foundation.Fallible
open Anbox.Foundation.JsonText (Text ascii)
open Anbox.Foundation.OrderedMap (lastValue lastValue_append)
open Anbox.Json (Double Fault Value)
open Anbox.Json.Reader (asString)
open Anbox.Vehicle.PropertyStore (RecordId)
open Anbox.Vehicle.ValueUpdates (Name NameTable)

structure Tables where
  /-- `mVPropertyToVisName`. -/
  visNames : RecordId → Option Name
  /-- `mVisNameToVProperty`. -/
  properties : NameTable

/-- A property and the name that it is mapped to. -/
abbrev Entry := RecordId × Name

/-! ## The configuration -/

section

variable (realText : Double → Text)

def readEntry (val : Value) : Except Fault Entry := do
  let androidId ← (← val.member (ascii "android-property-id")).asInt
  let areaId ← (← val.member (ascii "area-id")).asInt
  let _ ← asString realText
    (← val.member (ascii "android-property-id-as-string"))
  let visString ← asString realText (← val.member (ascii "vis-property"))
  let _ ← asString realText (← val.member (ascii "description"))
  return (⟨androidId, areaId⟩, visString)

/-- `read` is what the iterator to the erased entry yields. -/
def override (read : Name) (tables : Tables) (entry : Entry) : Tables :=
  let (prop, visString) := entry
  let properties :=
    match tables.visNames prop with
    | none => tables.properties
    | some _ => tables.properties.erase (read, prop)
  { visNames := Function.update tables.visNames prop (some visString)
    properties := properties ++ [(visString, prop)] }

/-- The loop over the configuration; each round has a read of its own. -/
def addMappings (reads : Nat → Name) :
    Nat → List Value → Tables → Except Fault Tables
  | _, [], tables => .ok tables
  | index, val :: vals, tables => do
      let entry ← readEntry realText val
      addMappings reads (index + 1) vals
        (override (reads index) tables entry)

/-- A configuration that is no array is ignored. -/
def createPropertyMappingsFromConfig (reads : Nat → Name) (root : Value)
    (tables : Tables) : Except Fault Tables :=
  match root with
  | .array vals => addMappings realText reads 0 vals tables
  | _ => .ok tables

end

/-! ## Overrides one after another -/

def overrideAll (reads : Nat → Name) :
    Nat → List Entry → Tables → Tables
  | _, [], tables => tables
  | index, entry :: entries, tables =>
      overrideAll reads (index + 1) entries
        (override (reads index) tables entry)

theorem addMappings_eq_ok_iff {realText : Double → Text}
    {reads : Nat → Name} {index : Nat} {vals : List Value}
    {tables result : Tables} :
    addMappings realText reads index vals tables = .ok result ↔
      ∃ entries,
        List.Forall₂
            (fun val entry => readEntry realText val = .ok entry)
            vals entries ∧
          result = overrideAll reads index entries tables := by
  induction vals generalizing index tables with
  | nil =>
      simp [addMappings, overrideAll, eq_comm]
  | cons val vals inductionHypothesis =>
      constructor
      · intro returned
        rcases ok_of_bind returned with ⟨entry, read, continued⟩
        rcases inductionHypothesis.mp continued with ⟨entries, all, rfl⟩
        exact ⟨entry :: entries, .cons read all, rfl⟩
      · rintro ⟨entries, all, rfl⟩
        cases all with
        | @cons _ entry _ entries read all =>
            simp only [addMappings, read]
            exact inductionHypothesis.mpr ⟨entries, all, rfl⟩

theorem visNames_override (read : Name) (tables : Tables) (entry : Entry)
    (prop : RecordId) :
    (override read tables entry).visNames prop =
      if entry.1 = prop then some entry.2 else tables.visNames prop := by
  simp only [override, Function.update_apply, eq_comm]

/-- The name of a property is that of its last entry. -/
theorem visNames_overrideAll (reads : Nat → Name) (index : Nat)
    (entries : List Entry) (tables : Tables) (prop : RecordId) :
    (overrideAll reads index entries tables).visNames prop =
      (lastValue prop entries).or (tables.visNames prop) := by
  induction entries generalizing index tables with
  | nil => rfl
  | cons entry entries inductionHypothesis =>
      rw [overrideAll, inductionHypothesis, visNames_override, lastValue,
        Option.or_assoc]
      split
      · rfl
      · rfl

/-! ## Tables that are inverse to each other -/

/-- Each mapping is in both tables, and once in the multimap. -/
def Inverse (tables : Tables) : Prop :=
  ∀ prop name,
    tables.properties.count (name, prop) =
      if tables.visNames prop = some name then 1 else 0

theorem Inverse.mem_iff {tables : Tables} (inverse : Inverse tables)
    {prop : RecordId} {name : Name} :
    (name, prop) ∈ tables.properties ↔
      tables.visNames prop = some name := by
  rw [← List.count_pos_iff, inverse prop name]
  split
  · next mapped => simp [mapped]
  · next unmapped => simp [unmapped]

/-- The number of names that the multimap has for a property. -/
def namesOf (prop : RecordId) (properties : NameTable) : Nat :=
  properties.countP fun pair => pair.2 = prop

theorem namesOf_append_singleton (prop : RecordId) (properties : NameTable)
    (pair : Name × RecordId) :
    namesOf prop (properties ++ [pair]) =
      namesOf prop properties + if pair.2 = prop then 1 else 0 := by
  simp only [namesOf, List.countP_append, List.countP_singleton,
    decide_eq_true_eq]

theorem namesOf_erase_of_mem {properties : NameTable}
    {pair : Name × RecordId} (member : pair ∈ properties)
    (prop : RecordId) :
    namesOf prop (properties.erase pair) + (if pair.2 = prop then 1 else 0) =
      namesOf prop properties := by
  have split := (List.perm_cons_erase member).countP_eq
    fun pair => decide (pair.2 = prop)
  rw [List.countP_cons] at split
  simpa [namesOf] using split.symm

/-- In inverse tables a property has the name of the map. -/
theorem Inverse.namesOf_of_some {tables : Tables} (inverse : Inverse tables)
    {prop : RecordId} {name : Name}
    (mapped : tables.visNames prop = some name) :
    namesOf prop tables.properties = 1 := by
  have counted := inverse prop name
  rw [if_pos mapped] at counted
  rw [namesOf, ← counted]
  refine List.countP_congr fun pair member => ?_
  rw [decide_eq_true_eq, beq_iff_eq]
  constructor
  · rintro rfl
    have own := inverse.mem_iff.mp member
    rw [mapped, Option.some.injEq] at own
    rw [own]
  · rintro rfl
    rfl

theorem Inverse.namesOf_le {tables : Tables} (inverse : Inverse tables)
    (prop : RecordId) : namesOf prop tables.properties ≤ 1 := by
  cases mapped : tables.visNames prop with
  | some name => exact (inverse.namesOf_of_some mapped).le
  | none =>
      have nothing : namesOf prop tables.properties = 0 := by
        refine List.countP_eq_zero.mpr ?_
        rintro ⟨name, other⟩ member own
        obtain rfl : other = prop := of_decide_eq_true own
        have impossible := inverse.mem_iff.mp member
        rw [mapped] at impossible
        cases impossible
      rw [nothing]
      exact Nat.zero_le 1

/-- An override takes away at most one name and adds one. -/
theorem namesOf_le_override (read : Name) (tables : Tables) (entry : Entry)
    (prop : RecordId) :
    namesOf prop tables.properties ≤
      namesOf prop (override read tables entry).properties := by
  rcases entry with ⟨own, visString⟩
  simp only [override, namesOf_append_singleton]
  cases tables.visNames own with
  | none => exact Nat.le_add_right _ _
  | some old =>
      by_cases member : (read, own) ∈ tables.properties
      · exact (namesOf_erase_of_mem member prop).ge
      · rw [List.erase_of_not_mem member]
        exact Nat.le_add_right _ _

theorem namesOf_le_overrideAll (reads : Nat → Name) (index : Nat)
    (entries : List Entry) (tables : Tables) (prop : RecordId) :
    namesOf prop tables.properties ≤
      namesOf prop (overrideAll reads index entries tables).properties := by
  induction entries generalizing index tables with
  | nil => exact Nat.le_refl _
  | cons entry entries inductionHypothesis =>
      exact (namesOf_le_override (reads index) tables entry prop).trans
        (inductionHypothesis (index + 1) _)

/-- An override that reads the right name keeps the tables inverse. -/
theorem Inverse.override {read : Name} {tables : Tables} {entry : Entry}
    (inverse : Inverse tables)
    (right : ∀ old, tables.visNames entry.1 = some old → read = old) :
    Inverse (override read tables entry) := by
  rcases entry with ⟨own, visString⟩
  intro prop name
  have counted := inverse prop name
  rw [visNames_override]
  simp only [PropertyMapping.override, List.count_append,
    List.count_singleton, beq_iff_eq, Prod.mk.injEq]
  by_cases same : own = prop
  · -- The property has no name left before it gets the new one.
    subst same
    have removed :
        (match tables.visNames own with
          | none => tables.properties
          | some _ => tables.properties.erase (read, own)).count
            (name, own) = 0 := by
      cases mapped : tables.visNames own with
      | none => simpa [mapped] using counted
      | some old =>
          obtain rfl := right old mapped
          rw [List.count_erase, counted, mapped]
          simp
    rw [removed, if_pos rfl]
    simp
  · have kept :
        (match tables.visNames own with
          | none => tables.properties
          | some _ => tables.properties.erase (read, own)).count
            (name, prop) = tables.properties.count (name, prop) := by
      cases tables.visNames own with
      | none => rfl
      | some old => exact List.count_erase_of_ne (by simp [Ne.symm same])
    rw [kept, counted, if_neg same]
    simp [same]

/-- One that reads another name leaves the old name in the multimap. -/
theorem Inverse.namesOf_override_of_wrong {read old : Name}
    {tables : Tables} {entry : Entry} (inverse : Inverse tables)
    (mapped : tables.visNames entry.1 = some old) (wrong : read ≠ old) :
    namesOf entry.1 (PropertyMapping.override read tables entry).properties =
      2 := by
  rcases entry with ⟨own, visString⟩
  have absent : (read, own) ∉ tables.properties := by
    intro member
    have same := inverse.mem_iff.mp member
    rw [mapped, Option.some.injEq] at same
    exact wrong same.symm
  have one : namesOf own tables.properties = 1 :=
    inverse.namesOf_of_some mapped
  simp only [PropertyMapping.override, mapped, namesOf_append_singleton,
    List.erase_of_not_mem absent, one, if_true]

/-! ## The configuration as a whole -/

/-- The name of a property before the entry with this index. -/
def nameBefore (tables : Tables) (entries : List Entry) (index : Nat)
    (prop : RecordId) : Option Name :=
  (lastValue prop (entries.take index)).or (tables.visNames prop)

/-- Each override reads the name of the entry that it has erased. -/
def ReadsErased (reads : Nat → Name) (tables : Tables)
    (entries : List Entry) : Prop :=
  ∀ index entry old, entries[index]? = some entry →
    nameBefore tables entries index entry.1 = some old → reads index = old

theorem nameBefore_succ (read : Name) (tables : Tables) (entry : Entry)
    (entries : List Entry) (index : Nat) (prop : RecordId) :
    nameBefore tables (entry :: entries) (index + 1) prop =
      nameBefore (override read tables entry) entries index prop := by
  rw [nameBefore, nameBefore, List.take_succ_cons, lastValue,
    visNames_override, Option.or_assoc]
  split
  · rfl
  · rfl

theorem readsErased_cons_iff {reads : Nat → Name} {start : Nat}
    {tables : Tables} {entry : Entry} {entries : List Entry} :
    ReadsErased (fun index => reads (start + index)) tables
        (entry :: entries) ↔
      (∀ old, tables.visNames entry.1 = some old → reads start = old) ∧
        ReadsErased (fun index => reads (start + 1 + index))
          (override (reads start) tables entry) entries := by
  have next (index : Nat) : start + (index + 1) = start + 1 + index := by
    omega
  constructor
  · intro erased
    constructor
    · intro old mapped
      exact erased 0 entry old rfl mapped
    · intro index other old found mapped
      rw [← nameBefore_succ] at mapped
      exact (congrArg reads (next index)).symm.trans
        (erased (index + 1) other old found mapped)
  · rintro ⟨first, later⟩ index other old found mapped
    cases index with
    | zero =>
        cases found
        exact first old mapped
    | succ index =>
        rw [nameBefore_succ (reads start)] at mapped
        exact (congrArg reads (next index)).trans
          (later index other old found mapped)

/-- No entry is for a property that is mapped already. -/
def NoOverride (tables : Tables) (entries : List Entry) : Prop :=
  ∀ index entry, entries[index]? = some entry →
    nameBefore tables entries index entry.1 = none

theorem inverse_overrideAll_iff {reads : Nat → Name} {index : Nat}
    {entries : List Entry} {tables : Tables} (inverse : Inverse tables) :
    Inverse (overrideAll reads index entries tables) ↔
      ReadsErased (fun later => reads (index + later)) tables entries := by
  induction entries generalizing index tables with
  | nil =>
      refine iff_of_true inverse ?_
      intro later entry old found
      cases found
  | cons entry entries inductionHypothesis =>
      rw [readsErased_cons_iff, overrideAll]
      constructor
      · intro final
        have right : ∀ old, tables.visNames entry.1 = some old →
            reads index = old := by
          intro old mapped
          by_contra wrong
          have two := inverse.namesOf_override_of_wrong mapped wrong
          have more := namesOf_le_overrideAll reads (index + 1) entries
            (override (reads index) tables entry) entry.1
          have less := final.namesOf_le entry.1
          omega
        exact ⟨right, (inductionHypothesis (inverse.override right)).mp final⟩
      · rintro ⟨right, later⟩
        exact (inductionHypothesis (inverse.override right)).mpr later

/-- Names are arbitrary, so no override is sure to read the erased one. -/
theorem forall_readsErased_iff {tables : Tables} {entries : List Entry} :
    (∀ reads, ReadsErased reads tables entries) ↔
      NoOverride tables entries := by
  constructor
  · intro erased index entry found
    cases mapped : nameBefore tables entries index entry.1 with
    | none => rfl
    | some old =>
        have same := erased (fun _ => 0 :: old) index entry old found mapped
        exact absurd same (List.cons_ne_self 0 old)
  · intro fresh reads index entry old found mapped
    rw [fresh index entry found] at mapped
    cases mapped

/-- The tables are inverse, and the last entry of a property counts. -/
def Follows (tables : Tables) (entries : List Entry) (result : Tables) :
    Prop :=
  Inverse result ∧
    ∀ prop,
      result.visNames prop =
        (lastValue prop entries).or (tables.visNames prop)

/-- The configuration leaves such tables, with these reads of its overrides. -/
def Mapped (realText : Double → Text) (tables : Tables) (vals : List Value)
    (entries : List Entry) (reads : Nat → Name) : Prop :=
  ∃ result,
    createPropertyMappingsFromConfig realText reads (.array vals) tables =
        .ok result ∧
      Follows tables entries result

/--
The tables stay inverse if every override happens to read the name that it
erased.  This is sure only if there is no override.
-/
theorem mapped_iff (realText : Double → Text) (tables : Tables)
    (inverse : Inverse tables) (vals : List Value) (entries : List Entry)
    (read :
      List.Forall₂ (fun val entry => readEntry realText val = .ok entry)
        vals entries) :
    (∀ reads, Mapped realText tables vals entries reads ↔
        ReadsErased reads tables entries) ∧
      ((∀ reads, Mapped realText tables vals entries reads) ↔
        NoOverride tables entries) := by
  have each (reads : Nat → Name) :
      Mapped realText tables vals entries reads ↔
        ReadsErased reads tables entries := by
    have returned :
        createPropertyMappingsFromConfig realText reads (.array vals)
            tables =
          .ok (overrideAll reads 0 entries tables) :=
      addMappings_eq_ok_iff.mpr ⟨entries, read, rfl⟩
    have final := @inverse_overrideAll_iff reads 0 entries tables inverse
    simp only [Nat.zero_add] at final
    rw [← final]
    constructor
    · rintro ⟨result, also, follows⟩
      rw [returned] at also
      cases also
      exact follows.1
    · intro kept
      exact ⟨_, returned, kept,
        visNames_overrideAll reads 0 entries tables⟩
  refine ⟨each, ?_⟩
  rw [← forall_readsErased_iff]
  exact forall_congr' each

/-! ## An override -/

/-- The configuration of one mapping. -/
def mappingJson (androidId : Int) (visProperty : Text) : Value :=
  .object
    [(ascii "android-property-id", .int androidId),
      (ascii "area-id", .int 0),
      (ascii "android-property-id-as-string", .string []),
      (ascii "vis-property", .string visProperty),
      (ascii "description", .string [])]

def noTables : Tables := ⟨fun _ => none, []⟩

theorem noTables_inverse : Inverse noTables := by
  intro prop name
  simp [noTables]

theorem mapped_iff_twoProperties :
    (∀ reads,
        Mapped (fun _ => []) noTables
            [mappingJson 1 [0x61], mappingJson 2 [0x61]]
            [(⟨1, 0⟩, [0x61]), (⟨2, 0⟩, [0x61])] reads ↔
          ReadsErased reads noTables
            [(⟨1, 0⟩, [0x61]), (⟨2, 0⟩, [0x61])]) ∧
      ((∀ reads,
          Mapped (fun _ => []) noTables
            [mappingJson 1 [0x61], mappingJson 2 [0x61]]
            [(⟨1, 0⟩, [0x61]), (⟨2, 0⟩, [0x61])] reads) ↔
        NoOverride noTables [(⟨1, 0⟩, [0x61]), (⟨2, 0⟩, [0x61])]) :=
  mapped_iff (fun _ => []) noTables noTables_inverse
    [mappingJson 1 [0x61], mappingJson 2 [0x61]]
    [(⟨1, 0⟩, [0x61]), (⟨2, 0⟩, [0x61])]
    (.cons rfl (.cons rfl .nil))

/-- A property that is mapped twice may keep its first name. -/
theorem override_leaves_old_name :
    ¬ ∀ reads,
      Mapped (fun _ => []) noTables
        [mappingJson 1 [0x61], mappingJson 1 [0x62]]
        [(⟨1, 0⟩, [0x61]), (⟨1, 0⟩, [0x62])] reads := by
  intro mapped
  rcases mapped fun _ => [] with ⟨result, returned, inverse, -⟩
  have left :
      (createPropertyMappingsFromConfig (fun _ => []) (fun _ => [])
            (.array [mappingJson 1 [0x61], mappingJson 1 [0x62]])
            noTables).toOption.map
          (fun tables => tables.properties) =
        some [([0x61], ⟨1, 0⟩), ([0x62], ⟨1, 0⟩)] := by
    decide
  rw [returned] at left
  have properties :
      result.properties = [([0x61], ⟨1, 0⟩), ([0x62], ⟨1, 0⟩)] :=
    Option.some.inj left
  have two : namesOf ⟨1, 0⟩ result.properties = 2 := by
    rw [properties]
    decide
  have one := inverse.namesOf_le ⟨1, 0⟩
  rw [two] at one
  exact absurd one (by decide)

end Anbox.Vehicle.PropertyMapping
