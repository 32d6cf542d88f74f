import Anbox.Vehicle.PropertyStore

/-!
# Updates of the store from VIS values

A VIS name may be mapped to several properties.  A notification updates all of
them.  The initial fetch has its own copy of the loop, which updates only the
first one that the table has for a name.
-/

namespace Anbox.Vehicle.ValueUpdates

open Anbox.Foundation.Fallible
open Anbox.Json (Fault Value)
open Anbox.Vehicle.PropertyStore
open Anbox.Vehicle.PropertyStore.VehiclePropertyStore
open Anbox.Vehicle.PropertyValue

abbrev Name := List UInt8

/--
`mVisNameToVProperty`.  Entries of one name are in the order in which they
were added; the order by name is left out.
-/
abbrev NameTable := List (Name × RecordId)

def equalRange (table : NameTable) (name : Name) : List RecordId :=
  (table.filter fun entry => entry.1 = name).map Prod.snd

def find (table : NameTable) (name : Name) : Option RecordId :=
  (equalRange table name).head?

section

variable {numbers : PropertyNumbers} {Single : Type}
variable (toFloat : Value → Single)

/-- The body of both loops. -/
def updateProperty (updateStatus : Bool) (jval : Value)
    (store : VehiclePropertyStore numbers Single) (property : RecordId) :
    Except Fault (VehiclePropertyStore numbers Single) :=
  match store.readValueOrNull property.prop property.area with
  | none => .ok store
  | some val => do
      let (converted, val) ← jsonToVehicle numbers toFloat jval val
      return if converted then (store.writeValue val updateStatus).2
      else store

/-- The properties that a notification updates; events are left out. -/
def subscriptionHandler (table : NameTable)
    (store : VehiclePropertyStore numbers Single)
    (result : List (Name × Value)) :
    Except Fault (VehiclePropertyStore numbers Single) :=
  result.foldlM
    (fun store item =>
      (equalRange table item.1).foldlM
        (updateProperty toFloat true item.2) store)
    store

/-- The loop of `fetchAllAndSubscribe` over what the server returned. -/
def processFetched (table : NameTable)
    (store : VehiclePropertyStore numbers Single)
    (result : List (Name × Value)) :
    Except Fault (VehiclePropertyStore numbers Single) :=
  result.foldlM
    (fun store item =>
      match find table item.1 with
      | none => .ok store
      | some property => updateProperty toFloat false item.2 store property)
    store

/-! ## Updates one after another -/

/-- Update properties with JSON values. -/
def updateAll (updateStatus : Bool)
    (store : VehiclePropertyStore numbers Single)
    (updates : List (RecordId × Value)) :
    Except Fault (VehiclePropertyStore numbers Single) :=
  updates.foldlM
    (fun store update =>
      updateProperty toFloat updateStatus update.2 store update.1)
    store

/-- Each value with the properties that its name selects. -/
def selected (select : Name → List RecordId)
    (result : List (Name × Value)) : List (RecordId × Value) :=
  result.flatMap fun item =>
    (select item.1).map fun property => (property, item.2)

theorem updateAll_selected (updateStatus : Bool)
    (select : Name → List RecordId)
    (store : VehiclePropertyStore numbers Single)
    (result : List (Name × Value)) :
    updateAll toFloat updateStatus store (selected select result) =
      result.foldlM
        (fun store item =>
          (select item.1).foldlM
            (updateProperty toFloat updateStatus item.2) store)
        store := by
  induction result generalizing store with
  | nil => rfl
  | cons item result inductionHypothesis =>
      simp only [updateAll, selected, List.flatMap_cons, List.foldlM_append,
        List.foldlM_map, List.foldlM_cons]
      congr 1
      funext next
      exact inductionHypothesis next

theorem subscriptionHandler_eq (table : NameTable)
    (store : VehiclePropertyStore numbers Single)
    (result : List (Name × Value)) :
    subscriptionHandler toFloat table store result =
      updateAll toFloat true store (selected (equalRange table) result) :=
  (updateAll_selected toFloat true (equalRange table) store result).symm

theorem processFetched_eq (table : NameTable)
    (store : VehiclePropertyStore numbers Single)
    (result : List (Name × Value)) :
    processFetched toFloat table store result =
      updateAll toFloat false store
        (selected (fun name => (find table name).toList) result) := by
  rw [updateAll_selected]
  unfold processFetched
  congr 1
  funext store item
  cases find table item.1 with
  | none => rfl
  | some property =>
      simp [List.foldlM_cons]

end

/-! ## Updates of one record -/

section

variable (numbers : PropertyNumbers) {Single : Type}
  (toFloat : Value → Single)

/-- The record after `jsonToVehicle`, whatever this returns. -/
def convertValue (val : VehiclePropValue Single) (jval : Value) :
    Except Fault (VehiclePropValue Single) := do
  let (_, next) ← jsonToVehicle numbers toFloat jval val
  return next

/-- The values that updates have for a record. -/
def assigned (id : RecordId) (updates : List (RecordId × Value)) :
    List Value :=
  (updates.filter fun update =>
    recordId numbers update.1.prop update.1.area = id).map Prod.snd

/-- A record, if there is one, after values have been put in one by one. -/
def convertedBy (record : Option (VehiclePropValue Single))
    (jvals : List Value) : Except Fault (Option (VehiclePropValue Single)) :=
  match record with
  | none => .ok none
  | some val => do
      let next ← jvals.foldlM (convertValue numbers toFloat) val
      return some next

end

section

variable {numbers : PropertyNumbers} {Single : Type}
  {toFloat : Value → Single} {updateStatus : Bool}

theorem convertValue_keeps {jval : Value} {val next : VehiclePropValue Single}
    (converted : convertValue numbers toFloat val jval = .ok next) :
    KeepsShape numbers val next := by
  rcases ok_of_bind converted with ⟨⟨done, changed⟩, returned, ⟨⟩⟩
  exact (jsonToVehicle_keeps numbers toFloat returned).1

theorem updateProperty_of_none {jval : Value}
    {store : VehiclePropertyStore numbers Single} {property : RecordId}
    (absent : store.readValueOrNull property.prop property.area = none) :
    updateProperty toFloat updateStatus jval store property = .ok store := by
  simp only [updateProperty, absent]

theorem updateProperty_of_error {jval : Value} {fault : Fault}
    {store : VehiclePropertyStore numbers Single} {property : RecordId}
    {val : VehiclePropValue Single}
    (found : store.readValueOrNull property.prop property.area = some val)
    (failed : convertValue numbers toFloat val jval = .error fault) :
    updateProperty toFloat updateStatus jval store property =
      .error fault := by
  unfold convertValue at failed
  cases returned : jsonToVehicle numbers toFloat jval val with
  | error other =>
      rw [returned] at failed
      cases failed
      simp only [updateProperty, found, returned]
      rfl
  | ok outcome =>
      rw [returned] at failed
      cases failed

/-- An update writes the converted record back. -/
theorem updateProperty_of_ok {jval : Value}
    {store : VehiclePropertyStore numbers Single} {property : RecordId}
    {val next : VehiclePropValue Single}
    (found : store.readValueOrNull property.prop property.area = some val)
    (converted : convertValue numbers toFloat val jval = .ok next) :
    ∃ after,
      updateProperty toFloat updateStatus jval store property = .ok after ∧
        after.configs = store.configs ∧
        after.propertyValues =
          Function.update store.propertyValues
            (recordId numbers property.prop property.area) (some next) := by
  rcases ok_of_bind converted with ⟨⟨done, changed⟩, returned, ⟨⟩⟩
  have keeps := jsonToVehicle_keeps numbers toFloat returned
  simp only [updateProperty, found, returned]
  cases done with
  | true =>
      have written := store.writeValue_of_read found next.value updateStatus
      rw [← keeps.1.others] at written
      exact ⟨_, rfl, written⟩
  | false =>
      refine ⟨store, rfl, rfl, ?_⟩
      rw [keeps.2 rfl]
      exact (Function.update_eq_self_iff.mpr found.symm).symm

theorem updateAll_cons (store : VehiclePropertyStore numbers Single)
    (update : RecordId × Value) (updates : List (RecordId × Value)) :
    updateAll toFloat updateStatus store (update :: updates) =
      (do
        let next ←
          updateProperty toFloat updateStatus update.2 store update.1
        updateAll toFloat updateStatus next updates) :=
  rfl

theorem assigned_cons (id : RecordId) (update : RecordId × Value)
    (updates : List (RecordId × Value)) :
    assigned numbers id (update :: updates) =
      if recordId numbers update.1.prop update.1.area = id then
        update.2 :: assigned numbers id updates
      else assigned numbers id updates := by
  unfold assigned
  by_cases own : recordId numbers update.1.prop update.1.area = id
  · simp [own]
  · simp [own]

theorem convertedBy_cons (val : VehiclePropValue Single) (jval : Value)
    (jvals : List Value) :
    convertedBy numbers toFloat (some val) (jval :: jvals) =
      (do
        let next ← convertValue numbers toFloat val jval
        convertedBy numbers toFloat (some next) jvals) := by
  simp only [convertedBy, List.foldlM_cons]
  cases convertValue numbers toFloat val jval with
  | error fault => rfl
  | ok next => rfl

/-- An update of a record that is not there leaves all records alone. -/
theorem convertedBy_assigned_of_none
    {store : VehiclePropertyStore numbers Single} {update : RecordId × Value}
    (absent :
      store.readValueOrNull update.1.prop update.1.area = none)
    (updates : List (RecordId × Value)) (id : RecordId) :
    convertedBy numbers toFloat (store.propertyValues id)
        (assigned numbers id (update :: updates)) =
      convertedBy numbers toFloat (store.propertyValues id)
        (assigned numbers id updates) := by
  rw [assigned_cons]
  split
  · next own =>
    have none : store.propertyValues id = none := own ▸ absent
    rw [none]
    rfl
  · rfl

/-- An update is the first conversion of its own record. -/
theorem convertedBy_assigned_of_ok
    {store after : VehiclePropertyStore numbers Single}
    {update : RecordId × Value} {val next : VehiclePropValue Single}
    (found : store.readValueOrNull update.1.prop update.1.area = some val)
    (converted : convertValue numbers toFloat val update.2 = .ok next)
    (changed :
      after.propertyValues =
        Function.update store.propertyValues
          (recordId numbers update.1.prop update.1.area) (some next))
    (updates : List (RecordId × Value)) (id : RecordId) :
    convertedBy numbers toFloat (store.propertyValues id)
        (assigned numbers id (update :: updates)) =
      convertedBy numbers toFloat (after.propertyValues id)
        (assigned numbers id updates) := by
  rw [assigned_cons, changed]
  split
  · next own =>
    have before : store.propertyValues id = some val := own ▸ found
    rw [own, Function.update_self, before, convertedBy_cons, converted]
    rfl
  · next other => rw [Function.update_of_ne (Ne.symm other)]

/-- The updates come to an end exactly with each record converted. -/
theorem updateAll_eq_ok_iff {store after : VehiclePropertyStore numbers Single}
    {updates : List (RecordId × Value)} :
    updateAll toFloat updateStatus store updates = .ok after ↔
      after.configs = store.configs ∧
        ∀ id,
          convertedBy numbers toFloat (store.propertyValues id)
              (assigned numbers id updates) =
            .ok (after.propertyValues id) := by
  induction updates generalizing store with
  | nil =>
      have idle (record : Option (VehiclePropValue Single)) :
          convertedBy numbers toFloat record [] = .ok record := by
        cases record with
        | none => rfl
        | some val => rfl
      simp only [assigned, List.filter_nil, List.map_nil, idle,
        Except.ok.injEq]
      constructor
      · rintro ⟨⟩
        exact ⟨rfl, fun _ => rfl⟩
      · rintro ⟨sameConfigs, sameValues⟩
        exact congrArg Except.ok
          (ext_records sameConfigs.symm sameValues)
  | cons update updates inductionHypothesis =>
      rw [updateAll_cons]
      cases found : store.readValueOrNull update.1.prop update.1.area with
      | none =>
          rw [updateProperty_of_none found]
          simp only [convertedBy_assigned_of_none found]
          exact inductionHypothesis
      | some val =>
          cases converted : convertValue numbers toFloat val update.2 with
          | error fault =>
              rw [updateProperty_of_error found converted]
              refine iff_of_false (fun impossible => by cases impossible) ?_
              rintro ⟨-, each⟩
              have own :=
                each (recordId numbers update.1.prop update.1.area)
              have before : store.propertyValues
                  (recordId numbers update.1.prop update.1.area) =
                    some val :=
                found
              rw [assigned_cons, if_pos rfl, before, convertedBy_cons,
                converted] at own
              cases own
          | ok next =>
              rcases @updateProperty_of_ok _ _ _ updateStatus _ _ _ _ _
                  found converted with ⟨middle, updated, configs, changed⟩
              rw [updated, ← configs]
              simp only [convertedBy_assigned_of_ok found converted changed]
              exact inductionHypothesis

/-! ## Values that cannot be read -/

/-- Values can be put in one by one if each can be put in at the start. -/
theorem convertedBy_returns_iff {val : VehiclePropValue Single}
    {jvals : List Value} :
    (∃ record, convertedBy numbers toFloat (some val) jvals = .ok record) ↔
      ∀ jval ∈ jvals,
        ∃ next, convertValue numbers toFloat val jval = .ok next := by
  induction jvals generalizing val with
  | nil => exact iff_of_true ⟨some val, rfl⟩ (by simp)
  | cons jval jvals inductionHypothesis =>
      rw [convertedBy_cons]
      cases converted : convertValue numbers toFloat val jval with
      | error fault =>
          refine iff_of_false ?_ fun all => ?_
          · rintro ⟨record, impossible⟩
            cases impossible
          · rcases all jval List.mem_cons_self with ⟨next, impossible⟩
            rw [converted] at impossible
            cases impossible
      | ok next =>
          have keeps := convertValue_keeps converted
          have sameProp : next.prop = val.prop := by rw [keeps.others]
          have same (other : Value) :
              (∃ after, convertValue numbers toFloat next other = .ok after) ↔
                ∃ after, convertValue numbers toFloat val other = .ok after := by
            constructor
            · rintro ⟨after, readable⟩
              rcases ok_of_bind readable with ⟨outcome, returned, -⟩
              rcases jsonToVehicle_returns_of_shape numbers toFloat
                  sameProp.symm keeps.size.symm ⟨outcome, returned⟩ with
                ⟨⟨done, after⟩, returned⟩
              exact ⟨after, by rw [convertValue, returned]; rfl⟩
            · rintro ⟨after, readable⟩
              rcases ok_of_bind readable with ⟨outcome, returned, -⟩
              rcases jsonToVehicle_returns_of_shape numbers toFloat
                  sameProp keeps.size ⟨outcome, returned⟩ with
                ⟨⟨done, after⟩, returned⟩
              exact ⟨after, by rw [convertValue, returned]; rfl⟩
          refine inductionHypothesis.trans ?_
          simp only [same, List.forall_mem_cons, converted, Except.ok.injEq,
            exists_eq', true_and]

/-- Updates come to an end if each value can be read for its record. -/
theorem updateAll_returns_iff {store : VehiclePropertyStore numbers Single}
    {updates : List (RecordId × Value)} :
    (∃ after, updateAll toFloat updateStatus store updates = .ok after) ↔
      ∀ id, ∃ record,
        convertedBy numbers toFloat (store.propertyValues id)
          (assigned numbers id updates) = .ok record := by
  constructor
  · rintro ⟨after, updated⟩ id
    exact ⟨_, (updateAll_eq_ok_iff.mp updated).2 id⟩
  · intro each
    induction updates generalizing store with
    | nil => exact ⟨store, rfl⟩
    | cons update updates inductionHypothesis =>
        rw [updateAll_cons]
        cases found : store.readValueOrNull update.1.prop update.1.area with
        | none =>
            rw [updateProperty_of_none found]
            simp only [convertedBy_assigned_of_none found] at each
            exact inductionHypothesis each
        | some val =>
            cases converted : convertValue numbers toFloat val update.2 with
            | error fault =>
                rcases each (recordId numbers update.1.prop update.1.area)
                  with ⟨record, impossible⟩
                have before : store.propertyValues
                    (recordId numbers update.1.prop update.1.area) =
                      some val :=
                  found
                rw [assigned_cons, if_pos rfl, before, convertedBy_cons,
                  converted] at impossible
                cases impossible
            | ok next =>
                rcases @updateProperty_of_ok _ _ _ updateStatus _ _ _ _ _
                    found converted with ⟨middle, updated, -, changed⟩
                simp only [convertedBy_assigned_of_ok found converted changed]
                  at each
                rw [updated]
                exact inductionHypothesis each

end

/-! ## Agreement of the two loops -/

section

variable {numbers : PropertyNumbers} {Single : Type}
  {toFloat : Value → Single} {table : NameTable}
  {store : VehiclePropertyStore numbers Single}
  {result : List (Name × Value)}

theorem mem_assigned_selected {select : Name → List RecordId}
    {id : RecordId} {jval : Value} :
    jval ∈ assigned numbers id (selected select result) ↔
      ∃ name, (name, jval) ∈ result ∧
        ∃ property ∈ select name,
          recordId numbers property.prop property.area = id := by
  simp only [assigned, selected, List.mem_map, List.mem_filter,
    List.mem_flatMap, decide_eq_true_eq]
  constructor
  · rintro ⟨-, ⟨⟨⟨name, value⟩, listed, property, chosen, rfl⟩, own⟩, rfl⟩
    exact ⟨name, listed, property, chosen, own⟩
  · rintro ⟨name, listed, property, chosen, own⟩
    exact ⟨(property, jval), ⟨⟨(name, jval), listed, property, chosen, rfl⟩,
      own⟩, rfl⟩

/-- A value cannot be read for the property that its name finds first. -/
def FirstUnreadable (toFloat : Value → Single) (table : NameTable)
    (store : VehiclePropertyStore numbers Single)
    (result : List (Name × Value)) : Prop :=
  ∃ name jval property val,
    (name, jval) ∈ result ∧ find table name = some property ∧
      store.readValueOrNull property.prop property.area = some val ∧
        ∀ next, convertValue numbers toFloat val jval ≠ .ok next

/-- The values of a record under the names for which it is found first. -/
def firstValues (numbers : PropertyNumbers) (table : NameTable)
    (result : List (Name × Value)) (id : RecordId) : List Value :=
  assigned numbers id
    (selected (fun name => (find table name).toList) result)

/-- The values of a record under all names that have an entry for it. -/
def allValues (numbers : PropertyNumbers) (table : NameTable)
    (result : List (Name × Value)) (id : RecordId) : List Value :=
  assigned numbers id (selected (equalRange table) result)

theorem firstValues_subset (id : RecordId) :
    firstValues numbers table result id ⊆
      allValues numbers table result id := by
  intro jval member
  rcases mem_assigned_selected.mp member with
    ⟨name, listed, property, chosen, own⟩
  have first : find table name = some property := Option.mem_toList.mp chosen
  exact mem_assigned_selected.mpr ⟨name, listed, property,
    List.mem_of_head? first, own⟩

theorem not_firstUnreadable_iff :
    ¬ FirstUnreadable toFloat table store result ↔
      ∃ after, processFetched toFloat table store result = .ok after := by
  rw [processFetched_eq, updateAll_returns_iff]
  constructor
  · intro readable id
    cases found : store.propertyValues id with
    | none => exact ⟨none, rfl⟩
    | some val =>
        apply convertedBy_returns_iff.mpr
        intro jval member
        rcases mem_assigned_selected.mp member with
          ⟨name, listed, property, chosen, own⟩
        by_contra unreadable
        refine readable ⟨name, jval, property, val, listed,
          Option.mem_toList.mp chosen, ?_, ?_⟩
        · rw [readValueOrNull, own]
          exact found
        · intro next converted
          exact unreadable ⟨next, converted⟩
  · rintro each ⟨name, jval, property, val, listed, first, found, unreadable⟩
    have returned := each (recordId numbers property.prop property.area)
    have held :
        store.propertyValues
            (recordId numbers property.prop property.area) = some val :=
      found
    rw [held] at returned
    have member :
        jval ∈ assigned numbers
          (recordId numbers property.prop property.area)
          (selected (fun name => (find table name).toList) result) :=
      mem_assigned_selected.mpr ⟨name, listed, property,
        Option.mem_toList.mpr first, rfl⟩
    rcases convertedBy_returns_iff.mp returned jval member with
      ⟨next, converted⟩
    exact unreadable next converted

theorem subscriptionHandler_fails (unreadable :
      FirstUnreadable toFloat table store result) :
    ¬ ∃ after, subscriptionHandler toFloat table store result = .ok after := by
  rw [subscriptionHandler_eq, updateAll_returns_iff]
  intro each
  refine absurd unreadable (not_firstUnreadable_iff.mpr ?_)
  rw [processFetched_eq, updateAll_returns_iff]
  intro id
  cases found : store.propertyValues id with
  | none => exact ⟨none, rfl⟩
  | some val =>
      have all := each id
      rw [found] at all
      apply convertedBy_returns_iff.mpr
      intro jval member
      exact convertedBy_returns_iff.mp all jval (firstValues_subset id member)

theorem error_of_not_returns {Result : Type} {outcome : Except Fault Result}
    (fails : ¬ ∃ result, outcome = .ok result) :
    outcome = .error .assertion := by
  cases outcome with
  | error fault => rfl
  | ok result => exact absurd ⟨result, rfl⟩ fails

/-- The loops agree if every record ends the same. -/
theorem processFetched_eq_iff :
    processFetched toFloat table store result =
        subscriptionHandler toFloat table store result ↔
      FirstUnreadable toFloat table store result ∨
        ∀ id,
          convertedBy numbers toFloat (store.propertyValues id)
              (firstValues numbers table result id) =
            convertedBy numbers toFloat (store.propertyValues id)
              (allValues numbers table result id) := by
  by_cases unreadable : FirstUnreadable toFloat table store result
  · have fetchFails := error_of_not_returns
      (fun returned => not_firstUnreadable_iff.mpr returned unreadable)
    have handlerFails :=
      error_of_not_returns (subscriptionHandler_fails unreadable)
    exact iff_of_true (fetchFails.trans handlerFails.symm)
      (Or.inl unreadable)
  · rcases not_firstUnreadable_iff.mp unreadable with ⟨after, fetched⟩
    have each := fetched
    rw [processFetched_eq, updateAll_eq_ok_iff] at each
    have same :
        processFetched toFloat table store result =
            subscriptionHandler toFloat table store result ↔
          subscriptionHandler toFloat table store result = .ok after := by
      rw [fetched, eq_comm]
    rw [same, subscriptionHandler_eq, updateAll_eq_ok_iff]
    constructor
    · rintro ⟨-, handled⟩
      exact Or.inr fun id => (each.2 id).trans (handled id).symm
    · rintro (impossible | agree)
      · exact absurd impossible unreadable
      · exact ⟨each.1, fun id => (agree id).symm.trans (each.2 id)⟩

/-! ## Records under a single name -/

/-- No two names of the result share a record. -/
def OneName (numbers : PropertyNumbers) (table : NameTable)
    (result : List (Name × Value)) : Prop :=
  ∀ name jval name' jval' property property',
    (name, jval) ∈ result → (name', jval') ∈ result →
      property ∈ equalRange table name →
        property' ∈ equalRange table name' →
          recordId numbers property.prop property.area =
              recordId numbers property'.prop property'.area →
            name = name' ∧ jval = jval'

/-- Every record that is not the first of its name holds its value already. -/
def OthersUpToDate (toFloat : Value → Single) (table : NameTable)
    (store : VehiclePropertyStore numbers Single)
    (result : List (Name × Value)) : Prop :=
  ∀ name jval property val,
    (name, jval) ∈ result → property ∈ equalRange table name →
      (∀ first, find table name = some first →
        recordId numbers first.prop first.area ≠
          recordId numbers property.prop property.area) →
        store.readValueOrNull property.prop property.area = some val →
          convertValue numbers toFloat val jval = .ok val

/-- To put in one value several times is to put it in once. -/
theorem convertedBy_of_same {val next : VehiclePropValue Single}
    {jval : Value} {jvals : List Value}
    (converted : convertValue numbers toFloat val jval = .ok next)
    (member : jval ∈ jvals) (same : ∀ other ∈ jvals, other = jval) :
    convertedBy numbers toFloat (some val) jvals = .ok (some next) := by
  have again : convertValue numbers toFloat next jval = .ok next := by
    rcases ok_of_bind converted with ⟨⟨done, changed⟩, returned, ⟨⟩⟩
    rw [convertValue, jsonToVehicle_again numbers toFloat returned]
    rfl
  have rest (others : List Value) (only : ∀ other ∈ others, other = jval) :
      convertedBy numbers toFloat (some next) others = .ok (some next) := by
    induction others with
    | nil => rfl
    | cons other others inductionHypothesis =>
        rw [convertedBy_cons, only other List.mem_cons_self, again]
        exact inductionHypothesis fun later listed =>
          only later (List.mem_cons_of_mem other listed)
  cases jvals with
  | nil => cases member
  | cons first jvals =>
      rw [convertedBy_cons, same first List.mem_cons_self, converted]
      exact rest jvals fun other listed =>
        same other (List.mem_cons_of_mem first listed)

/-- With one name for a record, the values of the record are all the same. -/
theorem OneName.same (one : OneName numbers table result) {id : RecordId}
    {jval other : Value}
    (member : jval ∈ allValues numbers table result id)
    (also : other ∈ allValues numbers table result id) :
    other = jval := by
  rcases mem_assigned_selected.mp member with
    ⟨name, listed, property, chosen, own⟩
  rcases mem_assigned_selected.mp also with
    ⟨name', listed', property', chosen', own'⟩
  exact (one name' other name jval property' property listed' listed chosen'
    chosen (own'.trans own.symm)).2

theorem OneName.convertedBy_allValues (one : OneName numbers table result)
    {id : RecordId} {val next : VehiclePropValue Single} {jval : Value}
    (member : jval ∈ allValues numbers table result id)
    (converted : convertValue numbers toFloat val jval = .ok next) :
    convertedBy numbers toFloat (some val)
      (allValues numbers table result id) = .ok (some next) :=
  convertedBy_of_same converted member fun _ also => one.same member also

theorem OneName.convertedBy_firstValues (one : OneName numbers table result)
    {id : RecordId} {val next : VehiclePropValue Single} {jval : Value}
    (member : jval ∈ firstValues numbers table result id)
    (converted : convertValue numbers toFloat val jval = .ok next) :
    convertedBy numbers toFloat (some val)
      (firstValues numbers table result id) = .ok (some next) :=
  convertedBy_of_same converted member fun _ also =>
    one.same (firstValues_subset id member) (firstValues_subset id also)

/-- A record that is not the first of its name is not found by the fetch. -/
theorem OneName.firstValues_eq_nil (one : OneName numbers table result)
    {name : Name} {jval : Value} {property : RecordId}
    (listed : (name, jval) ∈ result)
    (chosen : property ∈ equalRange table name)
    (notFirst :
      ∀ first, find table name = some first →
        recordId numbers first.prop first.area ≠
          recordId numbers property.prop property.area) :
    firstValues numbers table result
      (recordId numbers property.prop property.area) = [] := by
  apply List.eq_nil_iff_forall_not_mem.mpr
  intro other first
  rcases mem_assigned_selected.mp first with
    ⟨name', listed', property', chosen', own'⟩
  have found' := Option.mem_toList.mp chosen'
  have sameName := one name' other name jval property' property listed'
    listed (List.mem_of_head? found') chosen own'
  exact notFirst property' (sameName.1 ▸ found') own'

theorem OneName.agree_iff (one : OneName numbers table result)
    (readable : ¬ FirstUnreadable toFloat table store result) :
    (∀ id,
        convertedBy numbers toFloat (store.propertyValues id)
            (firstValues numbers table result id) =
          convertedBy numbers toFloat (store.propertyValues id)
            (allValues numbers table result id)) ↔
      OthersUpToDate toFloat table store result := by
  constructor
  · intro agree name jval property val listed chosen notFirst found
    have member : jval ∈ allValues numbers table result
        (recordId numbers property.prop property.area) :=
      mem_assigned_selected.mpr ⟨name, listed, property, chosen, rfl⟩
    have held : store.propertyValues
        (recordId numbers property.prop property.area) = some val :=
      found
    have same := agree (recordId numbers property.prop property.area)
    rw [one.firstValues_eq_nil listed chosen notFirst, held] at same
    have returned := convertedBy_returns_iff.mp ⟨some val, same.symm⟩ jval
      member
    rcases returned with ⟨next, converted⟩
    rw [one.convertedBy_allValues member converted] at same
    have unchanged :
        (Except.ok (some val) : Except Fault _) = .ok (some next) :=
      same
    cases unchanged
    exact converted
  · intro upToDate id
    cases held : store.propertyValues id with
    | none => rfl
    | some val =>
        by_cases found : ∃ jval, jval ∈ firstValues numbers table result id
        · rcases found with ⟨jval, firstMember⟩
          have member := firstValues_subset id firstMember
          rcases not_firstUnreadable_iff.mp readable with ⟨after, fetched⟩
          rw [processFetched_eq, updateAll_eq_ok_iff] at fetched
          have returned := fetched.2 id
          rw [held] at returned
          rcases convertedBy_returns_iff.mp ⟨_, returned⟩ jval firstMember
            with ⟨next, converted⟩
          rw [one.convertedBy_firstValues firstMember converted,
            one.convertedBy_allValues member converted]
        · have nothing : firstValues numbers table result id = [] :=
            List.eq_nil_iff_forall_not_mem.mpr fun jval member =>
              found ⟨jval, member⟩
          cases all : allValues numbers table result id with
          | nil => rw [nothing]
          | cons jval others =>
              have member : jval ∈ allValues numbers table result id := by
                rw [all]
                exact List.mem_cons_self
              rcases mem_assigned_selected.mp member with
                ⟨name, listed, property, chosen, own⟩
              have converted := upToDate name jval property val listed
                chosen ?_ (by rw [readValueOrNull, own, held])
              · rw [nothing, ← all,
                  one.convertedBy_allValues member converted]
                rfl
              · intro other first sameRecord
                exact found ⟨jval, mem_assigned_selected.mpr ⟨name, listed,
                  other, Option.mem_toList.mpr first,
                  sameRecord.trans own⟩⟩

/--
The initial fetch and a notification with the same values leave the same store
if and only if each record ends the same with the values of all its names as
with those of the names that find it first, or a value cannot be read at all.
If no record has two names, this means that the other records of a name are up
to date before.
-/
theorem fetch_agrees_iff :
    (processFetched toFloat table store result =
        subscriptionHandler toFloat table store result ↔
      FirstUnreadable toFloat table store result ∨
        ∀ id,
          convertedBy numbers toFloat (store.propertyValues id)
              (firstValues numbers table result id) =
            convertedBy numbers toFloat (store.propertyValues id)
              (allValues numbers table result id)) ∧
      (OneName numbers table result →
        (processFetched toFloat table store result =
            subscriptionHandler toFloat table store result ↔
          FirstUnreadable toFloat table store result ∨
            OthersUpToDate toFloat table store result)) := by
  refine ⟨processFetched_eq_iff, fun one => processFetched_eq_iff.trans ?_⟩
  by_cases unreadable : FirstUnreadable toFloat table store result
  · exact iff_of_true (Or.inl unreadable) (Or.inl unreadable)
  · rw [one.agree_iff unreadable]

end

/-! ## A name for two properties -/

/-- Two global integer properties, both still zero. -/
def twoProperties : VehiclePropertyStore interfaceNumbers Unit :=
  [0x11400101, 0x11400102].foldl
    (fun store prop =>
      (store.writeValue ⟨0, 0, prop, 0, obtainInt32 0⟩ true).2)
    (.empty [0x11400101, 0x11400102])

def sharedName : NameTable :=
  [([0x78], ⟨0x11400101, 0⟩), ([0x78], ⟨0x11400102, 0⟩)]

/-- Only a notification updates the second property. -/
theorem second_property_not_fetched :
    processFetched (fun _ => ()) sharedName twoProperties
        [([0x78], .int 5)] ≠
      subscriptionHandler (fun _ => ()) sharedName twoProperties
        [([0x78], .int 5)] := by
  intro same
  have second := congrArg
    (fun outcome => outcome.toOption.bind fun store =>
      store.propertyValues ⟨0x11400102, 0⟩) same
  revert second
  decide

end Anbox.Vehicle.ValueUpdates
