import Std.Data.TreeMap.Lemmas
import Mathlib.Data.List.Basic

/-!
# The entries of an ordered map

How the list of entries of a `TreeMap` changes when an entry is added or
removed, up to order, and what a lookup finds afterwards, stated with equality
of keys.
-/

namespace Anbox.Foundation.OrderedMap

open Std

universe u v

variable {Key : Type u} {Value : Type v} {compareKeys : Key → Key → Ordering}
variable [TransCmp compareKeys] [LawfulEqCmp compareKeys]

/-- A new key adds exactly its own entry. -/
theorem toList_insert_perm_cons
    {entries : TreeMap Key Value compareKeys} {key : Key}
    (absent : entries[key]? = none) (value : Value) :
    (entries.insert key value).toList.Perm
      ((key, value) :: entries.toList) := by
  classical
  have inserted :=
    TreeMap.toList_insert_perm (t := entries) (k := key) (v := value)
  rwa [List.filter_eq_self.mpr] at inserted
  rintro ⟨other, stored⟩ member
  have found := TreeMap.mem_toList_iff_getElem?_eq_some.mp member
  have different : key ≠ other := by
    rintro rfl
    simp [absent] at found
  simpa using different

/-- Erasing a key removes exactly its own entry. -/
theorem toList_perm_cons_erase
    {entries : TreeMap Key Value compareKeys} {key : Key} {value : Value}
    (found : entries[key]? = some value) :
    entries.toList.Perm ((key, value) :: (entries.erase key).toList) := by
  have restored : entries.Equiv ((entries.erase key).insert key value) := by
    apply TreeMap.Equiv.of_forall_constGet?_eq
    intro other
    rw [TreeMap.getElem?_insert, TreeMap.getElem?_erase]
    split
    · rename_i equal
      rw [← LawfulEqCmp.eq_of_compare equal, found]
    · rfl
  rw [restored.toList_eq]
  exact toList_insert_perm_cons TreeMap.getElem?_erase_self value

/-- The entries under one key are what a lookup finds. -/
theorem toList_filter_key [DecidableEq Key]
    (entries : TreeMap Key Value compareKeys) (key : Key) :
    entries.toList.filter (fun entry => entry.1 = key) =
      entries[key]?.toList.map fun value => (key, value) := by
  have outside : ∀ {others : TreeMap Key Value compareKeys},
      others[key]? = none →
        others.toList.filter (fun entry => entry.1 = key) = [] := by
    intro others absent
    apply List.filter_eq_nil_iff.mpr
    rintro ⟨other, value⟩ member same
    have found := TreeMap.mem_toList_iff_getElem?_eq_some.mp member
    obtain rfl : other = key := by simpa using same
    rw [absent] at found
    cases found
  cases found : entries[key]? with
  | none => exact outside found
  | some value =>
      have split := (toList_perm_cons_erase found).filter
        fun entry => entry.1 = key
      have gone : (entries.erase key)[key]? = none :=
        TreeMap.getElem?_erase_self
      rw [List.filter_cons_of_pos (by simp), outside gone] at split
      exact List.perm_singleton.mp split

/-! ## Lookups by equality of keys -/

/-- An entry that survives an erase was there before, under another key. -/
theorem getElem?_erase_eq_some_iff
    {entries : TreeMap Key Value compareKeys} {erased key : Key}
    {value : Value} :
    (entries.erase erased)[key]? = some value ↔
      key ≠ erased ∧ entries[key]? = some value := by
  rw [TreeMap.getElem?_erase]
  by_cases same : key = erased
  · subst same
    simp [ReflCmp.compare_self]
  · have different : compareKeys erased key ≠ .eq :=
      fun equal => same (LawfulEqCmp.compare_eq_iff_eq.mp equal).symm
    simp [different, same]

/-- An erase changes what is found under its own key only. -/
theorem getElem?_erase_of_ne
    {entries : TreeMap Key Value compareKeys} {erased key : Key}
    (different : key ≠ erased) :
    (entries.erase erased)[key]? = entries[key]? := by
  apply Option.ext
  intro value
  constructor
  · intro found
    exact (getElem?_erase_eq_some_iff.mp found).2
  · intro found
    exact getElem?_erase_eq_some_iff.mpr ⟨different, found⟩

/-- An insertion changes the value of its own key only. -/
theorem getElem?_insert_eq [DecidableEq Key]
    (entries : TreeMap Key Value compareKeys) (inserted : Key)
    (value : Value) (key : Key) :
    (entries.insert inserted value)[key]? =
      if key = inserted then some value else entries[key]? := by
  rw [TreeMap.getElem?_insert]
  by_cases same : key = inserted
  · subst same
    simp [ReflCmp.compare_self]
  · have different : compareKeys inserted key ≠ .eq :=
      fun equal => same (LawfulEqCmp.compare_eq_iff_eq.mp equal).symm
    simp [different, same]

theorem mem_insert_iff {entries : TreeMap Key Value compareKeys}
    {inserted key : Key} {value : Value} :
    key ∈ entries.insert inserted value ↔ key = inserted ∨ key ∈ entries := by
  rw [TreeMap.mem_insert, LawfulEqCmp.compare_eq_iff_eq, eq_comm]

theorem mem_erase_iff {entries : TreeMap Key Value compareKeys}
    {erased key : Key} :
    key ∈ entries.erase erased ↔ key ≠ erased ∧ key ∈ entries := by
  rw [TreeMap.mem_erase, ne_eq, LawfulEqCmp.compare_eq_iff_eq, eq_comm]

/-- `insertIfNew` with a new key is an insertion. -/
theorem getElem?_insertIfNew_of_fresh [DecidableEq Key]
    {entries : TreeMap Key Value compareKeys} {fresh : Key}
    (absent : fresh ∉ entries) (value : Value) (key : Key) :
    (entries.insertIfNew fresh value)[key]? =
      if key = fresh then some value else entries[key]? := by
  rw [TreeMap.getElem?_insertIfNew]
  by_cases same : key = fresh
  · subst same
    simp [ReflCmp.compare_self, absent]
  · have different : compareKeys fresh key ≠ .eq :=
      fun equal => same (LawfulEqCmp.compare_eq_iff_eq.mp equal).symm
    simp [different, same]

/-- `insertIfNew` keeps every entry. -/
theorem getElem?_insertIfNew_of_some
    {entries : TreeMap Key Value compareKeys} {key : Key} {value : Value}
    (found : entries[key]? = some value) (other : Key) (otherValue : Value) :
    (entries.insertIfNew other otherValue)[key]? = some value := by
  rw [TreeMap.getElem?_insertIfNew, if_neg]
  · exact found
  · rintro ⟨same, absent⟩
    obtain rfl := LawfulEqCmp.compare_eq_iff_eq.mp same
    exact absent (TreeMap.mem_iff_isSome_getElem?.mpr (by simp [found]))

/-- `insertIfNew` finds the old value of its key before the new one. -/
theorem getElem?_insertIfNew_or [DecidableEq Key]
    (entries : TreeMap Key Value compareKeys) (inserted : Key)
    (value : Value) (key : Key) :
    (entries.insertIfNew inserted value)[key]? =
      if key = inserted then entries[key]?.or (some value)
      else entries[key]? := by
  cases held : entries[inserted]? with
  | none =>
      have absent : inserted ∉ entries := by
        simp [TreeMap.mem_iff_isSome_getElem?, held]
      rw [getElem?_insertIfNew_of_fresh absent]
      split
      · next same => simp [same, held]
      · rfl
  | some old =>
      split
      · next same =>
        rw [same, getElem?_insertIfNew_of_some held, held]
        rfl
      · next different =>
        have other : compareKeys inserted key ≠ .eq :=
          fun equal => different (LawfulEqCmp.compare_eq_iff_eq.mp equal).symm
        simp [TreeMap.getElem?_insertIfNew, other]

/-- What is found after `insertIfNew` was there or is the new entry. -/
theorem getElem?_insertIfNew_eq_some
    {entries : TreeMap Key Value compareKeys} {key other : Key}
    {value otherValue : Value}
    (found : (entries.insertIfNew other otherValue)[key]? = some value) :
    entries[key]? = some value ∨ key = other ∧ value = otherValue := by
  rw [TreeMap.getElem?_insertIfNew] at found
  split at found
  · next new =>
    right
    exact ⟨(LawfulEqCmp.compare_eq_iff_eq.mp new.1).symm,
      (Option.some.inj found).symm⟩
  · exact Or.inl found

/-! ## The first entry -/

section

variable {entries : TreeMap Key Value compareKeys} {key : Key}
variable {holds : Key → Bool}

/-- A search in order finds the least key, with its value. -/
theorem find?_toList_eq_some {value : Value}
    (found :
      entries.toList.find? (fun entry => holds entry.1) =
        some (key, value)) :
    entries[key]? = some value ∧ holds key = true ∧
      ∀ other, other ∈ entries → holds other = true →
        (compareKeys key other).isLE := by
  have keyHolds := List.find?_some found
  have member := List.mem_of_find?_eq_some found
  refine ⟨TreeMap.mem_toList_iff_getElem?_eq_some.mp member, keyHolds, ?_⟩
  intro other inside otherHolds
  rcases List.find?_eq_some_iff_append.mp found with
    ⟨-, before, behind, split, earlier⟩
  have ordered := @TreeMap.ordered_keys_toList _ _ _ entries _
  rw [TreeMap.mem_iff_isSome_getElem?, Option.isSome_iff_exists] at inside
  rcases inside with ⟨stored, inside⟩
  have place := TreeMap.mem_toList_iff_getElem?_eq_some.mpr inside
  rw [split] at place ordered
  rcases List.mem_append.mp place with first | last
  · have notEarlier := earlier _ first
    simp [otherHolds] at notEarlier
  · rcases List.mem_cons.mp last with same | later
    · cases same
      exact Ordering.isLE_of_eq_eq ReflCmp.compare_self
    · have tail := (List.pairwise_append.mp ordered).2.1
      exact Ordering.isLE_of_eq_lt
        ((List.pairwise_cons.mp tail).1 _ later)

theorem find?_toList_eq_none
    (none : entries.toList.find? (fun entry => holds entry.1) = none) :
    ∀ other, other ∈ entries → holds other = false := by
  intro other inside
  rw [TreeMap.mem_iff_isSome_getElem?, Option.isSome_iff_exists] at inside
  rcases inside with ⟨stored, inside⟩
  have place := TreeMap.mem_toList_iff_getElem?_eq_some.mpr inside
  have notHere := List.find?_eq_none.mp none _ place
  simpa using notHere

end

/-! ## Adding the entries of a list -/

/-- Add the entries of a list whose keys are new. -/
def insertAllIfNew (entries : TreeMap Key Value compareKeys)
    (added : List (Key × Value)) : TreeMap Key Value compareKeys :=
  added.foldl (fun table entry => table.insertIfNew entry.1 entry.2) entries

theorem getElem?_insertAllIfNew_of_some
    {entries : TreeMap Key Value compareKeys} {key : Key} {value : Value}
    (found : entries[key]? = some value) (added : List (Key × Value)) :
    (insertAllIfNew entries added)[key]? = some value := by
  induction added generalizing entries with
  | nil => exact found
  | cons entry added inductionHypothesis =>
      exact inductionHypothesis
        (getElem?_insertIfNew_of_some found entry.1 entry.2)

/-- What is found afterwards was there or is in the list. -/
theorem getElem?_insertAllIfNew_eq_some
    {entries : TreeMap Key Value compareKeys} {key : Key} {value : Value}
    {added : List (Key × Value)}
    (found : (insertAllIfNew entries added)[key]? = some value) :
    entries[key]? = some value ∨ (key, value) ∈ added := by
  induction added generalizing entries with
  | nil => exact Or.inl found
  | cons entry added inductionHypothesis =>
      rcases inductionHypothesis found with before | later
      · rcases getElem?_insertIfNew_eq_some before with old | ⟨rfl, rfl⟩
        · exact Or.inl old
        · exact Or.inr List.mem_cons_self
      · exact Or.inr (List.mem_cons_of_mem entry later)

/-- With distinct keys every entry whose key is new is added. -/
theorem getElem?_insertAllIfNew_of_mem [DecidableEq Key]
    {entries : TreeMap Key Value compareKeys} {key : Key} {value : Value}
    {added : List (Key × Value)}
    (distinct : added.Pairwise fun first second => first.1 ≠ second.1)
    (member : (key, value) ∈ added) (absent : key ∉ entries) :
    (insertAllIfNew entries added)[key]? = some value := by
  induction added generalizing entries with
  | nil => cases member
  | cons entry added inductionHypothesis =>
      rcases List.pairwise_cons.mp distinct with ⟨differs, distinct⟩
      rcases List.mem_cons.mp member with rfl | later
      · have inserted : (entries.insertIfNew key value)[key]? = some value := by
          rw [getElem?_insertIfNew_of_fresh absent, if_pos rfl]
        exact getElem?_insertAllIfNew_of_some inserted added
      · refine inductionHypothesis distinct later ?_
        have different : entry.1 ≠ key := differs (key, value) later
        intro inserted
        rcases TreeMap.mem_insertIfNew.mp inserted with same | before
        · exact different (LawfulEqCmp.compare_eq_iff_eq.mp same)
        · exact absent before

/-- Without further assumptions the first entry with a key is added. -/
theorem getElem?_insertAllIfNew [DecidableEq Key]
    (entries : TreeMap Key Value compareKeys) (added : List (Key × Value))
    (key : Key) :
    (insertAllIfNew entries added)[key]? =
      entries[key]?.or ((added.find? (·.1 = key)).map Prod.snd) := by
  induction added generalizing entries with
  | nil => simp [insertAllIfNew]
  | cons entry added inductionHypothesis =>
      refine (inductionHypothesis _).trans ?_
      rw [getElem?_insertIfNew_or]
      by_cases same : key = entry.1
      · rw [if_pos same, List.find?_cons_of_pos (by simp [same]),
          Option.or_assoc]
        rfl
      · rw [if_neg same, List.find?_cons_of_neg (by simp [Ne.symm same])]

/-! ## Overwriting with the entries of a list -/

/-- The value that a list of entries has for a key in the end. -/
def lastValue [DecidableEq Key] (key : Key) :
    List (Key × Value) → Option Value
  | [] => none
  | entry :: entries =>
      (lastValue key entries).or
        (if entry.1 = key then some entry.2 else none)

theorem lastValue_append [DecidableEq Key] (key : Key)
    (first second : List (Key × Value)) :
    lastValue key (first ++ second) =
      (lastValue key second).or (lastValue key first) := by
  induction first with
  | nil => simp [lastValue]
  | cons entry first inductionHypothesis =>
      simp only [List.cons_append, lastValue, inductionHypothesis,
        Option.or_assoc]

/-- Insert the entries of a list one after another. -/
def insertAll (entries : TreeMap Key Value compareKeys)
    (added : List (Key × Value)) : TreeMap Key Value compareKeys :=
  added.foldl (fun table entry => table.insert entry.1 entry.2) entries

/-- The last entry of the list with a key wins. -/
theorem getElem?_insertAll [DecidableEq Key]
    (entries : TreeMap Key Value compareKeys) (added : List (Key × Value))
    (key : Key) :
    (insertAll entries added)[key]? =
      (lastValue key added).or entries[key]? := by
  induction added generalizing entries with
  | nil => rfl
  | cons entry added inductionHypothesis =>
      have inserted := inductionHypothesis (entries.insert entry.1 entry.2)
      rw [getElem?_insert_eq] at inserted
      simp only [lastValue, Option.or_assoc]
      refine inserted.trans (congrArg _ ?_)
      by_cases same : key = entry.1
      · simp [same]
      · simp [same, Ne.symm same]

end Anbox.Foundation.OrderedMap
