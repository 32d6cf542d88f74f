import Mathlib.Algebra.Order.Ring.Nat
import Mathlib.Tactic.Cases

/-!
# Searching upwards from a wrapping counter

A 32-bit counter is incremented until it shows an acceptable value.  After
`2 ^ 32` rounds the counter is back where it began, so a search that has not
ended by then never ends.
-/

namespace Anbox.Foundation.CyclicSearch

/-- Increment `counter` until it is acceptable, for at most `fuel` rounds. -/
def searchFuel (accepts : UInt32 → Bool) : Nat → UInt32 → Option UInt32
  | 0, _ => none
  | fuel + 1, counter =>
      if accepts (counter + 1) then some (counter + 1)
      else searchFuel accepts fuel (counter + 1)

/-- The value the search ends with, or `none` if it runs forever. -/
def search (accepts : UInt32 → Bool) (counter : UInt32) : Option UInt32 :=
  searchFuel accepts (2 ^ 32) counter

/-- The value shown after `distance + 1` increments. -/
def ahead (counter : UInt32) (distance : Nat) : UInt32 :=
  counter + UInt32.ofNat (distance + 1)

@[simp]
theorem ahead_zero (counter : UInt32) : ahead counter 0 = counter + 1 :=
  rfl

theorem ahead_succ (counter : UInt32) (distance : Nat) :
    ahead counter (distance + 1) = ahead (counter + 1) distance := by
  apply UInt32.toNat_inj.mp
  simp only [ahead, UInt32.toNat_add, UInt32.toNat_ofNat', UInt32.toNat_one]
  omega

/-- The value at `distance` is acceptable and none before it is. -/
def FirstAt (accepts : UInt32 → Bool)
    (counter : UInt32) (distance : Nat) : Prop :=
  accepts (ahead counter distance) = true ∧
    ∀ earlier < distance, accepts (ahead counter earlier) = false

theorem firstAt_succ_iff
    {accepts : UInt32 → Bool} {counter : UInt32} {distance : Nat} :
    FirstAt accepts counter (distance + 1) ↔
      accepts (counter + 1) = false ∧
        FirstAt accepts (counter + 1) distance := by
  constructor
  · rintro ⟨accepted, before⟩
    refine ⟨before 0 (Nat.succ_pos distance), ?_, ?_⟩
    · rwa [ahead_succ] at accepted
    · intro earlier bound
      rw [← ahead_succ]
      exact before (earlier + 1) (Nat.succ_lt_succ bound)
  · rintro ⟨head, accepted, before⟩
    refine ⟨by rwa [ahead_succ], ?_⟩
    intro earlier bound
    cases earlier with
    | zero => exact head
    | succ earlier =>
        rw [ahead_succ]
        exact before earlier (Nat.lt_of_succ_lt_succ bound)

theorem firstAt_zero_iff
    {accepts : UInt32 → Bool} {counter : UInt32} :
    FirstAt accepts counter 0 ↔ accepts (counter + 1) = true := by
  simp [FirstAt]

theorem searchFuel_eq_some_iff
    {accepts : UInt32 → Bool} {fuel : Nat} {counter found : UInt32} :
    searchFuel accepts fuel counter = some found ↔
      ∃ distance < fuel,
        found = ahead counter distance ∧ FirstAt accepts counter distance := by
  induction fuel generalizing counter with
  | zero => simp [searchFuel]
  | succ fuel inductionHypothesis =>
      rw [searchFuel]
      split
      · next accepted =>
        constructor
        · intro same
          obtain rfl := Option.some.inj same
          exact ⟨0, Nat.succ_pos fuel, rfl, firstAt_zero_iff.mpr accepted⟩
        · rintro ⟨distance, -, rfl, first⟩
          cases distance with
          | zero => rfl
          | succ distance =>
              have rejected := (firstAt_succ_iff.mp first).1
              rw [accepted] at rejected
              cases rejected
      · next rejected =>
        rw [inductionHypothesis]
        constructor
        · rintro ⟨distance, bound, rfl, first⟩
          refine ⟨distance + 1, Nat.succ_lt_succ bound, ?_, ?_⟩
          · rw [ahead_succ]
          · exact firstAt_succ_iff.mpr ⟨by simpa using rejected, first⟩
        · rintro ⟨distance, bound, rfl, first⟩
          cases distance with
          | zero => exact absurd (firstAt_zero_iff.mp first) rejected
          | succ distance =>
              exact ⟨distance, Nat.lt_of_succ_lt_succ bound,
                ahead_succ counter distance, (firstAt_succ_iff.mp first).2⟩

/-- The first acceptable value comes up before the counter is back. -/
theorem FirstAt.lt {accepts : UInt32 → Bool} {counter : UInt32}
    {distance : Nat} (first : FirstAt accepts counter distance) :
    distance < 2 ^ 32 := by
  by_contra far
  have back :
      ahead counter (distance - 2 ^ 32) = ahead counter distance := by
    apply UInt32.toNat_inj.mp
    simp only [ahead, UInt32.toNat_add, UInt32.toNat_ofNat']
    omega
  have rejected := first.2 (distance - 2 ^ 32) (by omega)
  rw [back, first.1] at rejected
  cases rejected

/-- A search ends at the first acceptable value. -/
theorem search_eq_some_iff
    {accepts : UInt32 → Bool} {counter found : UInt32} :
    search accepts counter = some found ↔
      ∃ distance,
        found = ahead counter distance ∧
          FirstAt accepts counter distance := by
  rw [search, searchFuel_eq_some_iff]
  constructor
  · rintro ⟨distance, -, same, first⟩
    exact ⟨distance, same, first⟩
  · rintro ⟨distance, same, first⟩
    exact ⟨distance, first.lt, same, first⟩

theorem search_accepts
    {accepts : UInt32 → Bool} {counter found : UInt32}
    (ended : search accepts counter = some found) :
    accepts found = true := by
  obtain ⟨distance, rfl, first⟩ := search_eq_some_iff.mp ended
  exact first.1

theorem search_of_accepts_next
    {accepts : UInt32 → Bool} {counter : UInt32}
    (accepted : accepts (counter + 1) = true) :
    search accepts counter = some (counter + 1) := by
  rw [search_eq_some_iff]
  exact ⟨0, rfl, firstAt_zero_iff.mpr accepted⟩

end Anbox.Foundation.CyclicSearch
