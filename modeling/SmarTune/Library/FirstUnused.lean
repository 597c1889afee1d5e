import Mathlib.Data.List.Range
import Mathlib.Data.Nat.Find
import Mathlib.Data.List.Perm.Subperm

/-!
# The first unused number

A search that counts up until it meets a number that is not in use.  Finitely
many numbers are in use, so it ends, and its result does not depend on how long
it was allowed to run.
-/

namespace FirstUnused

/-- Count up from a number for a limited number of rounds. -/
def search (used : List Nat) : Nat → Nat → Option Nat
  | 0, _ => none
  | rounds + 1, number =>
    if number ∈ used then search used rounds (number + 1) else some number

theorem search_eq_some_iff (used : List Nat) (rounds number found : Nat) :
    search used rounds number = some found ↔
      number ≤ found ∧ found < number + rounds ∧ found ∉ used ∧
        ∀ other, number ≤ other → other < found → other ∈ used := by
  induction rounds generalizing number with
  | zero =>
    simp only [search, reduceCtorEq, false_iff]
    omega
  | succ rounds hypothesis =>
    rw [search]
    split
    · next taken =>
      rw [hypothesis]
      constructor
      · rintro ⟨from_, below, free, first⟩
        refine ⟨by omega, by omega, free, fun other reached before => ?_⟩
        rcases reached.eq_or_lt with rfl | later
        · exact taken
        · exact first other later before
      · rintro ⟨from_, below, free, first⟩
        have later : number ≠ found := fun same => free (same ▸ taken)
        exact ⟨by omega, by omega, free, fun other reached before =>
          first other (by omega) before⟩
    · next free =>
      constructor
      · intro same
        obtain rfl := Option.some.inj same
        exact ⟨le_rfl, by omega, free, fun other reached before =>
          absurd reached (by omega)⟩
      · rintro ⟨from_, _, _, first⟩
        rcases from_.eq_or_lt with rfl | later
        · rfl
        · exact absurd (first number le_rfl later) free

/-- A stretch of numbers that are all in use is no longer than the list. -/
theorem length_le_of_used {used : List Nat} {number length : Nat}
    (all : ∀ other, number ≤ other → other < number + length → other ∈ used) :
    length ≤ used.length := by
  have subset : List.range' number length ⊆ used := fun other member =>
    have bounds := List.mem_range'_1.mp member
    all other bounds.1 bounds.2
  have long := (List.subperm_of_subset List.nodup_range' subset).length_le
  rwa [List.length_range'] at long

theorem exists_search_eq_some (used : List Nat) (number : Nat) :
    ∃ found, ∀ rounds, used.length < rounds →
      search used rounds number = some found := by
  have unused : ∃ found, number ≤ found ∧ found ∉ used := by
    by_contra all
    simp only [not_exists, not_and, not_not] at all
    have long : used.length + 1 ≤ used.length :=
      length_le_of_used fun other reached _ => all other reached
    omega
  obtain ⟨from_, free⟩ := Nat.find_spec unused
  have first : ∀ other, number ≤ other → other < Nat.find unused →
      other ∈ used := by
    intro other reached before
    by_contra absent
    exact Nat.find_min unused before ⟨reached, absent⟩
  have near : Nat.find unused - number ≤ used.length :=
    length_le_of_used fun other reached before =>
      first other reached (by omega)
  refine ⟨Nat.find unused, fun rounds enough => ?_⟩
  rw [search_eq_some_iff]
  exact ⟨from_, by omega, free, first⟩

end FirstUnused
