import Mathlib.Data.Rat.Floor

/-!
# Whole shares

A quantity of a field is handed out as a whole number, truncated and at least
one.  `Fits` compares two quantities by the whole shares above that minimum
they leave room for; it is exactly the order of the shares handed out.
-/

namespace Shares

variable {α : Type*} [Field α] [LinearOrder α]

/-- Every whole share above the minimum that fits the first quantity fits the
second one. -/
def Fits (part other : α) : Prop :=
  ∀ share : ℤ, 2 ≤ share → (share : α) ≤ part → (share : α) ≤ other

theorem Fits.of_le {part other : α} (le : part ≤ other) :
    Fits part other :=
  fun _ _ fits => fits.trans le

variable [FloorRing α]

/-- The share handed out for a quantity. -/
def whole (part : α) : ℤ := max 1 ⌊part⌋

theorem one_le_whole (part : α) : 1 ≤ whole part := le_max_left _ _

theorem le_whole_iff {share : ℤ} (aboveMinimum : 2 ≤ share) (part : α) :
    share ≤ whole part ↔ (share : α) ≤ part := by
  rw [whole, le_max_iff, Int.le_floor]
  constructor
  · rintro (minimal | fits)
    · omega
    · exact fits
  · exact Or.inr

/-- The first share is at most the second one when the quantities compare. -/
theorem whole_le_whole_iff (part other : α) :
    whole part ≤ whole other ↔ Fits part other := by
  constructor
  · intro le share aboveMinimum fits
    have below := (le_whole_iff aboveMinimum part).mpr fits
    exact (le_whole_iff aboveMinimum other).mp (below.trans le)
  · intro fits
    rcases (one_le_whole part).eq_or_lt with minimal | above
    · exact minimal ▸ one_le_whole other
    · have aboveMinimum : 2 ≤ whole part := by omega
      exact (le_whole_iff aboveMinimum other).mpr (fits _ aboveMinimum
        ((le_whole_iff aboveMinimum part).mp le_rfl))

variable [IsStrictOrderedRing α]

/-- A share is at most a quantity, itself at least one, when the quantities
compare. -/
theorem whole_le_max_iff (part other : α) :
    (whole part : α) ≤ max 1 other ↔ Fits part other := by
  constructor
  · intro le share aboveMinimum fits
    have below : (share : α) ≤ whole part := by
      exact_mod_cast (le_whole_iff aboveMinimum part).mpr fits
    rcases le_max_iff.mp (below.trans le) with minimal | reached
    · have : share ≤ 1 := by exact_mod_cast minimal
      omega
    · exact reached
  · intro fits
    rcases (one_le_whole part).eq_or_lt with minimal | above
    · rw [← minimal, Int.cast_one]
      exact le_max_left _ _
    · have aboveMinimum : 2 ≤ whole part := by omega
      exact (fits _ aboveMinimum
        ((le_whole_iff aboveMinimum part).mp le_rfl)).trans (le_max_right _ _)

/-- A whole share exceeds its quantity by one at most. -/
theorem whole_le_add_one {part : α} (nonneg : 0 ≤ part) :
    (whole part : α) ≤ part + 1 := by
  rw [whole, Int.cast_max, Int.cast_one]
  apply max_le
  · exact le_add_of_nonneg_left nonneg
  · exact (Int.floor_le part).trans (le_add_of_nonneg_right zero_le_one)

/-- Whole shares add up to their quantities and one for each share at most. -/
theorem sum_whole_le {parts : List α} (nonneg : ∀ part ∈ parts, 0 ≤ part) :
    ((parts.map whole).sum : α) ≤ parts.sum + parts.length := by
  induction parts with
  | nil => simp
  | cons first rest hypothesis =>
    have head := whole_le_add_one (nonneg first (List.mem_cons_self ..))
    have tail := hypothesis fun part member =>
      nonneg part (List.mem_cons_of_mem _ member)
    simp only [List.map_cons, List.sum_cons, List.length_cons, Int.cast_add,
      Nat.cast_add, Nat.cast_one]
    calc (whole first : α) + ((rest.map whole).sum : α)
        ≤ (first + 1) + (rest.sum + rest.length) := add_le_add head tail
      _ = first + rest.sum + (rest.length + 1) := by abel

end Shares
