import Mathlib.Algebra.Order.Field.Basic
import Mathlib.Algebra.Order.BigOperators.Group.List
import Mathlib.Algebra.Order.Group.MinMax
import Mathlib.Tactic.Linarith
import Mathlib.Tactic.Ring

/-!
# Noisy-or and ramps

Two fractions are combined as the failures of independent causes are: the
result fails when both do.  It fills the headroom that the first leaves by the
second, so it never falls when one of them grows.  A ramp rises from zero to
one between two marks.
-/

namespace NoisyOr

variable {K : Type*} [Field K]

/-- Neither of the two fractions, taken from one. -/
def noisyOr (first second : K) : K := 1 - (1 - first) * (1 - second)

theorem noisyOr_eq_add (first second : K) :
    noisyOr first second = first + (1 - first) * second := by
  unfold noisyOr
  ring

theorem noisyOr_comm (first second : K) :
    noisyOr first second = noisyOr second first := by
  unfold noisyOr
  ring

@[simp] theorem noisyOr_zero (first : K) : noisyOr first 0 = first := by
  simp [noisyOr]

@[simp] theorem noisyOr_one (first : K) : noisyOr first 1 = 1 := by
  simp [noisyOr]

variable [LinearOrder K] [IsStrictOrderedRing K]
  {first second third fourth : K}

/-- It grows with both fractions. -/
theorem noisyOr_le_noisyOr (left : first ≤ third) (right : second ≤ fourth)
    (thirdLeOne : third ≤ 1) (secondLeOne : second ≤ 1) :
    noisyOr first second ≤ noisyOr third fourth := by
  have products : (1 - third) * (1 - fourth) ≤ (1 - first) * (1 - second) := by
    calc (1 - third) * (1 - fourth) ≤ (1 - third) * (1 - second) := by
          apply mul_le_mul_of_nonneg_left _ (by linarith)
          linarith
      _ ≤ (1 - first) * (1 - second) := by
          apply mul_le_mul_of_nonneg_right _ (by linarith)
          linarith
  unfold noisyOr
  linarith

theorem left_le_noisyOr (firstLeOne : first ≤ 1) (nonneg : 0 ≤ second) :
    first ≤ noisyOr first second := by
  rw [noisyOr_eq_add]
  have filled := mul_nonneg (sub_nonneg.mpr firstLeOne) nonneg
  linarith

theorem right_le_noisyOr (secondLeOne : second ≤ 1) (nonneg : 0 ≤ first) :
    second ≤ noisyOr first second := by
  rw [noisyOr_comm]
  exact left_le_noisyOr secondLeOne nonneg

theorem noisyOr_le_one (firstLeOne : first ≤ 1) (secondLeOne : second ≤ 1) :
    noisyOr first second ≤ 1 := by
  have product := mul_nonneg (sub_nonneg.mpr firstLeOne)
    (sub_nonneg.mpr secondLeOne)
  unfold noisyOr
  linarith

/-! ## Ramps -/

/-- From zero at the low mark to one at the high mark; one throughout when the
marks are not in order. -/
def ramp (low high value : K) : K :=
  max 0 (min 1 (if low < high then (value - low) / (high - low) else 1))

variable {low high value other : K}

omit [IsStrictOrderedRing K] in
theorem ramp_nonneg : 0 ≤ ramp low high value := le_max_left _ _

theorem ramp_le_one : ramp low high value ≤ 1 :=
  max_le zero_le_one (min_le_left _ _)

theorem ramp_le_ramp (values : value ≤ other) :
    ramp low high value ≤ ramp low high other := by
  unfold ramp
  split
  · next ordered =>
    have width : 0 < high - low := sub_pos.mpr ordered
    have rise : (value - low) / (high - low) ≤ (other - low) / (high - low) :=
      div_le_div_of_nonneg_right (by linarith) width.le
    exact max_le_max le_rfl (min_le_min le_rfl rise)
  · exact le_rfl

theorem ramp_eq_zero (ordered : low < high) (below : value ≤ low) :
    ramp low high value = 0 := by
  have width : 0 < high - low := sub_pos.mpr ordered
  have negative : (value - low) / (high - low) ≤ 0 :=
    div_nonpos_of_nonpos_of_nonneg (by linarith) width.le
  rw [ramp, if_pos ordered]
  exact max_eq_left ((min_le_right _ _).trans negative)

theorem ramp_eq_one (above : high ≤ value) :
    ramp low high value = 1 := by
  have full : 1 ≤ (if low < high then (value - low) / (high - low) else 1) := by
    split
    · next ordered =>
      rw [le_div_iff₀ (sub_pos.mpr ordered)]
      linarith
    · exact le_rfl
  rw [ramp, min_eq_left full]
  exact max_eq_right zero_le_one

/-! ## Many fractions -/

def greatest (values : List K) : K := values.max?.getD 0

/-- The mean of a list, zero when the list is empty. -/
def mean (values : List K) : K := values.sum / values.length

/-- The mean, and the greatest value at a weight. -/
def aggregate (weight : K) (values : List K) : K :=
  noisyOr (mean values) (greatest values * weight)

def Fractions (values : List K) : Prop :=
  ∀ value ∈ values, 0 ≤ value ∧ value ≤ 1

variable {values others : List K} {weight : K}

section Greatest

omit [IsStrictOrderedRing K]

theorem greatest_eq_iff (filled : values ≠ []) {value : K} :
    greatest values = value ↔
      value ∈ values ∧ ∀ other ∈ values, other ≤ value := by
  rw [← List.max?_eq_some_iff, greatest]
  cases found : values.max? with
  | none => exact absurd (List.max?_eq_none_iff.mp found) filled
  | some most => simp

theorem greatest_mem (filled : values ≠ []) : greatest values ∈ values :=
  ((greatest_eq_iff filled).mp rfl).1

theorem le_greatest {value : K} (member : value ∈ values) :
    value ≤ greatest values :=
  ((greatest_eq_iff (List.ne_nil_of_mem member)).mp rfl).2 value member

theorem greatest_perm (perm : values.Perm others) :
    greatest values = greatest others := by
  by_cases empty : others = []
  · subst empty
    rw [List.perm_nil.mp perm]
  · have filled : values ≠ [] := by
      rintro rfl
      exact empty (List.nil_perm.mp perm)
    rw [greatest_eq_iff filled]
    refine ⟨perm.mem_iff.mpr (greatest_mem empty), ?_⟩
    intro other member
    exact le_greatest (perm.mem_iff.mp member)

theorem greatest_range [ZeroLEOneClass K] (fractions : Fractions values) :
    0 ≤ greatest values ∧ greatest values ≤ 1 := by
  by_cases empty : values = []
  · rw [empty]
    exact ⟨le_rfl, zero_le_one⟩
  · exact fractions _ (greatest_mem empty)

omit [Field K] in
theorem exists_le_of_forall₂ (grow : List.Forall₂ (· ≤ ·) values others)
    {value : K} (member : value ∈ values) :
    ∃ other ∈ others, value ≤ other := by
  induction grow with
  | nil => cases member
  | cons first _ ih =>
    rcases List.mem_cons.mp member with rfl | member
    · exact ⟨_, List.mem_cons_self, first⟩
    · obtain ⟨other, inside, le⟩ := ih member
      exact ⟨other, List.mem_cons_of_mem _ inside, le⟩

theorem greatest_le_greatest (grow : List.Forall₂ (· ≤ ·) values others) :
    greatest values ≤ greatest others := by
  by_cases empty : values = []
  · subst empty
    rw [List.forall₂_nil_left_iff.mp grow]
  · obtain ⟨other, inside, le⟩ := exists_le_of_forall₂ grow (greatest_mem empty)
    exact le.trans (le_greatest inside)

end Greatest

theorem mean_range (fractions : Fractions values) :
    0 ≤ mean values ∧ mean values ≤ 1 := by
  have nonneg : 0 ≤ values.sum :=
    List.sum_nonneg fun value member => (fractions value member).1
  have most : values.sum ≤ values.length := by
    have total := List.sum_le_card_nsmul values 1 fun value member =>
      (fractions value member).2
    simpa using total
  exact ⟨div_nonneg nonneg (Nat.cast_nonneg _),
    div_le_one_of_le₀ most (Nat.cast_nonneg _)⟩

omit [LinearOrder K] [IsStrictOrderedRing K] in
theorem mean_perm (perm : values.Perm others) : mean values = mean others := by
  rw [mean, mean, perm.sum_eq, perm.length_eq]

theorem mean_le_mean (grow : List.Forall₂ (· ≤ ·) values others) :
    mean values ≤ mean others := by
  rw [mean, mean, grow.length_eq]
  exact div_le_div_of_nonneg_right grow.sum_le_sum (Nat.cast_nonneg _)

section Weight

variable (weightNonneg : 0 ≤ weight) (weightLeOne : weight ≤ 1)

include weightNonneg weightLeOne

theorem weighted_range (fractions : Fractions values) :
    0 ≤ greatest values * weight ∧ greatest values * weight ≤ 1 := by
  have range := greatest_range fractions
  exact ⟨mul_nonneg range.1 weightNonneg,
    mul_le_one₀ range.2 weightNonneg weightLeOne⟩

/-- The aggregate is at least each of its parts and at most one. -/
theorem aggregate_range (fractions : Fractions values) :
    max (mean values) (greatest values * weight) ≤ aggregate weight values ∧
      aggregate weight values ≤ 1 := by
  have means := mean_range fractions
  have weighted := weighted_range weightNonneg weightLeOne fractions
  exact ⟨max_le (left_le_noisyOr means.2 weighted.1)
      (right_le_noisyOr weighted.2 means.1),
    noisyOr_le_one means.2 weighted.2⟩

theorem aggregate_le_aggregate (grow : List.Forall₂ (· ≤ ·) values others)
    (fractions : Fractions values) (otherFractions : Fractions others) :
    aggregate weight values ≤ aggregate weight others :=
  noisyOr_le_noisyOr (mean_le_mean grow)
    (mul_le_mul_of_nonneg_right (greatest_le_greatest grow) weightNonneg)
    (mean_range otherFractions).2
    (weighted_range weightNonneg weightLeOne fractions).2

theorem weight_le_aggregate (fractions : Fractions values) (full : 1 ∈ values) :
    weight ≤ aggregate weight values := by
  have top : greatest values = 1 :=
    le_antisymm (greatest_range fractions).2 (le_greatest full)
  have most := (aggregate_range weightNonneg weightLeOne fractions).1
  rw [top, one_mul] at most
  exact (le_max_right _ _).trans most

end Weight

omit [IsStrictOrderedRing K]

theorem aggregate_perm (perm : values.Perm others) :
    aggregate weight values = aggregate weight others := by
  rw [aggregate, aggregate, mean_perm perm, greatest_perm perm]

@[simp] theorem aggregate_nil : aggregate weight [] = 0 := by
  simp [aggregate, mean, greatest]

end NoisyOr
