import Mathlib.Algebra.Order.Field.Basic
import Mathlib.Algebra.BigOperators.Group.List.Basic
import Mathlib.Tactic.Linarith
import Mathlib.Tactic.Ring

/-!
# Values that forget

Two ways to follow an input sampled at gaps: an average, which keeps a power of
a factor of what it was and makes up the rest of the input, and a peak, which
decays by a power of a factor and is raised by the input.  Both are actions of
the gap: under a constant input two gaps in a row do what their sum does.
-/

namespace Decay

variable {K : Type*} [Field K] [LinearOrder K]

/-- A number moved into the unit interval. -/
def clamp01 (number : K) : K :=
  if number ≤ 0 then 0 else if 1 ≤ number then 1 else number

def average (keep : K) (gap : ℕ) (value input : K) : K :=
  (1 - keep ^ gap) * input + keep ^ gap * value

def peak (rate : K) (gap : ℕ) (value input : K) : K :=
  max (value * rate ^ gap) input

/-- A first value and the inputs after it, each decayed by the gaps that follow
it. -/
def faded (rate : K) : K → List (ℕ × K) → List K
  | value, [] => [value]
  | value, sample :: samples =>
    value * rate ^ (sample.1 + (samples.map Prod.fst).sum) ::
      faded rate sample.2 samples

def peaks (rate value : K) (samples : List (ℕ × K)) : K :=
  samples.foldl (fun value sample => peak rate sample.1 value sample.2) value

variable [IsStrictOrderedRing K] {keep rate value input : K}

theorem clamp01_nonneg (number : K) : 0 ≤ clamp01 number := by
  unfold clamp01
  split_ifs with low high
  · exact le_rfl
  · exact zero_le_one
  · exact (not_le.mp low).le

theorem clamp01_le_one (number : K) : clamp01 number ≤ 1 := by
  unfold clamp01
  split_ifs with low high
  · exact zero_le_one
  · exact le_rfl
  · exact (not_le.mp high).le

omit [LinearOrder K] [IsStrictOrderedRing K] in
theorem average_average (first second : ℕ) :
    average keep second (average keep first value input) input =
      average keep (first + second) value input := by
  unfold average
  rw [pow_add]
  ring

theorem average_mem_Icc {low high : K} (nonneg : 0 ≤ keep) (leOne : keep ≤ 1)
    (gap : ℕ) (value_mem : value ∈ Set.Icc low high)
    (input_mem : input ∈ Set.Icc low high) :
    average keep gap value input ∈ Set.Icc low high := by
  have kept : 0 ≤ keep ^ gap := pow_nonneg nonneg gap
  have forgotten : 0 ≤ 1 - keep ^ gap := by
    linarith [pow_le_one₀ nonneg leOne (n := gap)]
  have split (bound : K) :
      bound = (1 - keep ^ gap) * bound + keep ^ gap * bound := by
    ring
  constructor
  · rw [split low]
    exact add_le_add (mul_le_mul_of_nonneg_left input_mem.1 forgotten)
      (mul_le_mul_of_nonneg_left value_mem.1 kept)
  · rw [split high]
    exact add_le_add (mul_le_mul_of_nonneg_left input_mem.2 forgotten)
      (mul_le_mul_of_nonneg_left value_mem.2 kept)

theorem peak_peak (nonneg : 0 ≤ rate) (leOne : rate ≤ 1)
    (inputNonneg : 0 ≤ input) (first second : ℕ) :
    peak rate second (peak rate first value input) input =
      peak rate (first + second) value input := by
  have below : input * rate ^ second ≤ input :=
    mul_le_of_le_one_right inputNonneg (pow_le_one₀ nonneg leOne)
  unfold peak
  rw [max_mul_of_nonneg _ _ (pow_nonneg nonneg second), mul_assoc, ← pow_add,
    max_assoc, max_eq_right below]

theorem peak_mem_Icc (nonneg : 0 ≤ rate) (leOne : rate ≤ 1) (gap : ℕ)
    (value_mem : value ∈ Set.Icc (0 : K) 1)
    (input_mem : input ∈ Set.Icc (0 : K) 1) :
    peak rate gap value input ∈ Set.Icc (0 : K) 1 :=
  ⟨input_mem.1.trans (le_max_right _ _),
    max_le (mul_le_one₀ value_mem.2 (pow_nonneg nonneg gap)
      (pow_le_one₀ nonneg leOne)) input_mem.2⟩

/-- A raised value fades as both of its parts do. -/
theorem forall_mem_faded_max (nonneg : 0 ≤ rate) (first second bound : K)
    (samples : List (ℕ × K)) :
    (∀ left ∈ faded rate (max first second) samples, left ≤ bound) ↔
      first * rate ^ (samples.map Prod.fst).sum ≤ bound ∧
        ∀ left ∈ faded rate second samples, left ≤ bound := by
  cases samples with
  | nil => simp [faded]
  | cons next samples =>
    simp only [faded, List.forall_mem_cons, List.map_cons, List.sum_cons,
      max_mul_of_nonneg _ _ (pow_nonneg nonneg _), max_le_iff, and_assoc]

omit [IsStrictOrderedRing K] in
theorem mem_faded_of_max {first second left : K} {samples : List (ℕ × K)}
    (member : left ∈ faded rate (max first second) samples) :
    left = first * rate ^ (samples.map Prod.fst).sum ∨
      left ∈ faded rate second samples := by
  rcases max_choice first second with high | high
  · rw [high] at member
    cases samples with
    | nil => exact .inl (by simpa [faded] using member)
    | cons next samples =>
      rcases List.mem_cons.mp member with same | later
      · exact .inl same
      · exact .inr (List.mem_cons_of_mem _ later)
  · exact .inr (high ▸ member)

theorem isGreatest_peaks (nonneg : 0 ≤ rate) (samples : List (ℕ × K)) :
    IsGreatest {left | left ∈ faded rate value samples}
      (peaks rate value samples) := by
  induction samples generalizing value with
  | nil => simp [faded, peaks, IsGreatest, upperBounds]
  | cons sample samples ih =>
    obtain ⟨member, above⟩ := @ih (peak rate sample.1 value sample.2)
    have power : value * rate ^ sample.1 * rate ^ (samples.map Prod.fst).sum =
        value * rate ^ (sample.1 + (samples.map Prod.fst).sum) := by
      rw [pow_add, mul_assoc]
    constructor
    · rcases mem_faded_of_max member with same | later
      · exact List.mem_cons.mpr (.inl (same.trans power))
      · exact List.mem_cons_of_mem _ later
    · obtain ⟨first, later⟩ :=
        (forall_mem_faded_max nonneg _ _ _ samples).mp fun _ left => above left
      rintro left (_ | ⟨_, member⟩)
      · exact power.symm.le.trans first
      · exact later left member

end Decay
