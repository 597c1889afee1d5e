import SmarTune.Library.Decay
import SmarTune.Network.DisplayLevels

/-!
# Smoothing of network pressure

A sample of a NIC gives the utilisation of each direction and the signs of its
distress.  Utilisation is averaged and distress is held as a decaying peak,
both by the time since the previous sample, in whole seconds; a sample at or
before the previous one changes nothing.
-/

namespace SmarTune

open Decay

/-- `_noisy_or`. -/
def noisyOr (vals : List ℚ) : ℚ :=
  1 - (vals.map fun val => 1 - clamp01 val).prod

/-- `_ema_step`. -/
def emaStep (prev : Option ℚ) (instant alpha : ℚ) (dt : ℕ) : ℚ :=
  match prev with
  | none => instant
  | some prev =>
    let alphaEff := 1 - (1 - clamp01 alpha) ^ dt
    alphaEff * instant + (1 - alphaEff) * prev

/-- The factors of `_model`. -/
structure NetworkModel where
  emaAlpha : ℚ
  decayRate : ℚ

/-- What a sample says about a direction: its shares of the line rate and of
the packet rate, and the components of its distress. -/
structure DirectionReading where
  bwUtil : ℚ
  ppsUtil : ℚ
  components : List ℚ

/-- The smoothed state of a direction. -/
@[ext] structure SmoothedDirection where
  emaBw : Option ℚ
  emaPps : Option ℚ
  distress : ℚ

namespace SmoothedDirection

variable (model : NetworkModel) (state : SmoothedDirection)

/-- A direction after a sample. -/
def update (dt : ℕ) (reading : DirectionReading) : SmoothedDirection where
  emaBw := some (emaStep state.emaBw (clamp01 reading.bwUtil) model.emaAlpha dt)
  emaPps :=
    some (emaStep state.emaPps (clamp01 reading.ppsUtil) model.emaAlpha dt)
  distress := max (state.distress * clamp01 model.decayRate ^ dt)
    (noisyOr reading.components)

/-- Every average and the distress are fractions. -/
structure InRange : Prop where
  bw : ∀ ema ∈ state.emaBw, ema ∈ Set.Icc (0 : ℚ) 1
  pps : ∀ ema ∈ state.emaPps, ema ∈ Set.Icc (0 : ℚ) 1
  distress : state.distress ∈ Set.Icc (0 : ℚ) 1

end SmoothedDirection

abbrev NicSmoothing := DisplayDirection → SmoothedDirection

/-- A sample: `now - self._last_time` and the readings. -/
structure NicSample where
  dt : ℤ
  readings : DisplayDirection → DirectionReading

/-- `_update_pressure`, after the seeding call. -/
def NicSmoothing.updatePressure (model : NetworkModel) (nic : NicSmoothing)
    (sample : NicSample) : NicSmoothing :=
  if sample.dt ≤ 0 then nic
  else fun direction =>
    (nic direction).update model sample.dt.toNat (sample.readings direction)

def distressInputs (direction : DisplayDirection) (samples : List NicSample) :
    List (ℕ × ℚ) :=
  (samples.filter fun sample => 0 < sample.dt).map fun sample =>
    (sample.dt.toNat, noisyOr (sample.readings direction).components)

/-! ## One direction -/

theorem noisyOr_mem_Icc (vals : List ℚ) : noisyOr vals ∈ Set.Icc (0 : ℚ) 1 := by
  have product : (vals.map fun val => 1 - clamp01 val).prod ∈
      Set.Icc (0 : ℚ) 1 := by
    induction vals with
    | nil => simp
    | cons val vals ih =>
      have low := clamp01_nonneg val
      have high := clamp01_le_one val
      rw [List.map_cons, List.prod_cons]
      exact ⟨mul_nonneg (by linarith) ih.1,
        mul_le_one₀ (by linarith) ih.1 ih.2⟩
  unfold noisyOr
  exact ⟨by linarith [product.2], by linarith [product.1]⟩

/-- A seeded average is kept by a power of what a second leaves. -/
theorem emaStep_some (prev instant alpha : ℚ) (dt : ℕ) :
    emaStep (some prev) instant alpha dt =
      average (1 - clamp01 alpha) dt prev instant := by
  unfold emaStep average
  ring

theorem emaStep_emaStep (prev : Option ℚ) (instant alpha : ℚ)
    (first second : ℕ) :
    emaStep (some (emaStep prev instant alpha first)) instant alpha second =
      emaStep prev instant alpha (first + second) := by
  cases prev with
  | none =>
    rw [emaStep_some]
    unfold emaStep average
    ring
  | some prev =>
    rw [emaStep_some, emaStep_some, emaStep_some, average_average]

theorem emaStep_mem_Icc {prev : Option ℚ} {instant : ℚ} (alpha : ℚ) (dt : ℕ)
    (prev_mem : ∀ ema ∈ prev, ema ∈ Set.Icc (0 : ℚ) 1)
    (instant_mem : instant ∈ Set.Icc (0 : ℚ) 1) :
    emaStep prev instant alpha dt ∈ Set.Icc (0 : ℚ) 1 := by
  cases prev with
  | none => exact instant_mem
  | some prev =>
    rw [emaStep_some]
    have low := clamp01_nonneg alpha
    have high := clamp01_le_one alpha
    exact average_mem_Icc (by linarith) (by linarith) dt (prev_mem prev rfl)
      instant_mem

namespace SmoothedDirection

variable {model : NetworkModel} {state : SmoothedDirection}

theorem update_update (reading : DirectionReading) (first second : ℕ) :
    (state.update model first reading).update model second reading =
      state.update model (first + second) reading := by
  ext1
  · exact congrArg some (emaStep_emaStep _ _ _ first second)
  · exact congrArg some (emaStep_emaStep _ _ _ first second)
  · exact peak_peak (clamp01_nonneg _) (clamp01_le_one _)
      (noisyOr_mem_Icc _).1 first second

theorem InRange.update (inRange : state.InRange) (dt : ℕ)
    (reading : DirectionReading) : (state.update model dt reading).InRange where
  bw := by
    rintro _ ⟨⟩
    exact emaStep_mem_Icc _ dt inRange.bw
      ⟨clamp01_nonneg _, clamp01_le_one _⟩
  pps := by
    rintro _ ⟨⟩
    exact emaStep_mem_Icc _ dt inRange.pps
      ⟨clamp01_nonneg _, clamp01_le_one _⟩
  distress := peak_mem_Icc (clamp01_nonneg _) (clamp01_le_one _) dt
    inRange.distress (noisyOr_mem_Icc _)

end SmoothedDirection

/-! ## Runs of samples -/

namespace NicSmoothing

variable {model : NetworkModel} {nic : NicSmoothing}

/-- Two samples of one reading do what a sample over both gaps does. -/
theorem updatePressure_updatePressure
    (readings : DisplayDirection → DirectionReading) (first : ℤ) (second : ℕ) :
    (nic.updatePressure model ⟨first, readings⟩).updatePressure model
        ⟨second, readings⟩ =
      nic.updatePressure model ⟨first.toNat + second, readings⟩ := by
  unfold updatePressure
  ext1 direction
  rcases le_or_gt first 0 with before | after
  · rw [Int.toNat_of_nonpos before]
    simp [before]
  rcases second.eq_zero_or_pos with rfl | later
  · simp [Int.toNat_of_nonneg after.le]
  · have total : ¬ (first.toNat : ℤ) + second ≤ 0 := by omega
    have sum : ((first.toNat : ℤ) + second).toNat = first.toNat + second := by
      omega
    simp only [not_le.mpr after, total, if_false, sum, Int.toNat_natCast,
      Nat.cast_nonpos, Nat.ne_of_gt later, SmoothedDirection.update_update]

theorem run_constant (readings : DisplayDirection → DirectionReading)
    (gaps : List ℤ) :
    Runs.run (updatePressure model) nic (gaps.map fun dt => ⟨dt, readings⟩) =
      nic.updatePressure model
        ⟨((gaps.map Int.toNat).sum : ℕ), readings⟩ := by
  induction gaps generalizing nic with
  | nil => simp [updatePressure]
  | cons gap gaps ih =>
    rw [List.map_cons, Runs.run_cons, ih, updatePressure_updatePressure,
      List.map_cons, List.sum_cons, Nat.cast_add]

theorem inRange_run (inRange : ∀ direction, (nic direction).InRange)
    (samples : List NicSample) (direction : DisplayDirection) :
    (Runs.run (updatePressure model) nic samples direction).InRange := by
  induction samples generalizing nic with
  | nil => exact inRange direction
  | cons sample samples ih =>
    apply ih
    intro other
    unfold updatePressure
    split
    · exact inRange other
    · exact (inRange other).update _ _

theorem distress_run (samples : List NicSample)
    (direction : DisplayDirection) :
    (Runs.run (updatePressure model) nic samples direction).distress =
      peaks (clamp01 model.decayRate) (nic direction).distress
        (distressInputs direction samples) := by
  induction samples generalizing nic with
  | nil => rfl
  | cons sample samples ih =>
    rw [Runs.run_cons, ih]
    unfold updatePressure distressInputs
    rcases le_or_gt sample.dt 0 with before | after
    · simp [before, not_lt.mpr before]
    · simp only [not_le.mpr after, if_false, List.filter_cons, after,
        decide_true, if_true, List.map_cons]
      rfl

/-- What a NIC is taken for does not depend on when it is sampled: samples of
one reading add up, fractions stay fractions, and distress is the greatest of
the inputs so far, each decayed by its age. -/
theorem cadence_independent (model : NetworkModel) (nic : NicSmoothing) :
    (∀ readings (gaps : List ℤ), Runs.run (updatePressure model) nic
        (gaps.map fun dt => ⟨dt, readings⟩) =
      nic.updatePressure model ⟨((gaps.map Int.toNat).sum : ℕ), readings⟩) ∧
    ((∀ direction, (nic direction).InRange) → ∀ samples direction,
      (Runs.run (updatePressure model) nic samples direction).InRange) ∧
    ∀ samples direction, IsGreatest
      {left | left ∈ faded (clamp01 model.decayRate) (nic direction).distress
        (distressInputs direction samples)}
      (Runs.run (updatePressure model) nic samples direction).distress := by
  refine ⟨fun readings gaps => run_constant readings gaps,
    fun inRange => inRange_run inRange, fun samples direction => ?_⟩
  rw [distress_run]
  exact isGreatest_peaks (clamp01_nonneg _) _

theorem cadence_independent_idle :
    (Runs.run (updatePressure ⟨3 / 10, 7 / 10⟩) (fun _ => ⟨none, none, 0⟩) []
      .rx).InRange :=
  (cadence_independent ⟨3 / 10, 7 / 10⟩ fun _ => ⟨none, none, 0⟩).2.1
    (fun _ => ⟨by simp, by simp, by simp⟩) [] .rx

end NicSmoothing
end SmarTune
