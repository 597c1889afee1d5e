import SmarTune.Library.NoisyOr
import SmarTune.Monitor.PressureLevels

/-!
# The PSI gate of the disk channel

The raw disk score is the saturation of the disks, its headroom filled by the
io stall as far as the saturation ramp allows.  It never falls when the disks
are more saturated or tasks stall more.
-/

namespace SmarTune

open NoisyOr

/-- The readings are fractions. -/
structure DiskSample.InRange (sample : DiskSample) : Prop where
  combined_nonneg : 0 ≤ sample.combined
  combined_le_one : sample.combined ≤ 1
  some_nonneg : 0 ≤ sample.psiIoSome
  some_le_one : sample.psiIoSome ≤ 1
  full_nonneg : 0 ≤ sample.psiIoFull
  full_le_one : sample.psiIoFull ≤ 1
  self_nonneg : 0 ≤ sample.selfFraction
  self_le_one : sample.selfFraction ≤ 1

namespace DiskSample

/-- The part of a stall that is not of the limited app's own doing. -/
def discount (sample : DiskSample) : ℚ :=
  1 - sample.selfFraction * cpuIoSelfGate

theorem discount_nonneg {sample : DiskSample} (range : sample.InRange) :
    0 ≤ sample.discount := by
  have most := range.self_le_one
  unfold discount cpuIoSelfGate
  linarith

theorem discount_le_discount {sample other : DiskSample}
    (less : other.selfFraction ≤ sample.selfFraction) :
    sample.discount ≤ other.discount := by
  unfold discount cpuIoSelfGate
  linarith

end DiskSample

namespace PressureConfig

variable (config : PressureConfig)

/-- The severity of the io stall. -/
def diskStall (sample : DiskSample) : ℚ :=
  min 1 (max 0 sample.psiIoSome * sample.discount * config.psiIoSome +
    max 0 sample.psiIoFull * sample.discount * config.psiIoFull)

/-- How far the disks are up the saturation ramp. -/
def diskSaturation (combined : ℚ) : ℚ :=
  ramp config.diskThresholds.low config.diskThresholds.high combined

/-- The raw disk score before it is clamped and rounded. -/
def diskFill (sample : DiskSample) : ℚ :=
  noisyOr sample.combined
    (config.diskStall sample * config.diskSaturation sample.combined)

/-- The raw disk score before it is rounded. -/
def diskScore (sample : DiskSample) : ℚ :=
  max 0 (min 1 (config.diskFill sample))

variable {config}

theorem diskStall_le_one (sample : DiskSample) : config.diskStall sample ≤ 1 :=
  min_le_left _ _

section Weights

variable (someWeight : 0 ≤ config.psiIoSome) (fullWeight : 0 ≤ config.psiIoFull)

include someWeight fullWeight

theorem diskStall_nonneg {sample : DiskSample} (range : sample.InRange) :
    0 ≤ config.diskStall sample := by
  have discount := DiskSample.discount_nonneg range
  have some_ := mul_nonneg (mul_nonneg (le_max_left 0 sample.psiIoSome)
    discount) someWeight
  have full := mul_nonneg (mul_nonneg (le_max_left 0 sample.psiIoFull)
    discount) fullWeight
  exact le_min zero_le_one (add_nonneg some_ full)

/-- More stall, and less of it of the app's own doing. -/
theorem diskStall_le_diskStall {sample other : DiskSample}
    (range : sample.InRange) (someGrows : sample.psiIoSome ≤ other.psiIoSome)
    (fullGrows : sample.psiIoFull ≤ other.psiIoFull)
    (selfShrinks : other.selfFraction ≤ sample.selfFraction) :
    config.diskStall sample ≤ config.diskStall other := by
  have discount := DiskSample.discount_nonneg range
  have discounts := DiskSample.discount_le_discount selfShrinks
  have parts : ∀ {before after weight : ℚ}, before ≤ after → 0 ≤ weight →
      max 0 before * sample.discount * weight ≤
        max 0 after * other.discount * weight := by
    intro before after weight grows nonneg
    apply mul_le_mul_of_nonneg_right _ nonneg
    exact mul_le_mul (max_le_max le_rfl grows) discounts discount
      (le_max_left 0 after)
  exact min_le_min le_rfl
    (add_le_add (parts someGrows someWeight) (parts fullGrows fullWeight))

theorem gate_nonneg {sample : DiskSample} (range : sample.InRange) :
    0 ≤ config.diskStall sample * config.diskSaturation sample.combined :=
  mul_nonneg (diskStall_nonneg someWeight fullWeight range) ramp_nonneg

end Weights

theorem gate_le_one (sample : DiskSample) :
    config.diskStall sample * config.diskSaturation sample.combined ≤ 1 :=
  mul_le_one₀ (diskStall_le_one sample) ramp_nonneg ramp_le_one

section Weights

variable (someWeight : 0 ≤ config.psiIoSome) (fullWeight : 0 ≤ config.psiIoFull)

include someWeight fullWeight

/-- The clamp changes nothing. -/
theorem diskScore_eq {sample : DiskSample} (range : sample.InRange) :
    config.diskScore sample = config.diskFill sample := by
  have most : config.diskFill sample ≤ 1 :=
    noisyOr_le_one range.combined_le_one (gate_le_one sample)
  have least : 0 ≤ config.diskFill sample :=
    range.combined_nonneg.trans (left_le_noisyOr range.combined_le_one
      (gate_nonneg someWeight fullWeight range))
  rw [diskScore, min_eq_right most, max_eq_right least]

theorem combined_le_diskScore {sample : DiskSample} (range : sample.InRange) :
    sample.combined ≤ config.diskScore sample := by
  rw [diskScore_eq someWeight fullWeight range]
  exact left_le_noisyOr range.combined_le_one
    (gate_nonneg someWeight fullWeight range)

theorem diskScore_le_diskScore {sample other : DiskSample}
    (range : sample.InRange) (otherRange : other.InRange)
    (saturates : sample.combined ≤ other.combined)
    (someGrows : sample.psiIoSome ≤ other.psiIoSome)
    (fullGrows : sample.psiIoFull ≤ other.psiIoFull)
    (selfShrinks : other.selfFraction ≤ sample.selfFraction) :
    config.diskScore sample ≤ config.diskScore other := by
  rw [diskScore_eq someWeight fullWeight range,
    diskScore_eq someWeight fullWeight otherRange]
  have stalls := diskStall_le_diskStall someWeight fullWeight range someGrows
    fullGrows selfShrinks
  have gates : config.diskStall sample * config.diskSaturation sample.combined ≤
      config.diskStall other * config.diskSaturation other.combined :=
    mul_le_mul stalls (ramp_le_ramp saturates) ramp_nonneg
      (diskStall_nonneg someWeight fullWeight otherRange)
  exact noisyOr_le_noisyOr saturates gates otherRange.combined_le_one
    (gate_le_one sample)

end Weights

theorem diskScore_le_one (sample : DiskSample) : config.diskScore sample ≤ 1 :=
  max_le zero_le_one (min_le_left _ _)

theorem diskScore_of_gate_eq_zero {sample : DiskSample} (range : sample.InRange)
    (closed :
      config.diskStall sample * config.diskSaturation sample.combined = 0) :
    config.diskScore sample = sample.combined := by
  rw [diskScore, diskFill, closed, noisyOr_zero,
    min_eq_right range.combined_le_one, max_eq_right range.combined_nonneg]

/-- Without a stall the gate is closed. -/
theorem diskStall_eq_zero {sample : DiskSample} (noSome : sample.psiIoSome = 0)
    (noFull : sample.psiIoFull = 0) :
    config.diskStall sample = 0 := by
  simp [diskStall, noSome, noFull]

/-- The raw disk score lies between the saturation and one, is the saturation
when the ramp has not begun or nothing stalls, and never falls when the disks
are more saturated, when tasks stall more or when less of the stall is of the
limited app's own doing. -/
theorem disk_gate (config : PressureConfig) (someWeight : 0 ≤ config.psiIoSome)
    (fullWeight : 0 ≤ config.psiIoFull)
    (ordered : config.diskThresholds.low < config.diskThresholds.high) :
    (∀ sample : DiskSample, sample.InRange →
      sample.combined ≤ config.diskScore sample ∧ config.diskScore sample ≤ 1 ∧
        (sample.combined ≤ config.diskThresholds.low →
          config.diskScore sample = sample.combined) ∧
        (sample.psiIoSome = 0 → sample.psiIoFull = 0 →
          config.diskScore sample = sample.combined)) ∧
      ∀ sample other : DiskSample, sample.InRange → other.InRange →
        sample.combined ≤ other.combined →
        sample.psiIoSome ≤ other.psiIoSome →
        sample.psiIoFull ≤ other.psiIoFull →
        other.selfFraction ≤ sample.selfFraction →
        config.diskScore sample ≤ config.diskScore other := by
  constructor
  · intro sample range
    refine ⟨combined_le_diskScore someWeight fullWeight range,
      diskScore_le_one sample, ?_, ?_⟩
    · intro below
      apply diskScore_of_gate_eq_zero range
      rw [diskSaturation, ramp_eq_zero ordered below, mul_zero]
    · intro noSome noFull
      apply diskScore_of_gate_eq_zero range
      rw [diskStall_eq_zero noSome noFull, zero_mul]
  · intro sample other range otherRange
    exact diskScore_le_diskScore someWeight fullWeight range otherRange

/-- The default weights and tables. -/
def defaults : PressureConfig where
  thresholds := PressureAnalyzer.defaultThresholds
  diskThresholds := PressureAnalyzer.defaultThresholds

/-- Under the same stall, disks further up the ramp score no less. -/
theorem disk_gate_defaults :
    defaults.diskScore ⟨3 / 5, 1 / 10, 1 / 5, 0⟩ ≤
      defaults.diskScore ⟨4 / 5, 1 / 10, 1 / 5, 0⟩ := by
  have weights : (0 : ℚ) ≤ defaults.psiIoSome ∧ 0 ≤ defaults.psiIoFull ∧
      defaults.diskThresholds.low < defaults.diskThresholds.high := by
    decide +kernel
  have ranges : ∀ combined : ℚ, 0 ≤ combined → combined ≤ 1 →
      DiskSample.InRange ⟨combined, 1 / 10, 1 / 5, 0⟩ := by
    intro combined nonneg most
    constructor <;> norm_num <;> assumption
  exact (disk_gate defaults weights.1 weights.2.1 weights.2.2).2 _ _
    (ranges _ (by norm_num) (by norm_num))
    (ranges _ (by norm_num) (by norm_num))
    (by norm_num) le_rfl le_rfl le_rfl

end PressureConfig

end SmarTune
