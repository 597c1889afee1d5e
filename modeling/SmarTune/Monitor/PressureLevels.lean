import SmarTune.Library.Runs
import SmarTune.Monitor.Loop

/-!
# Pressure levels

`PressureAnalyzer` turns raw scores into levels, on a system and a disk channel
of the same shape.  Critical is latched on the raw score, every other level is
read off a smoothed score with hysteresis.  Scores are rationals.
-/

namespace SmarTune

/-- `_SCORE_EWMA_ALPHA`. -/
def scoreEwmaAlpha : ℚ := 3 / 10

/-- `_LEVEL_HYSTERESIS`. -/
def levelHysteresis : ℚ := 1 / 20

/-- `_CPU_IO_SELF_GATE`. -/
def cpuIoSelfGate : ℚ := 7 / 10

/-- Python's `round` to two digits, halves to the even neighbour. -/
def pyRound2 (value : ℚ) : ℚ :=
  let scaled := 100 * value
  let rest := scaled - ⌊scaled⌋
  let rounded :=
    if rest < 1 / 2 then ⌊scaled⌋
    else if 1 / 2 < rest then ⌊scaled⌋ + 1
    else if ⌊scaled⌋ % 2 = 0 then ⌊scaled⌋
    else ⌊scaled⌋ + 1
  rounded / 100

/-- Python's `round` to four digits. -/
def pyRound4 (value : ℚ) : ℚ := pyRound2 (100 * value) / 100

/-- A threshold table: the score each level starts at. -/
structure Thresholds where
  low : ℚ
  medium : ℚ
  high : ℚ
  critical : ℚ

/-- `_LEVEL_RANK`. -/
def PressureLevel.rank : PressureLevel → Nat
  | .unknown => 0
  | .low => 0
  | .medium => 1
  | .high => 2
  | .critical => 3

namespace Thresholds

variable (thresholds : Thresholds)

/-- `thresholds.get(level, 0.0)`. -/
def entry : PressureLevel → ℚ
  | .unknown => 0
  | .low => thresholds.low
  | .medium => thresholds.medium
  | .high => thresholds.high
  | .critical => thresholds.critical

/-- `get_pressure_level`. -/
def getPressureLevel (score : ℚ) : PressureLevel :=
  if thresholds.critical ≤ score then .critical
  else if thresholds.high ≤ score then .high
  else if thresholds.medium ≤ score then .medium
  else .low

/-- `_apply_level_hysteresis`. -/
def applyLevelHysteresis (candidate : PressureLevel) (score : ℚ)
    (previous : Option PressureLevel) : PressureLevel :=
  match previous with
  | none | some .unknown => candidate
  | some previous =>
    if previous.rank ≤ candidate.rank then candidate
    else if previous = .critical then candidate
    else if score < thresholds.entry previous - levelHysteresis then candidate
    else previous

end Thresholds

/-- What one channel retains across samples. -/
structure LevelState where
  smoothed : Option ℚ
  lastLevel : Option PressureLevel
  deriving DecidableEq, Repr

namespace LevelState

/-- Nothing sampled yet. -/
def fresh : LevelState := ⟨none, none⟩

/-- The moving average. -/
def average (state : LevelState) (raw : ℚ) : ℚ :=
  match state.smoothed with
  | none => raw
  | some previous => scoreEwmaAlpha * raw + (1 - scoreEwmaAlpha) * previous

/-- The decision both channels make on a raw score. -/
def classify (state : LevelState) (thresholds : Thresholds)
    (raw : ℚ) : PressureLevel × LevelState :=
  if thresholds.critical ≤ raw then
    (.critical, ⟨some raw, some .critical⟩)
  else
    let smoothed := state.average raw
    let level := thresholds.applyLevelHysteresis
      (thresholds.getPressureLevel smoothed) smoothed state.lastLevel
    (level, ⟨some smoothed, some level⟩)

end LevelState

/-- The tables and weights the analyzer is configured with. -/
structure PressureConfig where
  thresholds : Thresholds
  diskThresholds : Thresholds
  /-- `disk_psi_weights`, with `_PSI_IO_SOME_W` and `_PSI_IO_FULL_W`. -/
  psiIoSome : ℚ := 1 / 2
  psiIoFull : ℚ := 3

/-- What the disk channel is sampled from. -/
structure DiskSample where
  combined : ℚ
  psiIoSome : ℚ
  psiIoFull : ℚ
  /-- The `io` share of the limited app's own doing. -/
  selfFraction : ℚ := 0

/-- The raw disk score: saturation, raised by the io stall within its
headroom. -/
def PressureConfig.diskRaw (config : PressureConfig)
    (sample : DiskSample) : ℚ :=
  let low := config.diskThresholds.low
  let high := config.diskThresholds.high
  let discount := 1 - sample.selfFraction * cpuIoSelfGate
  let some_ := max 0 sample.psiIoSome * discount
  let full := max 0 sample.psiIoFull * discount
  let stall := min 1 (some_ * config.psiIoSome + full * config.psiIoFull)
  let saturation :=
    if low < high then (sample.combined - low) / (high - low) else 1
  let saturation := max 0 (min 1 saturation)
  pyRound2 (max 0 (min 1
    (sample.combined + (1 - sample.combined) * stall * saturation)))

/-- `PressureAnalyzer`. -/
structure PressureAnalyzer where
  /-- `_score_smoothed` and `_last_level`. -/
  system : LevelState
  /-- `_disk_score_smoothed` and `_disk_last_level`. -/
  disk : LevelState

namespace PressureAnalyzer

/-- A new analyzer. -/
def fresh : PressureAnalyzer := ⟨.fresh, .fresh⟩

/-- `classify_level`: the level and the rounded smoothed score. -/
def classifyLevel (analyzer : PressureAnalyzer) (config : PressureConfig)
    (rawScore : ℚ) : (PressureLevel × ℚ) × PressureAnalyzer :=
  let result := analyzer.system.classify config.thresholds rawScore
  ((result.1, pyRound2 (result.2.smoothed.getD 0)),
    { analyzer with system := result.2 })

/-- `classify_disk_pressure`: the level, the rounded smoothed score and whether
the disk is stressed. -/
def classifyDiskPressure (analyzer : PressureAnalyzer) (config : PressureConfig)
    (sample : DiskSample) : (PressureLevel × ℚ × Bool) × PressureAnalyzer :=
  let result := analyzer.disk.classify config.diskThresholds
    (config.diskRaw sample)
  ((result.1, pyRound2 (result.2.smoothed.getD 0),
      decide (PressureLevel.high.rank ≤ result.1.rank)),
    { analyzer with disk := result.2 })

end PressureAnalyzer

/-! ## One channel -/

namespace LevelState

variable {state : LevelState} {thresholds : Thresholds} {raw : ℚ}

theorem applyLevelHysteresis_eq_critical_iff (candidate : PressureLevel)
    (score : ℚ) (previous : Option PressureLevel) :
    thresholds.applyLevelHysteresis candidate score previous = .critical ↔
      candidate = .critical := by
  unfold Thresholds.applyLevelHysteresis
  cases previous with
  | none => rfl
  | some previous =>
    cases previous with
    | unknown => rfl
    | critical => simp
    | low | medium | high =>
      cases candidate <;> simp [PressureLevel.rank] <;> split <;> simp

theorem getPressureLevel_eq_critical_iff (score : ℚ) :
    thresholds.getPressureLevel score = .critical ↔
      thresholds.critical ≤ score := by
  unfold Thresholds.getPressureLevel
  split
  · simpa
  · next below =>
    simp only [below, iff_false]
    split <;> [skip; split] <;> simp

/-- The level of a sample is critical when its raw score is, or when the
average still is. -/
theorem classify_eq_critical_iff :
    (state.classify thresholds raw).1 = .critical ↔
      thresholds.critical ≤ raw ∨ thresholds.critical ≤ state.average raw := by
  unfold classify
  split
  · next latched => simp [latched]
  · next below =>
    simp only [below, false_or, applyLevelHysteresis_eq_critical_iff,
      getPressureLevel_eq_critical_iff]

/-- The sample is called critical exactly when its raw score is. -/
def Latches (thresholds : Thresholds) (state : LevelState) (raw : ℚ) : Prop :=
  (state.classify thresholds raw).1 = .critical ↔ thresholds.critical ≤ raw

/-- The state a raw score leaves behind. -/
def next (thresholds : Thresholds) (state : LevelState) (raw : ℚ) :
    LevelState :=
  (state.classify thresholds raw).2

/-- The average falls below the critical threshold as soon as the raw score
does. -/
def ReleasedBy (critical previous raw : ℚ) : Prop :=
  critical ≤ previous → raw < critical →
    scoreEwmaAlpha * raw + (1 - scoreEwmaAlpha) * previous < critical

/-- The average is critical only right after a critical score, whose value it
then has. -/
structure Follows (critical : ℚ) (previous : Option ℚ)
    (state : LevelState) : Prop where
  snapped : ∀ score, previous = some score → critical ≤ score →
    state.smoothed = some score
  calm : ∀ score, state.smoothed = some score → critical ≤ score →
    previous = some score

theorem follows_fresh (critical : ℚ) : Follows critical none .fresh where
  snapped := by
    intro score absent
    cases absent
  calm := by
    intro score absent
    cases absent

variable {previous : Option ℚ}

theorem average_lt_critical_iff
    (follows : state.Follows thresholds.critical previous)
    (below : raw < thresholds.critical) :
    state.average raw < thresholds.critical ↔
      ∀ score ∈ previous, ReleasedBy thresholds.critical score raw := by
  unfold average
  cases smoothed : state.smoothed with
  | none =>
    refine iff_of_true below ?_
    intro score follow latched
    have snapped := follows.snapped score follow latched
    rw [smoothed] at snapped
    cases snapped
  | some value =>
    by_cases latched : thresholds.critical ≤ value
    · rw [follows.calm value smoothed latched]
      simp [ReleasedBy, latched, below]
    · refine iff_of_true ?_ ?_
      · simp only [scoreEwmaAlpha]
        linarith
      · intro score follow high
        have snapped := follows.snapped score follow high
        rw [smoothed] at snapped
        exact absurd (Option.some.inj snapped ▸ high) latched

theorem latches_iff (follows : state.Follows thresholds.critical previous) :
    state.Latches thresholds raw ↔
      ∀ score ∈ previous, ReleasedBy thresholds.critical score raw := by
  unfold Latches
  rw [classify_eq_critical_iff]
  by_cases latched : thresholds.critical ≤ raw
  · refine iff_of_true (by simp [latched]) ?_
    intro score _ _ below
    exact absurd latched (not_le.mpr below)
  · rw [← average_lt_critical_iff follows (not_le.mp latched)]
    simp [latched]

/-- A sample that latches leaves the average as it should be. -/
theorem follows_next (latches : state.Latches thresholds raw) :
    (state.next thresholds raw).Follows thresholds.critical (some raw) := by
  unfold next
  by_cases latched : thresholds.critical ≤ raw
  · rw [classify, if_pos latched]
    exact ⟨fun score same _ => same, fun score same _ => same⟩
  · have calm : ¬ thresholds.critical ≤ state.average raw := fun high =>
      latched (latches.mp (classify_eq_critical_iff.mpr (Or.inr high)))
    rw [classify, if_neg latched]
    refine ⟨?_, ?_⟩
    · intro score same high
      rw [← Option.some.inj same] at high
      exact absurd high latched
    · intro score same high
      rw [← Option.some.inj same] at high
      exact absurd high calm

/-- On one channel every sample latches exactly when every fall below critical
releases the average. -/
theorem everyStep_latches_iff
    (follows : state.Follows thresholds.critical previous) (scores : List ℚ) :
    Runs.EveryStep (next thresholds) (Latches thresholds) state scores ↔
      (previous.toList ++ scores).IsChain (ReleasedBy thresholds.critical) := by
  induction scores generalizing state previous with
  | nil => cases previous <;> simp
  | cons raw scores ih =>
    have heads : ((previous.toList ++ raw :: scores).IsChain
          (ReleasedBy thresholds.critical)) ↔
        (∀ score ∈ previous, ReleasedBy thresholds.critical score raw) ∧
          (raw :: scores).IsChain (ReleasedBy thresholds.critical) := by
      cases previous <;> simp
    rw [Runs.everyStep_cons, heads, latches_iff follows]
    apply and_congr_right
    intro released
    exact ih (follows_next ((latches_iff follows).mpr released))

end LevelState

/-! ## Both channels -/

/-- A sample of one of the channels. -/
inductive PressureSample
  | system (rawScore : ℚ)
  | disk (sample : DiskSample)

namespace PressureConfig

variable (config : PressureConfig)

def raw : PressureSample → ℚ
  | .system rawScore => rawScore
  | .disk sample => config.diskRaw sample

/-- The critical threshold of the sample's channel. -/
def critical : PressureSample → ℚ
  | .system _ => config.thresholds.critical
  | .disk _ => config.diskThresholds.critical

/-- The raw scores of the system channel. -/
def systemScores (samples : List PressureSample) : List ℚ :=
  samples.filterMap fun
    | .system rawScore => some rawScore
    | .disk _ => none

/-- The raw scores of the disk channel. -/
def diskScores (samples : List PressureSample) : List ℚ :=
  samples.filterMap fun
    | .system _ => none
    | .disk sample => some (config.diskRaw sample)

end PressureConfig

namespace PressureAnalyzer

def level (config : PressureConfig) (analyzer : PressureAnalyzer) :
    PressureSample → PressureLevel
  | .system rawScore => (analyzer.classifyLevel config rawScore).1.1
  | .disk sample => (analyzer.classifyDiskPressure config sample).1.1

def step (config : PressureConfig) (analyzer : PressureAnalyzer) :
    PressureSample → PressureAnalyzer
  | .system rawScore => (analyzer.classifyLevel config rawScore).2
  | .disk sample => (analyzer.classifyDiskPressure config sample).2

/-- The emitted level is critical exactly when the raw score is. -/
def Latches (config : PressureConfig) (analyzer : PressureAnalyzer)
    (sample : PressureSample) : Prop :=
  analyzer.level config sample = .critical ↔
    config.critical sample ≤ config.raw sample

instance (config : PressureConfig) (analyzer : PressureAnalyzer)
    (sample : PressureSample) : Decidable (analyzer.Latches config sample) :=
  inferInstanceAs (Decidable (_ ↔ _))

theorem everyStep_latches_iff_channels (config : PressureConfig)
    (analyzer : PressureAnalyzer) (samples : List PressureSample) :
    Runs.EveryStep (step config) (Latches config) analyzer samples ↔
      Runs.EveryStep (LevelState.next config.thresholds)
          (LevelState.Latches config.thresholds) analyzer.system
          (PressureConfig.systemScores samples) ∧
        Runs.EveryStep (LevelState.next config.diskThresholds)
          (LevelState.Latches config.diskThresholds) analyzer.disk
          (config.diskScores samples) := by
  induction samples generalizing analyzer with
  | nil => exact ⟨fun _ => ⟨trivial, trivial⟩, fun _ => trivial⟩
  | cons sample samples ih =>
    rw [Runs.everyStep_cons, ih]
    cases sample with
    | system rawScore => exact and_assoc.symm
    | disk sample => exact and_left_comm

/-- In a history critical is emitted at exactly the samples whose raw score is
at or above the critical threshold if and only if, on each channel, the first
score below the threshold after a critical one takes the average below it. -/
theorem critical_iff_raw (config : PressureConfig)
    (samples : List PressureSample) :
    Runs.EveryStep (step config) (Latches config) fresh samples ↔
      (PressureConfig.systemScores samples).IsChain
          (LevelState.ReleasedBy config.thresholds.critical) ∧
        (config.diskScores samples).IsChain
          (LevelState.ReleasedBy config.diskThresholds.critical) := by
  rw [everyStep_latches_iff_channels]
  exact and_congr
    (LevelState.everyStep_latches_iff (LevelState.follows_fresh _) _)
    (LevelState.everyStep_latches_iff (LevelState.follows_fresh _) _)

/-- The default tables. -/
def defaultThresholds : Thresholds := ⟨2 / 5, 3 / 5, 4 / 5, 1⟩

/-- A system channel whose critical threshold is 0.9. -/
def earlyCritical : PressureConfig where
  thresholds := { defaultThresholds with critical := 9 / 10 }
  diskThresholds := defaultThresholds

/-- After a score of 1 the average of a score of 0.8 is 0.94: still critical. -/
theorem critical_lingers :
    ¬ Runs.EveryStep (step earlyCritical) (Latches earlyCritical) fresh
      [.system 1, .system (4 / 5)] := by
  decide +kernel

end PressureAnalyzer

end SmarTune
