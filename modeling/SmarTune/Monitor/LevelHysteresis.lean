import SmarTune.Monitor.PressureLevels

/-!
# Hysteresis over whole runs

A level never ranks below the band of the smoothed score, it rises on the very
sample whose smoothed score enters a higher band, and a level other than
critical is left downwards only below its entry by the margin.  The channels
keep separate state, so a run of one channel can be read off any interleaving.
-/

namespace SmarTune

/-- What a sample makes its channel emit, with the smoothed score before it is
rounded. -/
structure PressureEmission where
  level : PressureLevel
  score : ℚ
  /-- Reported on the disk channel. -/
  isStressed : Option Bool
  smoothed : ℚ
  deriving DecidableEq, Repr

namespace PressureEmission

/-- The level ranks at least the band of the smoothed score. -/
def CoversBand (thresholds : Thresholds) (emission : PressureEmission) : Prop :=
  (thresholds.getPressureLevel emission.smoothed).rank ≤ emission.level.rank

/-- How an emission may follow the one before it on its channel. -/
structure Succeeds (thresholds : Thresholds)
    (previous current : PressureEmission) : Prop where
  rises : previous.level.rank <
      (thresholds.getPressureLevel current.smoothed).rank →
    current.level = thresholds.getPressureLevel current.smoothed
  falls : current.level.rank < previous.level.rank →
    previous.level ≠ .critical →
    current.smoothed < thresholds.entry previous.level - levelHysteresis

end PressureEmission

/-! ## One channel -/

namespace Thresholds

variable (thresholds : Thresholds)

theorem rank_le_applyLevelHysteresis (candidate : PressureLevel) (score : ℚ)
    (previous : Option PressureLevel) :
    candidate.rank ≤
      (thresholds.applyLevelHysteresis candidate score previous).rank := by
  unfold applyLevelHysteresis
  split
  · exact le_rfl
  · exact le_rfl
  · split
    · exact le_rfl
    · next below =>
      split
      · exact le_rfl
      · split
        · exact le_rfl
        · exact (not_le.mp below).le

theorem applyLevelHysteresis_of_rises {candidate previous : PressureLevel}
    (rises : previous.rank < candidate.rank) (score : ℚ) :
    thresholds.applyLevelHysteresis candidate score (some previous) =
      candidate := by
  cases previous with
  | unknown => rfl
  | low | medium | high | critical =>
    simp only [applyLevelHysteresis, if_pos rises.le]

/-- A level is left downwards from critical or below its entry by the
margin. -/
theorem applyLevelHysteresis_falls {candidate previous : PressureLevel}
    {score : ℚ}
    (falls : (thresholds.applyLevelHysteresis candidate score
      (some previous)).rank < previous.rank)
    (released : previous ≠ .critical) :
    score < thresholds.entry previous - levelHysteresis := by
  by_contra above
  have noLower : ¬ (thresholds.applyLevelHysteresis candidate score
      (some previous)).rank < previous.rank := by
    cases previous with
    | unknown => simp [PressureLevel.rank]
    | critical => exact absurd rfl released
    | low | medium | high =>
      simp only [applyLevelHysteresis, if_neg above]
      split
      · next accepted => exact not_lt.mpr accepted
      · simp
  exact noLower falls

theorem getPressureLevel_of_critical {thresholds : Thresholds} {score : ℚ}
    (critical : thresholds.critical ≤ score) :
    thresholds.getPressureLevel score = .critical :=
  if_pos critical

end Thresholds

namespace LevelState

variable (thresholds : Thresholds) (state : LevelState) (raw : ℚ)

def smoothedScore : ℚ :=
  if thresholds.critical ≤ raw then raw else state.average raw

theorem next_eq :
    state.next thresholds raw = ⟨some (state.smoothedScore thresholds raw),
        some (state.classify thresholds raw).1⟩ := by
  unfold next classify smoothedScore
  split <;> rfl

theorem classify_level :
    (state.classify thresholds raw).1 =
      if thresholds.critical ≤ raw then .critical
      else thresholds.applyLevelHysteresis
        (thresholds.getPressureLevel (state.smoothedScore thresholds raw))
        (state.smoothedScore thresholds raw) state.lastLevel := by
  unfold classify smoothedScore
  split <;> rfl

theorem getPressureLevel_smoothedScore_of_critical
    (critical : thresholds.critical ≤ raw) :
    thresholds.getPressureLevel (state.smoothedScore thresholds raw) =
      .critical := by
  rw [smoothedScore, if_pos critical]
  exact Thresholds.getPressureLevel_of_critical critical

/-- What the channel emits at a raw score. -/
def emission (reportsStress : Bool) : PressureEmission :=
  let result := state.classify thresholds raw
  { level := result.1
    score := pyRound2 (result.2.smoothed.getD 0)
    isStressed :=
      if reportsStress then
        some (decide (PressureLevel.high.rank ≤ result.1.rank))
      else none
    smoothed := result.2.smoothed.getD 0 }

variable {thresholds state raw} {reportsStress : Bool}

@[simp] theorem emission_level :
    (state.emission thresholds raw reportsStress).level =
      (state.classify thresholds raw).1 := rfl

@[simp] theorem emission_smoothed :
    (state.emission thresholds raw reportsStress).smoothed =
      state.smoothedScore thresholds raw := by
  change ((state.next thresholds raw).smoothed.getD 0) = _
  rw [next_eq]
  rfl

theorem coversBand_emission :
    (state.emission thresholds raw reportsStress).CoversBand thresholds := by
  unfold PressureEmission.CoversBand
  rw [emission_smoothed, emission_level, classify_level]
  split
  · next critical =>
    rw [getPressureLevel_smoothedScore_of_critical _ _ _ critical]
  · exact thresholds.rank_le_applyLevelHysteresis _ _ _

/-- Two samples of a channel, one right after the other. -/
theorem succeeds_emission (next : ℚ) :
    (state.emission thresholds raw reportsStress).Succeeds thresholds
      ((state.next thresholds raw).emission thresholds next reportsStress) where
  rises := by
    intro rises
    rw [emission_smoothed] at rises ⊢
    rw [emission_level, classify_level]
    split
    · next critical =>
      rw [getPressureLevel_smoothedScore_of_critical _ _ _ critical]
    · rw [show (state.next thresholds raw).lastLevel =
        some (state.classify thresholds raw).1 by rw [next_eq]]
      exact thresholds.applyLevelHysteresis_of_rises rises _
  falls := by
    intro falls released
    rw [emission_smoothed]
    rw [emission_level, classify_level] at falls
    split at falls
    · have top : ∀ level : PressureLevel, level.rank ≤ 3 := by
        intro level
        cases level <;> decide
      exact absurd falls (not_lt.mpr (top _))
    · rw [show (state.next thresholds raw).lastLevel =
        some (state.classify thresholds raw).1 by rw [next_eq]] at falls
      exact thresholds.applyLevelHysteresis_falls falls released

/-- What the channel emits over a history of raw scores. -/
def emissions (thresholds : Thresholds) (reportsStress : Bool)
    (state : LevelState) (scores : List ℚ) : List PressureEmission :=
  Runs.observations (next thresholds)
    (fun state raw => state.emission thresholds raw reportsStress) state scores

end LevelState

/-! ## Both channels, interleaved -/

/-- The channels of the analyzer. -/
inductive PressureChannel
  | system
  | disk
  deriving DecidableEq, Repr

namespace PressureChannel

/-- Only the disk channel reports whether it is stressed. -/
def reportsStress : PressureChannel → Bool
  | .system => false
  | .disk => true

end PressureChannel

def PressureSample.channel : PressureSample → PressureChannel
  | .system _ => .system
  | .disk _ => .disk

def PressureConfig.table (config : PressureConfig) :
    PressureChannel → Thresholds
  | .system => config.thresholds
  | .disk => config.diskThresholds

def PressureConfig.scores (config : PressureConfig) (channel : PressureChannel)
    (samples : List PressureSample) : List ℚ :=
  (samples.filter fun sample => sample.channel = channel).map config.raw

namespace PressureAnalyzer

/-- What a channel retains. -/
def channelState (analyzer : PressureAnalyzer) : PressureChannel → LevelState
  | .system => analyzer.system
  | .disk => analyzer.disk

def emission (config : PressureConfig)
    (analyzer : PressureAnalyzer) : PressureSample → PressureEmission
  | .system rawScore =>
    let result := analyzer.classifyLevel config rawScore
    ⟨result.1.1, result.1.2, none, result.2.system.smoothed.getD 0⟩
  | .disk sample =>
    let result := analyzer.classifyDiskPressure config sample
    ⟨result.1.1, result.1.2.1, some result.1.2.2, result.2.disk.smoothed.getD 0⟩

/-- What the samples of a channel make the analyzer emit, in order. -/
def emissions (config : PressureConfig) (channel : PressureChannel)
    (analyzer : PressureAnalyzer)
    (samples : List PressureSample) : List PressureEmission :=
  (Runs.observations (step config)
    (fun analyzer sample => (sample.channel, analyzer.emission config sample))
    analyzer samples).filterMap fun shown =>
      if shown.1 = channel then some shown.2 else none

variable (config : PressureConfig) {analyzer : PressureAnalyzer}

theorem emission_eq (sample : PressureSample) :
    analyzer.emission config sample =
      (analyzer.channelState sample.channel).emission
        (config.table sample.channel) (config.raw sample)
        sample.channel.reportsStress := by
  cases sample <;> rfl

theorem channelState_step (sample : PressureSample)
    (channel : PressureChannel) :
    (analyzer.step config sample).channelState channel =
      if sample.channel = channel then
        (analyzer.channelState channel).next (config.table channel)
          (config.raw sample)
      else analyzer.channelState channel := by
  cases sample <;> cases channel <;> rfl

theorem emissions_eq (channel : PressureChannel)
    (samples : List PressureSample) :
    emissions config channel analyzer samples =
      LevelState.emissions (config.table channel) channel.reportsStress
        (analyzer.channelState channel) (config.scores channel samples) := by
  induction samples generalizing analyzer with
  | nil => rfl
  | cons sample samples ih =>
    simp only [emissions, Runs.observations, List.filterMap_cons]
    simp only [emissions] at ih
    rw [ih, channelState_step]
    by_cases own : sample.channel = channel
    · subst own
      simp only [if_true, PressureConfig.scores, decide_true,
        List.filter_cons_of_pos, List.map_cons, LevelState.emissions,
        Runs.observations, emission_eq]
    · simp [own, PressureConfig.scores]

/-- Over any interleaving of the channels, the emissions of each channel cover
the bands of their smoothed scores and follow one another with hysteresis, and
they are what the samples of the channel alone would have emitted. -/
theorem hysteresis_over_runs (samples : List PressureSample)
    (channel : PressureChannel) :
    (∀ emission ∈ emissions config channel fresh samples,
        emission.CoversBand (config.table channel)) ∧
      (emissions config channel fresh samples).IsChain
        (PressureEmission.Succeeds (config.table channel)) ∧
      emissions config channel fresh samples = emissions config channel fresh
          (samples.filter fun sample => sample.channel = channel) := by
  rw [emissions_eq, emissions_eq]
  refine ⟨?_, ?_, ?_⟩
  · exact Runs.forall_mem_observations fun _ _ =>
      LevelState.coversBand_emission
  · exact Runs.isChain_observations
      (fun _ _ next => LevelState.succeeds_emission next) _ _
  · simp only [PressureConfig.scores, List.filter_filter, Bool.and_self]

end PressureAnalyzer

end SmarTune
