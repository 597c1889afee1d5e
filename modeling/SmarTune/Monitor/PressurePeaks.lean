import SmarTune.Library.PeakHold
import SmarTune.Library.Runs
import SmarTune.Monitor.Loop

/-!
# The peak latch

`SystemPressureMonitor` refreshes its levels on a timer and latches the highest
ones until the balancer consumes them.  Between two consumptions no level is
lost, and what is returned was seen since the first of them or is the level it
left behind.
-/

namespace SmarTune

/-- `_LEVEL_ORDER.get(level, -1)`. -/
def levelOrder : Option PressureLevel → ℤ
  | none | some .unknown => -1
  | some .low => 0
  | some .medium => 1
  | some .high => 2
  | some .critical => 3

theorem neg_one_le_levelOrder (level : Option PressureLevel) :
    -1 ≤ levelOrder level := by
  rcases level with _ | level
  · decide
  · cases level <;> decide

/-- What `_update_pressure_level` returns when it does not fail. -/
structure PressureReading where
  level : PressureLevel
  score : ℚ
  diskIoStressed : Bool
  /-- `disk_io_stress.get("level")`. -/
  diskLevel : Option PressureLevel

namespace PressureReading

/-- What a failed `_update_pressure_level` returns. -/
def failed : PressureReading := ⟨.unknown, 0, false, none⟩

/-- `disk_io_stress.get("level") or "low"`. -/
def newDiskLevel (reading : PressureReading) : PressureLevel :=
  reading.diskLevel.getD .low

end PressureReading

/-- What the listeners are told after a refresh. -/
inductive PressureNotice
  | criticalState (isCritical : Bool)
  | levelChange (sysLevel diskLevel : PressureLevel)
  deriving DecidableEq

/-- The levels of `SystemPressureMonitor`. -/
structure SystemPressureMonitor where
  currentLevel : Option PressureLevel
  score : ℚ
  isCurrentDiskIoStressed : Bool
  currentDiskLevel : PressureLevel
  peakLevel : Option PressureLevel
  peakDiskLevel : PressureLevel

namespace SystemPressureMonitor

/-- Before the first refresh. -/
def initial : SystemPressureMonitor := ⟨none, 0, false, .low, none, .low⟩

variable (monitor : SystemPressureMonitor)

/-- `_safe_update`, once the lock is held, and what it tells the listeners. -/
def safeUpdate (reading : PressureReading) :
    SystemPressureMonitor × List PressureNotice :=
  let newDiskLevel := reading.newDiskLevel
  let updated : SystemPressureMonitor :=
    { currentLevel := some reading.level
      score := reading.score
      isCurrentDiskIoStressed := reading.diskIoStressed
      currentDiskLevel := newDiskLevel
      peakLevel :=
        if levelOrder monitor.peakLevel < levelOrder (some reading.level) then
          some reading.level
        else monitor.peakLevel
      peakDiskLevel :=
        if levelOrder (some monitor.peakDiskLevel) <
            levelOrder (some newDiskLevel) then newDiskLevel
        else monitor.peakDiskLevel }
  let critical :=
    if decide (monitor.currentLevel = some .critical) ≠
        decide (reading.level = .critical) then
      [.criticalState (decide (reading.level = .critical))]
    else []
  let changed :=
    if monitor.currentLevel ≠ some reading.level ∨
        monitor.currentDiskLevel ≠ newDiskLevel then
      [.levelChange reading.level newDiskLevel]
    else []
  (updated, critical ++ changed)

/-- `consume_peak_pressure_level`. -/
def consumePeakPressureLevel :
    (Option PressureLevel × ℚ × PressureLevel) × SystemPressureMonitor :=
  ((if monitor.peakLevel.isSome then monitor.peakLevel
      else monitor.currentLevel,
    monitor.score, monitor.peakDiskLevel),
    { monitor with
      peakLevel := monitor.currentLevel
      peakDiskLevel := monitor.currentDiskLevel })

end SystemPressureMonitor

/-- A refresh, one that finds the lock taken, or a consumption. -/
inductive PeakStep
  | refresh (reading : PressureReading)
  | lockTaken
  | consume

namespace SystemPressureMonitor

/-- What a step leaves behind. -/
def step (monitor : SystemPressureMonitor) :
    PeakStep → SystemPressureMonitor
  | .refresh reading => (monitor.safeUpdate reading).1
  | .lockTaken => monitor
  | .consume => monitor.consumePeakPressureLevel.2

end SystemPressureMonitor

namespace PeakStep

/-- The readings of the refreshes that were performed. -/
def readings (window : List PeakStep) : List PressureReading :=
  window.filterMap fun
    | .refresh reading => some reading
    | _ => none

end PeakStep

namespace SystemPressureMonitor

/-- The levels a window sees on one channel: the one current at its start and
those of its refreshes. -/
structure Sees {Level : Type*} (order : Level → ℤ) (start : Level)
    (levels : List Level) (peak : Level) : Prop where
  start_le : order start ≤ order peak
  levels_le : ∀ level ∈ levels, order level ≤ order peak
  seen : peak = start ∨ peak ∈ levels

theorem sees_hold {Level : Type*} (order : Level → ℤ) (start : Level)
    (levels : List Level) :
    Sees order start levels (PeakHold.hold order start levels) where
  start_le := PeakHold.rank_le_hold_start order start levels
  levels_le := fun _ member => PeakHold.rank_le_hold order start member
  seen := List.mem_cons.mp (PeakHold.hold_mem order start levels)

variable {monitor : SystemPressureMonitor}

/-- The latches hold what the channels currently are at. -/
structure Rearmed (monitor : SystemPressureMonitor) : Prop where
  system : monitor.peakLevel = monitor.currentLevel
  disk : monitor.peakDiskLevel = monitor.currentDiskLevel

theorem rearmed_initial : initial.Rearmed := ⟨rfl, rfl⟩

theorem rearmed_consume : (monitor.step .consume).Rearmed := ⟨rfl, rfl⟩

theorem run_window {window : List PeakStep}
    (unconsumed : PeakStep.consume ∉ window) :
    (Runs.run step monitor window).peakLevel =
        PeakHold.hold levelOrder monitor.peakLevel
          ((PeakStep.readings window).map fun reading => some reading.level) ∧
      (Runs.run step monitor window).peakDiskLevel =
        PeakHold.hold (fun level => levelOrder (some level))
          monitor.peakDiskLevel
          ((PeakStep.readings window).map PressureReading.newDiskLevel) ∧
      (Runs.run step monitor window).currentLevel ∈ monitor.currentLevel ::
        (PeakStep.readings window).map fun reading => some reading.level := by
  induction window generalizing monitor with
  | nil => exact ⟨rfl, rfl, List.mem_cons_self⟩
  | cons label window ih =>
    obtain ⟨other, later⟩ := not_or.mp fun inside =>
      unconsumed (List.mem_cons.mpr inside)
    obtain ⟨system, disk, current⟩ :=
      @ih (monitor.step label) later
    cases label with
    | refresh reading =>
      refine ⟨system, disk, ?_⟩
      exact List.mem_cons_of_mem _ current
    | lockTaken => exact ⟨system, disk, current⟩
    | consume => exact absurd rfl other

theorem sees_of_none {levels : List (Option PressureLevel)}
    {current : Option PressureLevel}
    (unraised : PeakHold.hold levelOrder none levels = none)
    (last : current ∈ none :: levels) :
    Sees levelOrder none levels current := by
  have lowest : ∀ level ∈ levels, levelOrder level ≤ -1 := by
    intro level member
    have held := PeakHold.rank_le_hold levelOrder none member
    rwa [unraised] at held
  exact
    { start_le := neg_one_le_levelOrder current
      levels_le := fun level member =>
        (lowest level member).trans (neg_one_le_levelOrder current)
      seen := List.mem_cons.mp last }

/-- A consumption returns what the window since the last one has seen, on both
channels. -/
theorem sees_consumed {window : List PeakStep} (rearmed : monitor.Rearmed)
    (unconsumed : PeakStep.consume ∉ window) :
    let consumed := (Runs.run step monitor window).consumePeakPressureLevel.1
    Sees levelOrder monitor.currentLevel
        ((PeakStep.readings window).map fun reading => some reading.level)
        consumed.1 ∧
      Sees (fun level => levelOrder (some level)) monitor.currentDiskLevel
        ((PeakStep.readings window).map PressureReading.newDiskLevel)
        consumed.2.2 := by
  obtain ⟨system, disk, current⟩ := @run_window monitor window unconsumed
  rw [rearmed.system] at system
  rw [rearmed.disk] at disk
  simp only [consumePeakPressureLevel]
  refine ⟨?_, ?_⟩
  · cases raised : (Runs.run step monitor window).peakLevel with
    | some peak =>
      simp only [Option.isSome_some, if_true]
      rw [← raised, system]
      exact sees_hold _ _ _
    | none =>
      simp only [Option.isSome_none, Bool.false_eq_true, if_false]
      rw [raised] at system
      -- a refresh shows the latch a level, so it was unset at the start
      have unset : monitor.currentLevel = none := by
        have held := PeakHold.hold_mem levelOrder monitor.currentLevel
          ((PeakStep.readings window).map fun reading => some reading.level)
        rw [← system] at held
        simpa [eq_comm] using held
      rw [unset] at system current ⊢
      exact sees_of_none system.symm current
  · rw [disk]
    exact sees_hold _ _ _

/-- In every history, a consumption returns on each channel a level that was
current at the consumption before it or that a refresh has emitted since, and
none of these ranks above it. -/
theorem consumed_peak (before window : List PeakStep)
    (unconsumed : PeakStep.consume ∉ window) :
    let start := Runs.run step initial (before ++ [.consume])
    let consumed := (Runs.run step start window).consumePeakPressureLevel.1
    Sees levelOrder start.currentLevel
        ((PeakStep.readings window).map fun reading => some reading.level)
        consumed.1 ∧
      Sees (fun level => levelOrder (some level)) start.currentDiskLevel
        ((PeakStep.readings window).map PressureReading.newDiskLevel)
        consumed.2.2 := by
  intro start
  have rearmed : start.Rearmed := by
    change (Runs.run step initial (before ++ [.consume])).Rearmed
    rw [Runs.run_append]
    exact rearmed_consume
  exact sees_consumed rearmed unconsumed

/-- A spike between two consumptions, after a refresh that fails and before one
that is calm. -/
def spike : List PeakStep :=
  [.refresh .failed, .refresh ⟨.critical, 1, true, some .high⟩, .lockTaken,
    .refresh ⟨.low, 1 / 5, false, some .low⟩]

theorem consumed_peak_of_spike :
    let start := Runs.run step initial ([.refresh .failed] ++ [.consume])
    Sees levelOrder start.currentLevel
        ((PeakStep.readings spike).map fun reading => some reading.level)
        (some .critical) ∧
      Sees (fun level => levelOrder (some level)) start.currentDiskLevel
        ((PeakStep.readings spike).map PressureReading.newDiskLevel) .high :=
  consumed_peak [.refresh .failed] spike (by simp [spike])

/-- The latches before the first consumption: they see every level since the
start. -/
theorem first_consumed_peak {window : List PeakStep}
    (unconsumed : PeakStep.consume ∉ window) :
    let consumed := (Runs.run step initial window).consumePeakPressureLevel.1
    Sees levelOrder none
        ((PeakStep.readings window).map fun reading => some reading.level)
        consumed.1 ∧
      Sees (fun level => levelOrder (some level)) .low
        ((PeakStep.readings window).map PressureReading.newDiskLevel)
        consumed.2.2 :=
  sees_consumed rearmed_initial unconsumed

end SystemPressureMonitor

end SmarTune
