import SmarTune.Library.StabilityTimer
import SmarTune.Monitor.Loop

/-!
# The timers of one policy tick

What a policy tick does to the two stability timers: it stops a timer, starts it
at its own time, or leaves it running; and a restore step is attempted only when
the timer of its channel has reached its period.
-/

namespace SmarTune

open StabilityTimer

section Timers

variable {state : MonitorLoopState} {balancer : Balancer} {tick : PolicyTick}

/-- The handler leaves the disk timer alone. -/
theorem handled_diskIoNotStressedStartTime (result : TickResult) :
    result.handled.diskIoNotStressedStartTime =
      result.state.diskIoNotStressedStartTime := by
  unfold TickResult.handled
  split <;> rfl

theorem notStressed_of_shouldCheckIo {registry : LimitRegistry}
    {diskLevel : PressureLevel}
    (checked : shouldCheckIo registry diskLevel = true) :
    isDiskIoStressed diskLevel = false := by
  unfold shouldCheckIo at checked
  simp only [Bool.and_eq_true, Bool.not_eq_true'] at checked
  exact checked.1

/-! ## Restore steps -/

@[simp] theorem reset_pressureStartTime :
    state.reset.pressureStartTime = none := rfl

@[simp] theorem reset_diskIoNotStressedStartTime :
    state.reset.diskIoNotStressedStartTime =
      state.diskIoNotStressedStartTime := rfl

variable {step : Channel × RestoreType}

@[simp] theorem stepReturned_pressureStartTime (channel : Channel)
    (restoreType : RestoreType) (done : Bool) :
    (state.stepReturned channel restoreType done).pressureStartTime =
      state.pressureStartTime := by
  unfold MonitorLoopState.stepReturned
  split <;> rfl

@[simp] theorem stepReturned_currentPressure (channel : Channel)
    (restoreType : RestoreType) (done : Bool) :
    (state.stepReturned channel restoreType done).currentPressure =
      state.currentPressure := by
  unfold MonitorLoopState.stepReturned
  split <;> rfl

@[simp] theorem takeSteps_pressureStartTime
    (steps : List (Channel × RestoreType)) :
    (takeSteps tick state balancer steps).state.pressureStartTime =
      state.pressureStartTime := by
  induction steps generalizing state balancer with
  | nil => rfl
  | cons step steps ih =>
    simp only [takeSteps]
    split
    · rfl
    · rw [ih, stepReturned_pressureStartTime]

@[simp] theorem takeSteps_currentPressure
    (steps : List (Channel × RestoreType)) :
    (takeSteps tick state balancer steps).state.currentPressure =
      state.currentPressure := by
  induction steps generalizing state balancer with
  | nil => rfl
  | cons step steps ih =>
    simp only [takeSteps]
    split
    · rfl
    · rw [ih, stepReturned_currentPressure]

theorem takeSteps_diskTimer (steps : List (Channel × RestoreType)) :
    (takeSteps tick state balancer steps).state.diskIoNotStressedStartTime =
        none ∨
      (takeSteps tick state balancer steps).state.diskIoNotStressedStartTime =
        state.diskIoNotStressedStartTime := by
  induction steps generalizing state balancer with
  | nil => exact Or.inr rfl
  | cons step steps ih =>
    simp only [takeSteps]
    split
    · exact Or.inr rfl
    · next done _ =>
      have returned : ∀ before : MonitorLoopState,
          (before.stepReturned step.1 step.2
              done).diskIoNotStressedStartTime = none ∨
            (before.stepReturned step.1 step.2
              done).diskIoNotStressedStartTime =
              before.diskIoNotStressedStartTime := by
        intro before
        unfold MonitorLoopState.stepReturned
        split
        · exact Or.inl rfl
        · exact Or.inr rfl
      rcases ih with stopped | kept
      · exact Or.inl stopped
      · rw [kept]
        exact returned _

theorem mem_of_mem_attempted {steps : List (Channel × RestoreType)}
    (attempted : step ∈ (takeSteps tick state balancer steps).attempted) :
    step ∈ steps := by
  induction steps generalizing state balancer with
  | nil => cases attempted
  | cons head steps ih =>
    simp only [takeSteps] at attempted
    split at attempted
    · rw [List.mem_singleton.mp attempted]
      exact List.mem_cons_self
    · rcases List.mem_cons.mp attempted with equal | later
      · rw [equal]
        exact List.mem_cons_self
      · exact List.mem_cons_of_mem _ (ih later)

theorem elapsed_iff (timer : Option ℚ) (now period : ℚ) :
    elapsed timer now period = true ↔ Reached timer now period := by
  cases timer <;> simp [elapsed, Reached]

theorem mem_dueSteps {pressure : PressureLevel}
    {pressureStable ioStable ioDoubleStable : Bool}
    (due : step ∈ dueSteps pressure pressureStable ioStable ioDoubleStable) :
    (step.1 = .sys → pressureStable = true) ∧
      (step = (.diskIo, .partially) → ioStable = true) ∧
      (step = (.diskIo, .full) → ioDoubleStable = true) := by
  unfold dueSteps at due
  split at due
  · next stable =>
    simp only [Bool.and_eq_true] at stable
    rw [List.mem_singleton.mp due]
    simp [stable.1]
  split at due
  · next stable =>
    simp only [Bool.and_eq_true] at stable
    rw [List.mem_singleton.mp due]
    simp [stable.1]
  split at due
  · rcases List.mem_append.mp due with sys | disk
    · split at sys
      · next stable =>
        simp only [Bool.and_eq_true] at stable
        rw [List.mem_singleton.mp sys]
        simp [stable.1]
      · cases sys
    · split at disk
      · next stable =>
        rw [List.mem_singleton.mp disk]
        simp [stable]
      · cases disk
  · cases due

/-! ## The limit arm -/

theorem limitBatch_sys (registry : LimitRegistry) :
    (limitBatch state registry tick .sys).pressureStartTime = none := by
  simp only [limitBatch]
  split <;> split <;> rfl

theorem limitBatch_diskIo (registry : LimitRegistry) :
    (limitBatch state registry tick .diskIo).pressureStartTime =
        state.pressureStartTime ∧
      (limitBatch state registry tick .diskIo).currentPressure =
        state.currentPressure ∧
      (limitBatch state registry tick .diskIo).diskIoNotStressedStartTime =
        none := by
  simp only [limitBatch]
  split <;> split <;> exact ⟨rfl, rfl, rfl⟩

theorem limitBatch_sys_diskTimer (registry : LimitRegistry) :
    (limitBatch state registry tick .sys).diskIoNotStressedStartTime =
      state.diskIoNotStressedStartTime := by
  simp only [limitBatch]
  split <;> split <;> rfl

/-- The tick neither stops nor checks the pressure timer: the disk arm works on
a batch, the restore arm is closed, or it only checks the disk channel. -/
def leavesPressureTimer (state : MonitorLoopState) (balancer : Balancer)
    (tick : PolicyTick) : Bool :=
  if tick.passiveEnabled &&
      (tick.pressure = .critical || isDiskIoStressed tick.diskLevel) then
    tick.pressure ≠ .critical && !tick.limitRaises &&
      !(limitBatch { state with restorePending := false } balancer.allLimits
        tick .diskIo).topConsumeApps.isEmpty
  else if tick.launchPending && tick.pressure ≠ .critical &&
      !isDiskIoStressed tick.diskLevel then
    false
  else if tick.scanDisturbed then false
  else if balancer.allLimits.firstAuto.isNone || state.restorePending then true
  else !shouldCheckPressure balancer.allLimits tick.pressure &&
    shouldCheckIo balancer.allLimits tick.diskLevel

/-- The limit arm stops the pressure timer unless the disk arm works on a
batch. -/
theorem tickLimit_pressure :
    (tickLimit state balancer tick).handled.pressureStartTime = none ∨
      ((tickLimit state balancer tick).handled.pressureStartTime =
          state.pressureStartTime ∧
        (tickLimit state balancer tick).handled.currentPressure =
          state.currentPressure ∧
        tick.pressure ≠ .critical ∧ tick.limitRaises = false ∧
        (limitBatch { state with restorePending := false } balancer.allLimits
          tick .diskIo).topConsumeApps.isEmpty = false) := by
  unfold tickLimit TickResult.handled
  by_cases critical : tick.pressure = .critical
  · left
    have stopped := @limitBatch_sys { state with restorePending := false } tick
      balancer.allLimits
    simp only [critical, if_true]
    split
    · rfl
    · split
      · rfl
      · simpa [Bool.false_eq_true] using stopped
  · have kept := @limitBatch_diskIo { state with restorePending := false } tick
      balancer.allLimits
    simp only [critical, if_false]
    split
    · exact Or.inl rfl
    · next calm =>
      split
      · exact Or.inl rfl
      · next held =>
        right
        refine ⟨?_, ?_, critical, by simpa using calm, by simpa using held⟩
        · simp only [Bool.false_eq_true, if_false]
          split
          · exact kept.1
          · split <;> exact kept.1
        · simp only [Bool.false_eq_true, if_false]
          split
          · exact kept.2.1
          · split <;> exact kept.2.1

/-- The limit arm stops the disk timer unless pressure is critical, and then
leaves it alone. -/
theorem tickLimit_disk :
    (tickLimit state balancer tick).handled.diskIoNotStressedStartTime = none ∨
      ((tickLimit state balancer tick).handled.diskIoNotStressedStartTime =
          state.diskIoNotStressedStartTime ∧
        tick.pressure = .critical) := by
  rw [handled_diskIoNotStressedStartTime]
  unfold tickLimit
  by_cases critical : tick.pressure = .critical
  · right
    have kept := @limitBatch_sys_diskTimer
      { state with restorePending := false } tick balancer.allLimits
    refine ⟨?_, critical⟩
    simp only [critical, if_true]
    split
    · exact kept
    · split
      · exact kept
      · simpa using kept
  · left
    have stopped := (@limitBatch_diskIo { state with restorePending := false }
      tick balancer.allLimits).2.2
    simp only [critical, if_false]
    split
    · exact stopped
    · split
      · exact stopped
      · simp only [decide_true, Bool.true_and]
        split
        · exact stopped
        · split <;> exact stopped

@[simp] theorem tickLimit_attempted :
    (tickLimit state balancer tick).attempted = [] := by
  unfold tickLimit
  generalize (if tick.pressure = .critical then Channel.sys
    else Channel.diskIo) = channel
  simp only
  split
  · rfl
  · split <;> rfl

/-! ## Starting the timers -/

@[simp] theorem startDiskTimer_pressureStartTime :
    (startDiskTimer state tick).pressureStartTime =
      state.pressureStartTime := by
  unfold startDiskTimer
  split <;> rfl

@[simp] theorem startDiskTimer_currentPressure :
    (startDiskTimer state tick).currentPressure = state.currentPressure := by
  unfold startDiskTimer
  split <;> rfl

@[simp] theorem startPressureTimer_diskIoNotStressedStartTime :
    (startPressureTimer state tick).diskIoNotStressedStartTime =
      state.diskIoNotStressedStartTime := by
  unfold startPressureTimer
  split <;> rfl

/-- The pressure timer is restarted at this tick's level unless it runs for
that level. -/
theorem startPressureTimer_cases :
    ((startPressureTimer state tick).pressureStartTime = some tick.now ∧
      (startPressureTimer state tick).currentPressure = some tick.pressure) ∨
    (startPressureTimer state tick = state ∧
      state.currentPressure = some tick.pressure) := by
  unfold startPressureTimer
  split
  · exact Or.inl ⟨rfl, rfl⟩
  · next kept =>
    refine Or.inr ⟨rfl, ?_⟩
    by_contra changed
    exact kept (by simp [changed])

theorem startTimers_pressure (checkPressure checkIo : Bool) :
    ((startTimers state tick checkPressure checkIo).pressureStartTime =
        some tick.now ∧
      (startTimers state tick checkPressure checkIo).currentPressure =
        some tick.pressure) ∨
    ((startTimers state tick checkPressure checkIo).pressureStartTime =
        state.pressureStartTime ∧
      (startTimers state tick checkPressure checkIo).currentPressure =
        state.currentPressure ∧
      (checkPressure = true → state.currentPressure = some tick.pressure)) := by
  cases checkPressure with
  | false =>
    right
    cases checkIo <;> simp [startTimers]
  | true =>
    rcases @startPressureTimer_cases state tick with
      ⟨restarted, level⟩ | ⟨kept, level⟩
    · left
      cases checkIo <;> simp [startTimers, restarted, level]
    · right
      cases checkIo <;> simp [startTimers, kept, level]

theorem startTimers_disk (checkPressure checkIo : Bool) :
    ((startTimers state tick checkPressure checkIo).diskIoNotStressedStartTime =
        some tick.now ∧ checkIo = true) ∨
      (startTimers state tick checkPressure checkIo).diskIoNotStressedStartTime =
        state.diskIoNotStressedStartTime := by
  cases checkIo with
  | false => right; cases checkPressure <;> simp [startTimers]
  | true =>
    cases running : state.diskIoNotStressedStartTime with
    | none =>
      left
      cases checkPressure <;> simp [startTimers, startDiskTimer, running]
    | some start =>
      right
      cases checkPressure <;> simp [startTimers, startDiskTimer, running]

/-! ## One tick -/

/-- What a tick does to the pressure timer: stop it, restart it at its own
level, or leave it, over its own level unless the tick is one that leaves the
timer alone. -/
theorem tick_pressure :
    (tickSeparatedPolicy state balancer tick).handled.pressureStartTime = none ∨
    ((tickSeparatedPolicy state balancer tick).handled.pressureStartTime =
        some tick.now ∧
      (tickSeparatedPolicy state balancer tick).handled.currentPressure =
        some tick.pressure) ∨
    ((tickSeparatedPolicy state balancer tick).handled.pressureStartTime =
        state.pressureStartTime ∧
      (tickSeparatedPolicy state balancer tick).handled.currentPressure =
        state.currentPressure ∧
      (state.currentPressure = some tick.pressure ∨
        leavesPressureTimer state balancer tick = true)) := by
  unfold tickSeparatedPolicy leavesPressureTimer
  split
  · rcases @tickLimit_pressure state balancer tick with
      stopped | ⟨kept, same, notCritical, calm, held⟩
    · exact Or.inl stopped
    · exact Or.inr (Or.inr ⟨kept, same, Or.inr (by
        simp [notCritical, calm, held])⟩)
  split
  · exact Or.inl rfl
  unfold tickSeparatedRestore
  split
  · exact Or.inl rfl
  split
  · exact Or.inr (Or.inr ⟨rfl, rfl, Or.inr rfl⟩)
  simp only
  split
  · exact Or.inl rfl
  · next checked =>
    unfold TickResult.handled
    split
    · exact Or.inl rfl
    · rw [takeSteps_pressureStartTime, takeSteps_currentPressure]
      rcases @startTimers_pressure state tick
          (shouldCheckPressure balancer.allLimits tick.pressure)
          (shouldCheckIo balancer.allLimits tick.diskLevel) with
        restarted | ⟨kept, same, sameLevel⟩
      · exact Or.inr (Or.inl restarted)
      · refine Or.inr (Or.inr ⟨kept, same, ?_⟩)
        cases checks :
            shouldCheckPressure balancer.allLimits tick.pressure with
        | true => exact Or.inl (sameLevel checks)
        | false =>
          right
          simpa [checks] using checked

theorem tick_disk :
    (tickSeparatedPolicy state balancer
        tick).handled.diskIoNotStressedStartTime = none ∨
    ((tickSeparatedPolicy state balancer
        tick).handled.diskIoNotStressedStartTime = some tick.now ∧
      isDiskIoStressed tick.diskLevel = false) ∨
    ((tickSeparatedPolicy state balancer
        tick).handled.diskIoNotStressedStartTime =
          state.diskIoNotStressedStartTime ∧
      (isDiskIoStressed tick.diskLevel = true →
        ¬ (tick.passiveEnabled = true ∧ tick.pressure ≠ .critical))) := by
  unfold tickSeparatedPolicy
  split
  · rcases @tickLimit_disk state balancer tick with stopped | ⟨kept, critical⟩
    · exact Or.inl stopped
    · exact Or.inr (Or.inr ⟨kept, fun _ diskArm => diskArm.2 critical⟩)
  next otherArm =>
  have notDiskArm : isDiskIoStressed tick.diskLevel = true →
      ¬ (tick.passiveEnabled = true ∧ tick.pressure ≠ .critical) := by
    intro stressed diskArm
    exact otherArm (by simp [stressed, diskArm.1])
  split
  · exact Or.inr (Or.inr ⟨rfl, notDiskArm⟩)
  unfold tickSeparatedRestore
  split
  · exact Or.inr (Or.inr ⟨rfl, notDiskArm⟩)
  split
  · exact Or.inr (Or.inr ⟨rfl, notDiskArm⟩)
  simp only
  split
  · exact Or.inr (Or.inr ⟨rfl, notDiskArm⟩)
  rw [handled_diskIoNotStressedStartTime]
  rcases takeSteps_diskTimer (dueOnTick _ balancer.allLimits tick) with
    stopped | kept
  · exact Or.inl stopped
  rw [kept]
  rcases @startTimers_disk state tick
      (shouldCheckPressure balancer.allLimits tick.pressure)
      (shouldCheckIo balancer.allLimits tick.diskLevel) with
    ⟨started, checked⟩ | running
  · exact Or.inr (Or.inl ⟨started, notStressed_of_shouldCheckIo checked⟩)
  · exact Or.inr (Or.inr ⟨running, notDiskArm⟩)

theorem mem_dueOnTick_of_attempted
    (attempted : step ∈ (tickSeparatedPolicy state balancer tick).attempted) :
    step ∈ dueOnTick (startTimers state tick
        (shouldCheckPressure balancer.allLimits tick.pressure)
        (shouldCheckIo balancer.allLimits tick.diskLevel))
      balancer.allLimits tick := by
  unfold tickSeparatedPolicy at attempted
  split at attempted
  · rw [tickLimit_attempted] at attempted
    cases attempted
  split at attempted
  · cases attempted
  unfold tickSeparatedRestore at attempted
  split at attempted
  · cases attempted
  split at attempted
  · cases attempted
  simp only at attempted
  split at attempted
  · cases attempted
  exact mem_of_mem_attempted attempted

theorem not_reached_now {period : ℚ} (positive : 0 < period) :
    ¬ Reached (some tick.now) tick.now period := by
  rintro ⟨start, running, elapsed⟩
  obtain rfl := Option.some.inj running
  rw [sub_self] at elapsed
  exact absurd elapsed (not_le.mpr positive)

theorem attempted_sys {restoreType : RestoreType}
    (attempted : (.sys, restoreType) ∈
      (tickSeparatedPolicy state balancer tick).attempted) :
    Reached state.pressureStartTime tick.now stablePeriod ∧
      state.currentPressure = some tick.pressure := by
  have stable := (mem_dueSteps (mem_dueOnTick_of_attempted attempted)).1 rfl
  simp only [Bool.and_eq_true, elapsed_iff] at stable
  obtain ⟨checked, reached⟩ := stable
  rcases @startTimers_pressure state tick
      (shouldCheckPressure balancer.allLimits tick.pressure)
      (shouldCheckIo balancer.allLimits tick.diskLevel) with
    restarted | ⟨kept, _, sameLevel⟩
  · rw [restarted.1] at reached
    exact absurd reached (not_reached_now (by decide))
  · rw [kept] at reached
    exact ⟨reached, sameLevel checked⟩

/-- How long the disk must have been calm for a restore step. -/
def calmPeriod : RestoreType → ℚ
  | .partially => stableDiskIoPeriod
  | .full => stableDiskIoPeriod * 2

theorem attempted_disk {restoreType : RestoreType}
    (attempted : (.diskIo, restoreType) ∈
      (tickSeparatedPolicy state balancer tick).attempted) :
    Reached state.diskIoNotStressedStartTime tick.now
      (calmPeriod restoreType) := by
  have stable := (mem_dueSteps (mem_dueOnTick_of_attempted attempted)).2
  have reached : Reached (startTimers state tick
      (shouldCheckPressure balancer.allLimits tick.pressure)
      (shouldCheckIo balancer.allLimits
        tick.diskLevel)).diskIoNotStressedStartTime tick.now
      (calmPeriod restoreType) := by
    cases restoreType with
    | partially =>
      have ripe := stable.1 rfl
      rw [Bool.and_eq_true, elapsed_iff] at ripe
      exact ripe.2
    | full =>
      have ripe := stable.2 rfl
      rw [Bool.and_eq_true, elapsed_iff] at ripe
      exact ripe.2
  rcases @startTimers_disk state tick
      (shouldCheckPressure balancer.allLimits tick.pressure)
      (shouldCheckIo balancer.allLimits tick.diskLevel) with
    ⟨started, _⟩ | kept
  · rw [started] at reached
    refine absurd reached (not_reached_now ?_)
    cases restoreType <;> decide +kernel
  · rwa [kept] at reached

end Timers

end SmarTune
