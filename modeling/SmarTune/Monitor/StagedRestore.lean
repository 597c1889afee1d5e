import SmarTune.Balancer.RestoreErrors
import SmarTune.Monitor.Stability

/-!
# The dispatch of the staged restore

One chain of branches dispatches the steps of both channels.  A step that raises
leaves `restore_pending` set, and a branch taken for one channel can swallow the
tick of the other.
-/

namespace SmarTune

/-! ## Ripe channels -/

/-- The system channel is checked and its timer has run for the stability period
at this level. -/
def sysRipe (state : MonitorLoopState) (registry : LimitRegistry)
    (tick : PolicyTick) : Bool :=
  shouldCheckPressure registry tick.pressure &&
    state.currentPressure = some tick.pressure &&
    elapsed state.pressureStartTime tick.now stablePeriod

/-- The disk channel is checked and its timer has run for a period. -/
def diskRipe (state : MonitorLoopState) (registry : LimitRegistry)
    (tick : PolicyTick) (period : ℚ) : Bool :=
  shouldCheckIo registry tick.diskLevel &&
    elapsed state.diskIoNotStressedStartTime tick.now period

/-- The steps that are due, read off the timers before the tick. -/
def ripeSteps (state : MonitorLoopState) (registry : LimitRegistry)
    (tick : PolicyTick) : List (Channel × RestoreType) :=
  dueSteps tick.pressure (sysRipe state registry tick)
    (diskRipe state registry tick stableDiskIoPeriod)
    (diskRipe state registry tick (stableDiskIoPeriod * 2))

section Ripe

variable {state : MonitorLoopState} {balancer : Balancer} {tick : PolicyTick}

/-- A timer that has only just started has reached no positive period. -/
theorem elapsed_now {period : ℚ} (positive : 0 < period) :
    elapsed (some tick.now) tick.now period = false := by
  rw [← Bool.not_eq_true, elapsed_iff]
  exact not_reached_now positive

/-- Starting the pressure timer leaves it ripe only if it ran for this level. -/
theorem elapsed_startPressureTimer :
    elapsed (startPressureTimer state tick).pressureStartTime tick.now
        stablePeriod =
      (state.currentPressure = some tick.pressure &&
        elapsed state.pressureStartTime tick.now stablePeriod) := by
  have unripe := @elapsed_now tick stablePeriod (by decide)
  unfold startPressureTimer
  split
  · next restarts =>
    rw [unripe]
    simp only [Bool.or_eq_true, Option.isNone_iff_eq_none,
      decide_eq_true_eq] at restarts
    rcases restarts with stopped | changed
    · simp [stopped, elapsed]
    · simp [changed]
  · next kept =>
    simp only [Bool.or_eq_true, decide_eq_true_eq, not_or, ne_eq,
      not_not] at kept
    simp [kept.2]

theorem elapsed_startDiskTimer {period : ℚ} (positive : 0 < period) :
    elapsed (startDiskTimer state tick).diskIoNotStressedStartTime tick.now
        period =
      elapsed state.diskIoNotStressedStartTime tick.now period := by
  unfold startDiskTimer
  split
  · next stopped =>
    rw [elapsed_now positive, Option.isNone_iff_eq_none.mp stopped]
    rfl
  · rfl

theorem dueOnTick_startTimers (registry : LimitRegistry) :
    dueOnTick (startTimers state tick
        (shouldCheckPressure registry tick.pressure)
        (shouldCheckIo registry tick.diskLevel)) registry tick =
      ripeSteps state registry tick := by
  have single : (0 : ℚ) < stableDiskIoPeriod := by decide
  have double : (0 : ℚ) < stableDiskIoPeriod * 2 := by decide +kernel
  unfold dueOnTick ripeSteps sysRipe diskRipe startTimers
  cases shouldCheckPressure registry tick.pressure <;>
    cases shouldCheckIo registry tick.diskLevel <;>
    simp [elapsed_startPressureTimer, elapsed_startDiskTimer single,
      elapsed_startDiskTimer double]

theorem not_anyAutoCarries_of_firstAuto {registry : LimitRegistry}
    (noAuto : registry.firstAuto = none) (channel : Channel) :
    anyAutoCarries registry channel = false := by
  rw [LimitRegistry.firstAuto, List.find?_eq_none] at noAuto
  unfold anyAutoCarries OrderedDict.values
  rw [List.any_map, List.any_eq_false]
  intro app member
  have notAuto := noAuto app member
  simp only [decide_eq_true_eq] at notAuto
  simp [notAuto]

/-- Without a channel to check nothing is due. -/
theorem ripeSteps_of_unchecked {registry : LimitRegistry}
    (pressure : shouldCheckPressure registry tick.pressure = false)
    (io : shouldCheckIo registry tick.diskLevel = false) :
    ripeSteps state registry tick = [] := by
  simp [ripeSteps, sysRipe, diskRipe, dueSteps, pressure, io]

end Ripe

/-! ## Taking the steps -/

/-- One of the steps raises, each found in the state the earlier ones left. -/
def stepsRaise (tick : PolicyTick)
    (balancer : Balancer) : List (Channel × RestoreType) → Bool
  | [] => false
  | (channel, restoreType) :: rest =>
    balancer.stepRaises channel restoreType (tick.restoreStep channel) ||
      stepsRaise tick (balancer.restoreChannel channel restoreType
        (tick.restoreStep channel)).2 rest

section Steps

variable {state : MonitorLoopState} {balancer : Balancer} {tick : PolicyTick}

theorem stepRaises_of_error {channel : Channel} {restoreType : RestoreType}
    {step : Balancer.ChannelStep} {error : PyError}
    (failed : (balancer.restoreChannel channel restoreType step).1 =
      .error error) :
    balancer.stepRaises channel restoreType step = true :=
  (Balancer.restoreChannel_raises_iff channel restoreType step).mp
    ⟨error, failed⟩

theorem not_stepRaises_of_ok {channel : Channel} {restoreType : RestoreType}
    {step : Balancer.ChannelStep} {done : Bool}
    (returned : (balancer.restoreChannel channel restoreType step).1 =
      .ok done) :
    balancer.stepRaises channel restoreType step = false := by
  by_contra raised
  obtain ⟨error, failed⟩ :=
    (Balancer.restoreChannel_raises_iff channel restoreType step).mpr
      (by simpa using raised)
  rw [returned] at failed
  cases failed

theorem takeSteps_restorePending (steps : List (Channel × RestoreType)) :
    (takeSteps tick state balancer steps).state.restorePending =
      stepsRaise tick balancer steps := by
  induction steps generalizing state balancer with
  | nil => rfl
  | cons step steps ih =>
    obtain ⟨channel, restoreType⟩ := step
    simp only [takeSteps, stepsRaise]
    split
    · next error failed =>
      rw [stepRaises_of_error failed]
      rfl
    · next done returned =>
      rw [ih, not_stepRaises_of_ok returned, Bool.false_or]

theorem mem_attempted_head (step : Channel × RestoreType)
    (steps : List (Channel × RestoreType)) :
    step ∈ (takeSteps tick state balancer (step :: steps)).attempted := by
  simp only [takeSteps]
  split <;> exact List.mem_cons_self

@[simp] theorem attempted_single (step : Channel × RestoreType) :
    (takeSteps tick state balancer [step]).attempted = [step] := by
  simp only [takeSteps]
  split <;> rfl

theorem attempted_pair (first second : Channel × RestoreType) :
    (takeSteps tick state balancer [first, second]).attempted =
      if balancer.stepRaises first.1 first.2 (tick.restoreStep first.1)
        then [first] else [first, second] := by
  rw [takeSteps]
  split
  · next error failed =>
    rw [stepRaises_of_error failed, if_pos rfl]
  · next done returned =>
    rw [not_stepRaises_of_ok returned, if_neg Bool.false_ne_true]
    simp only [takeSteps]
    split <;> rfl

theorem handled_restorePending (result : TickResult) :
    result.handled.restorePending = result.state.restorePending := by
  unfold TickResult.handled
  split <;> rfl

theorem tickSeparatedRestore_undisturbed
    (undisturbed : tick.scanDisturbed = false)
    (free : state.restorePending = false) :
    (tickSeparatedRestore state balancer tick).attempted =
        (takeSteps tick (startTimers state tick
            (shouldCheckPressure balancer.allLimits tick.pressure)
            (shouldCheckIo balancer.allLimits tick.diskLevel)) balancer
          (ripeSteps state balancer.allLimits tick)).attempted ∧
      (tickSeparatedRestore state balancer tick).state.restorePending =
        stepsRaise tick balancer (ripeSteps state balancer.allLimits tick) := by
  unfold tickSeparatedRestore
  rw [if_neg (by simp [undisturbed])]
  split
  · next noAuto =>
    rw [free, Bool.or_false, Option.isNone_iff_eq_none] at noAuto
    have carriesNothing := not_anyAutoCarries_of_firstAuto noAuto
    rw [ripeSteps_of_unchecked (by simp [shouldCheckPressure, carriesNothing])
      (by simp [shouldCheckIo, carriesNothing])]
    exact ⟨rfl, free⟩
  · simp only
    split
    · next unchecked =>
      simp only [Bool.not_eq_true', Bool.or_eq_false_iff] at unchecked
      rw [ripeSteps_of_unchecked unchecked.1 unchecked.2]
      exact ⟨rfl, free⟩
    · rw [dueOnTick_startTimers, takeSteps_restorePending]
      exact ⟨rfl, rfl⟩

theorem tickSeparatedRestore_disturbed
    (disturbed : tick.scanDisturbed = true ∨ state.restorePending = true) :
    (tickSeparatedRestore state balancer tick).attempted = [] ∧
      (tickSeparatedRestore state balancer tick).state.restorePending =
        state.restorePending := by
  unfold tickSeparatedRestore
  rcases disturbed with scan | pending
  · rw [if_pos scan]
    exact ⟨rfl, rfl⟩
  · split
    · exact ⟨rfl, rfl⟩
    · rw [pending, Bool.or_true, if_pos rfl]
      exact ⟨rfl, pending⟩

/-- After a restore tick and the handler `restore_pending` is clear exactly when
it was before and no step the tick dispatches raises. -/
theorem restore_pending_clear_iff (state : MonitorLoopState)
    (balancer : Balancer) (tick : PolicyTick) :
    (tickSeparatedRestore state balancer tick).handled.restorePending = false ↔
      state.restorePending = false ∧ (tick.scanDisturbed = true ∨
          stepsRaise tick balancer
            (ripeSteps state balancer.allLimits tick) = false) := by
  rw [handled_restorePending]
  cases pending : state.restorePending with
  | true =>
    rw [(tickSeparatedRestore_disturbed (Or.inr pending)).2, pending]
    simp
  | false =>
    cases scan : tick.scanDisturbed with
    | true =>
      rw [(tickSeparatedRestore_disturbed (Or.inl scan)).2, pending]
      simp
    | false =>
      rw [(tickSeparatedRestore_undisturbed scan pending).2]
      simp

/-- One app under a CPU cap whose policy disables memory and disk limits, so
that its rates hold `None` for them. -/
def cpuOnlyCapped : Balancer :=
  Balancer.initial.applyResourceLimits {} "one.scope"
    ⟨some (some (1 / 2)), some none, some none⟩ true false "critical"
    MonitoredLoop.acceptingEnvironment

/-- The partial restore of a CPU-only cap raises, and no later restore tick
attempts anything. -/
theorem none_rate_blocks_restore :
    let before := (MonitoredLoop.initial 5).step
      (.tick cpuOnlyCapped (MonitoredLoop.quietTick 0 .medium .low))
    let after := (tickSeparatedRestore before.state cpuOnlyCapped
      (MonitoredLoop.quietTick 1800 .medium .low)).handled
    before.state.restorePending = false ∧ after.restorePending = true ∧
      (tickSeparatedRestore after cpuOnlyCapped
        (MonitoredLoop.quietTick 3600 .medium .low)).attempted = [] := by
  decide +kernel

/-! ## Independence of the channels -/

/-- The restore step of the system channel at a level. -/
def sysRestoreType : PressureLevel → RestoreType
  | .medium => .partially
  | _ => .full

/-- Some auto entry carries a CPU/memory cap that is not relaxed yet. -/
def unrelaxedSysCap (registry : LimitRegistry) : Bool :=
  registry.apps.values.any fun app =>
    app.source = .auto && app.limitParts.cpuMemLimited && !app.partialParts.sys

theorem diskIo_full_attempted_iff (sysStable ioStable ioDoubleStable : Bool) :
    (.diskIo, .full) ∈ (takeSteps tick state balancer
        (dueSteps tick.pressure sysStable ioStable ioDoubleStable)).attempted ↔
      ioDoubleStable = true ∧ ¬ (sysStable = true ∧ tick.pressure = .medium) ∧
        ¬ (sysStable = true ∧ tick.pressure = .low ∧
          balancer.stepRaises .sys .full (tick.restoreStep .sys) = true) := by
  cases ioDoubleStable with
  | false =>
    have notAttempted : (.diskIo, .full) ∉ (takeSteps tick state balancer
        (dueSteps tick.pressure sysStable ioStable false)).attempted := by
      intro attempted
      exact absurd ((mem_dueSteps
        (mem_of_mem_attempted attempted)).2.2 rfl) (by simp)
    simp [notAttempted]
  | true =>
    unfold dueSteps
    split
    · -- The partial sys restore takes the tick.
      next medium =>
      simp only [Bool.and_eq_true, decide_eq_true_eq] at medium
      simp [medium]
    next notMedium =>
    simp only [Bool.and_eq_true, decide_eq_true_eq] at notMedium
    simp only [Bool.not_true, Bool.and_false, Bool.false_eq_true, if_false,
      Bool.or_true, if_true, notMedium, not_false_eq_true, true_and]
    split
    · next low =>
      simp only [Bool.and_eq_true, decide_eq_true_eq] at low
      simp only [List.singleton_append, attempted_pair, low, true_and]
      split
      · next raises => simp [raises]
      · next quiet => simp [quiet]
    · next notLow =>
      simp only [Bool.and_eq_true, decide_eq_true_eq] at notLow
      simp only [List.nil_append, attempted_single, List.mem_singleton,
        true_iff, not_and]
      intro stable low
      exact absurd ⟨stable, low⟩ notLow

theorem sys_attempted_iff {sysStable : Bool}
    (level : sysStable = true → tick.pressure = .medium ∨ tick.pressure = .low)
    (ioStable ioDoubleStable : Bool) :
    (.sys, sysRestoreType tick.pressure) ∈ (takeSteps tick state balancer
        (dueSteps tick.pressure sysStable ioStable ioDoubleStable)).attempted ↔
      sysStable = true ∧ ¬ (tick.pressure = .low ∧ ioStable = true ∧
          ioDoubleStable = false) := by
  cases sysStable with
  | false =>
    -- Only disk steps are due.
    have notAttempted : (.sys, sysRestoreType tick.pressure) ∉
        (takeSteps tick state balancer (dueSteps tick.pressure false
          ioStable ioDoubleStable)).attempted := by
      intro attempted
      exact absurd ((mem_dueSteps (mem_of_mem_attempted attempted)).1 rfl)
        (by simp)
    simp [notAttempted]
  | true =>
    rcases level rfl with medium | low
    · simp [dueSteps, medium, sysRestoreType]
    · cases ioStable <;> cases ioDoubleStable <;>
        simp [dueSteps, low, sysRestoreType, mem_attempted_head]

/-- Nothing keeps a due full disk restore from its tick: no other thread, no
stuck step, no step of the system channel. -/
def DiskUncontended (state : MonitorLoopState) (balancer : Balancer)
    (tick : PolicyTick) : Prop :=
  tick.scanDisturbed = false ∧ state.restorePending = false ∧
    ¬ (sysRipe state balancer.allLimits tick = true ∧ tick.pressure = .medium) ∧
    ¬ (sysRipe state balancer.allLimits tick = true ∧ tick.pressure = .low ∧
      balancer.stepRaises .sys .full (tick.restoreStep .sys) = true)

/-- Nothing keeps a due sys restore from its tick: no other thread, no stuck
step, no partial disk restore. -/
def SysUncontended (state : MonitorLoopState) (balancer : Balancer)
    (tick : PolicyTick) : Prop :=
  tick.scanDisturbed = false ∧ state.restorePending = false ∧
    ¬ (tick.pressure = .low ∧
      diskRipe state balancer.allLimits tick stableDiskIoPeriod = true ∧
      diskRipe state balancer.allLimits tick (stableDiskIoPeriod * 2) = false)

/-- A restore tick serves both ripe channels exactly when neither is
contended. -/
theorem channels_independent_iff (state : MonitorLoopState)
    (balancer : Balancer) (tick : PolicyTick) :
    ((diskRipe state balancer.allLimits tick (stableDiskIoPeriod * 2) = true →
        (.diskIo, .full) ∈
          (tickSeparatedRestore state balancer tick).attempted) ∧
      (sysRipe state balancer.allLimits tick = true →
        unrelaxedSysCap balancer.allLimits = true →
        (.sys, sysRestoreType tick.pressure) ∈
          (tickSeparatedRestore state balancer tick).attempted)) ↔
    (diskRipe state balancer.allLimits tick (stableDiskIoPeriod * 2) = true →
        DiskUncontended state balancer tick) ∧
      (sysRipe state balancer.allLimits tick = true →
        unrelaxedSysCap balancer.allLimits = true →
        SysUncontended state balancer tick) := by
  unfold DiskUncontended SysUncontended
  by_cases disturbed : tick.scanDisturbed = true ∨ state.restorePending = true
  · rw [(tickSeparatedRestore_disturbed disturbed).1]
    rcases disturbed with scan | pending
    · simp [scan]
    · simp [pending]
  · simp only [not_or, Bool.not_eq_true] at disturbed
    obtain ⟨undisturbed, free⟩ := disturbed
    have level : sysRipe state balancer.allLimits tick = true →
        tick.pressure = .medium ∨ tick.pressure = .low := by
      intro ripe
      simp only [sysRipe, shouldCheckPressure, Bool.and_eq_true,
        Bool.or_eq_true, decide_eq_true_eq] at ripe
      exact ripe.1.1.1
    rw [(tickSeparatedRestore_undisturbed undisturbed free).1, ripeSteps,
      diskIo_full_attempted_iff, sys_attempted_iff level]
    simp only [undisturbed, free, true_and]
    refine and_congr ?_ ?_
    · exact forall_congr' fun ripe => by simp [ripe]
    · exact forall_congr' fun ripe => by simp [ripe]

/-- Half an hour at medium: the partial sys restore takes the tick on which a
full disk restore is due. -/
theorem medium_takes_disk_tick :
    let before := (MonitoredLoop.initial 5).step
      (.tick MonitoredLoop.bothCapped (MonitoredLoop.quietTick 0 .medium .low))
    let tick := MonitoredLoop.quietTick 1800 .medium .low
    diskRipe before.state MonitoredLoop.bothCapped.allLimits tick
        (stableDiskIoPeriod * 2) = true ∧
      (.diskIo, .full) ∉ (tickSeparatedRestore before.state
        MonitoredLoop.bothCapped tick).attempted := by
  decide +kernel

end Steps

end SmarTune
