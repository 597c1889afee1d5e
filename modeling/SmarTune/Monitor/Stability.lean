import SmarTune.Library.Runs
import SmarTune.Monitor.Timers

/-!
# Stability over whole runs

The two timers of the staged restore against the levels every policy tick saw.
A timer speaks for the ticks since its start as long as no tick leaves it
running over a level it does not stand for.
-/

namespace SmarTune

open StabilityTimer

/-- What a policy tick sees of the two pressure channels. -/
structure Levels where
  pressure : PressureLevel
  diskLevel : PressureLevel
  deriving DecidableEq

def PolicyTick.observation (tick : PolicyTick) : Observation ℚ Levels :=
  ⟨tick.now, tick.pressure, tick.diskLevel⟩

/-- One pass of the monitor loop; the registry and the kernel of each pass are
whatever the other threads left. -/
inductive MonitorPass
  | tick (balancer : Balancer) (tick : PolicyTick)
  /-- The pass ends in a reset outside the policy tick: a drain in quiet mode,
  or an exception. -/
  | bail

/-- The loop state together with what the ticks so far have seen. -/
structure MonitoredLoop where
  state : MonitorLoopState
  seen : List (Observation ℚ Levels)

namespace MonitoredLoop

/-- A loop that has just started. -/
def initial (interval : ℚ) : MonitoredLoop :=
  ⟨{ defaultIdleCheckInterval := interval, idleCheckInterval := interval }, []⟩

def step (loop : MonitoredLoop) : MonitorPass → MonitoredLoop
  | .tick balancer tick =>
    ⟨(tickSeparatedPolicy loop.state balancer tick).handled,
      loop.seen ++ [tick.observation]⟩
  | .bail => { loop with state := loop.state.reset }

/-- The ticks of a run, in order. -/
def ticksOf : List MonitorPass → List PolicyTick
  | [] => []
  | .tick _ tick :: passes => tick :: ticksOf passes
  | .bail :: passes => ticksOf passes

theorem seen_run (loop : MonitoredLoop) (passes : List MonitorPass) :
    (Runs.run step loop passes).seen =
      loop.seen ++ (ticksOf passes).map PolicyTick.observation := by
  induction passes generalizing loop with
  | nil => simp [ticksOf]
  | cons pass passes ih =>
    rw [Runs.run_cons, ih]
    cases pass with
    | tick balancer tick => simp [step, ticksOf]
    | bail => simp [step, ticksOf]

/-! ## A small registry -/

/-- An environment that accepts everything on one disk. -/
def acceptingEnvironment : Balancer.ApplyOutcomes where
  totalMemory := 16000
  memoryReading := fun _ => none
  stressedDisks := []
  mediaScale := fun _ => 1
  listing := .accepting [("sda", "8:0")]
  adjust := fun _ => .accepting
  io := fun _ => .accepting [("sda", "8:0")]
  yieldIo := ⟨16000, fun _ => 1, .accepting [("sda", "8:0")],
    fun _ => .accepting, fun _ => .accepting [("sda", "8:0")]⟩
  now := 0

/-- One app under a sys cap. -/
def sysCapped : Balancer :=
  Balancer.initial.applyResourceLimits {} "one.scope"
    ⟨some (some (1 / 2)), none, none⟩ true false "critical"
    acceptingEnvironment

/-- Two apps, each under the cap of one channel. -/
def bothCapped : Balancer :=
  sysCapped.applyResourceLimits {} "two.scope"
    ⟨none, none, some (some ⟨10, 10, 100, 100⟩)⟩ true true "critical"
    acceptingEnvironment

/-- A tick in which no other thread interferes and nothing is left to limit. -/
def quietTick (now : ℚ) (pressure diskLevel : PressureLevel) : PolicyTick where
  now := now
  pressure := pressure
  diskLevel := diskLevel
  passiveEnabled := true
  launchPending := false
  resolvedApps := []
  resolvedThreshold := false
  prefetchStale := false
  decision := ⟨false, false, none, ⟨none, none, none⟩, none, none, false,
    acceptingEnvironment⟩
  limitRaises := false
  scanDisturbed := false
  restoreStep := fun _ => ⟨acceptingEnvironment.yieldIo, none, false⟩

/-! ## The system channel -/

/-- The condition on one pass, read off the state before it: no earlier tick of
another level carries this time or a later one, and a tick that leaves a running
pressure timer alone sees the level the timer stands for. -/
def KeepsPressureTimer (loop : MonitoredLoop) : MonitorPass → Prop
  | .tick balancer tick =>
    (∀ seen ∈ loop.seen, tick.now ≤ seen.time →
      seen.signal.pressure = tick.pressure) ∧
      (loop.state.pressureStartTime ≠ none →
        leavesPressureTimer loop.state balancer tick = true →
        loop.state.currentPressure = some tick.pressure)
  | .bail => True

/-- The pressure timer stands for the level of every tick since its start. -/
def PressureTimerSound (loop : MonitoredLoop) : Prop :=
  Sound loop.seen
    (fun levels => loop.state.currentPressure = some levels.pressure)
    loop.state.pressureStartTime

theorem PressureTimerSound.step {loop : MonitoredLoop}
    (sound : loop.PressureTimerSound) (pass : MonitorPass)
    (keeps : loop.KeepsPressureTimer pass) :
    (loop.step pass).PressureTimerSound := by
  cases pass with
  | bail => simp [PressureTimerSound, MonitoredLoop.step]
  | tick balancer tick =>
    obtain ⟨later, sees⟩ := keeps
    simp only [PressureTimerSound, MonitoredLoop.step]
    rcases @tick_pressure loop.state balancer tick with
      stopped | ⟨restarted, level⟩ | ⟨kept, level, sameOrLeft⟩
    · rw [stopped]
      exact sound_none
    · rw [restarted, level]
      refine Sound.observe ?_ rfl
      intro start running seen member since
      obtain rfl := Option.some.inj running
      rw [later seen member since]
    · rw [kept, level]
      cases running : loop.state.pressureStartTime with
      | none => exact sound_none
      | some start =>
        rw [PressureTimerSound, running] at sound
        refine sound.observe ?_
        rcases sameOrLeft with same | leaves
        · exact same
        · exact sees (by simp [running]) leaves

/-- Whenever a tick of a run attempts a restore of the system channel, every
earlier tick of the last `STABLE_PERIOD` saw the same pressure level. -/
theorem sys_restore_after_stable_period (interval : ℚ)
    (passes : List MonitorPass)
    (keeping : Runs.EveryStep step KeepsPressureTimer (initial interval) passes)
    (balancer : Balancer) (tick : PolicyTick) (restoreType : RestoreType)
    (attempted : (.sys, restoreType) ∈
      (tickSeparatedPolicy (Runs.run step (initial interval) passes).state
        balancer tick).attempted)
    {earlier : PolicyTick}
    (member : earlier ∈ ticksOf passes)
    (recent : tick.now - earlier.now ≤ stablePeriod) :
    earlier.pressure = tick.pressure := by
  have sound : (Runs.run step (initial interval) passes).PressureTimerSound :=
    Runs.invariant_run PressureTimerSound
      (fun _ pass before keeps => before.step pass keeps)
      (sound_nil _) keeping
  obtain ⟨reached, level⟩ := attempted_sys attempted
  have seen : earlier.observation ∈
      (Runs.run step (initial interval) passes).seen := by
    rw [seen_run]
    exact List.mem_append_right _ (List.mem_map_of_mem member)
  have stood := sound.window reached seen recent
  exact (Option.some.inj (level.symm.trans stood)).symm

/-- With an io-limited app in the registry a high reading goes unnoticed by the
pressure timer. -/
theorem high_reading_keeps_pressure_timer :
    let high := quietTick 200 .high .low
    let passes := [.tick bothCapped (quietTick 0 .medium .low),
      .tick bothCapped high]
    let last := quietTick 1800 .medium .low
    (.sys, .partially) ∈
        (tickSeparatedPolicy (Runs.run step (initial 5) passes).state
          bothCapped last).attempted ∧
      (bothCapped.allLimits.firstAutoWithPart .sys true).isSome = true ∧
      high ∈ ticksOf passes ∧
      last.now - high.now ≤ stablePeriod ∧
      high.pressure ≠ last.pressure := by
  refine ⟨by decide +kernel, by decide +kernel, ?_, by decide +kernel,
    by decide⟩
  exact List.mem_cons_of_mem _ (List.mem_singleton_self _)

/-- Two medium readings half an hour apart. -/
theorem sys_restore_after_two_medium_ticks :
    (quietTick 0 .medium .low).pressure =
      (quietTick 1800 .medium .low).pressure := by
  have keeping : Runs.EveryStep step KeepsPressureTimer (initial 5)
      [.tick sysCapped (quietTick 0 .medium .low)] := by
    refine ⟨⟨?_, ?_⟩, trivial⟩
    · intro seen member
      cases member
    · intro running
      exact absurd rfl running
  exact sys_restore_after_stable_period 5 _ keeping sysCapped
    (quietTick 1800 .medium .low) .partially (by decide +kernel)
    (List.mem_singleton_self _) (by decide +kernel)

/-! ## The disk channel -/

/-- The condition on one pass, read off the state before it: a calm tick comes
after every stressed one, and a stressed tick that finds the disk timer running
is taken by the disk arm. -/
def KeepsDiskTimer (loop : MonitoredLoop) : MonitorPass → Prop
  | .tick _ tick =>
    (isDiskIoStressed tick.diskLevel = false →
      ∀ seen ∈ loop.seen, tick.now ≤ seen.time →
        isDiskIoStressed seen.signal.diskLevel = false) ∧
      (isDiskIoStressed tick.diskLevel = true →
        loop.state.diskIoNotStressedStartTime ≠ none →
        tick.passiveEnabled = true ∧ tick.pressure ≠ .critical)
  | .bail => True

/-- The disk timer stands for a disk that was calm on every tick since its
start. -/
def DiskTimerSound (loop : MonitoredLoop) : Prop :=
  Sound loop.seen (fun levels => isDiskIoStressed levels.diskLevel = false)
    loop.state.diskIoNotStressedStartTime

theorem DiskTimerSound.step {loop : MonitoredLoop} (sound : loop.DiskTimerSound)
    (pass : MonitorPass) (keeps : loop.KeepsDiskTimer pass) :
    (loop.step pass).DiskTimerSound := by
  cases pass with
  | bail => exact sound
  | tick balancer tick =>
    obtain ⟨later, diskArm⟩ := keeps
    simp only [DiskTimerSound, MonitoredLoop.step]
    rcases @tick_disk loop.state balancer tick with
      stopped | ⟨started, calm⟩ | ⟨kept, notDiskArm⟩
    · rw [stopped]
      exact sound_none
    · rw [started]
      refine Sound.observe ?_ calm
      intro start running seen member since
      obtain rfl := Option.some.inj running
      exact later calm seen member since
    · rw [kept]
      cases running : loop.state.diskIoNotStressedStartTime with
      | none => exact sound_none
      | some start =>
        rw [DiskTimerSound, running] at sound
        refine sound.observe ?_
        cases stressed : isDiskIoStressed tick.diskLevel with
        | false => exact stressed
        | true =>
          exact absurd (diskArm stressed (by simp [running]))
            (notDiskArm stressed)

/-- Whenever a tick of a run attempts a restore of the disk channel, every
earlier tick of the period the step requires saw a calm disk. -/
theorem disk_restore_after_calm_period (interval : ℚ)
    (passes : List MonitorPass)
    (keeping : Runs.EveryStep step KeepsDiskTimer (initial interval) passes)
    (balancer : Balancer) (tick : PolicyTick) (restoreType : RestoreType)
    (attempted : (.diskIo, restoreType) ∈
      (tickSeparatedPolicy (Runs.run step (initial interval) passes).state
        balancer tick).attempted)
    {earlier : PolicyTick}
    (member : earlier ∈ ticksOf passes)
    (recent : tick.now - earlier.now ≤ calmPeriod restoreType) :
    isDiskIoStressed earlier.diskLevel = false := by
  have sound : (Runs.run step (initial interval) passes).DiskTimerSound :=
    Runs.invariant_run DiskTimerSound
      (fun _ pass before keeps => before.step pass keeps)
      (sound_nil _) keeping
  have seen : earlier.observation ∈
      (Runs.run step (initial interval) passes).seen := by
    rw [seen_run]
    exact List.mem_append_right _ (List.mem_map_of_mem member)
  exact sound.window (attempted_disk attempted) seen recent

/-- A stressed reading on a tick of the critical arm leaves the disk timer
running. -/
theorem critical_arm_keeps_disk_timer :
    let stressed := quietTick 200 .critical .critical
    let passes := [.tick bothCapped (quietTick 0 .medium .low),
      .tick bothCapped stressed]
    let last := quietTick 300 .medium .low
    (.diskIo, .partially) ∈
        (tickSeparatedPolicy (Runs.run step (initial 5) passes).state
          bothCapped last).attempted ∧
      (bothCapped.allLimits.firstAutoWithPart .diskIo true).isSome = true ∧
      stressed ∈ ticksOf passes ∧
      last.now - stressed.now ≤ calmPeriod .partially ∧
      isDiskIoStressed stressed.diskLevel = true := by
  refine ⟨by decide +kernel, by decide +kernel, ?_, by decide +kernel,
    by decide⟩
  exact List.mem_cons_of_mem _ (List.mem_singleton_self _)

/-- Two calm readings ten minutes apart. -/
theorem disk_restore_after_two_calm_ticks :
    isDiskIoStressed (quietTick 0 .medium .low).diskLevel = false := by
  have keeping : Runs.EveryStep step KeepsDiskTimer (initial 5)
      [.tick bothCapped (quietTick 0 .medium .low)] := by
    refine ⟨⟨?_, ?_⟩, trivial⟩
    · intro _ seen member
      cases member
    · intro stressed
      exact absurd stressed (by decide)
  exact disk_restore_after_calm_period 5 _ keeping bothCapped
    (quietTick 600 .medium .low) .full (by decide +kernel)
    (List.mem_singleton_self _) (by decide +kernel)

end MonitoredLoop

end SmarTune
