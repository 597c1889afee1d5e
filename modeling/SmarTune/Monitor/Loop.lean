import SmarTune.Balancer.Apply

/-!
# The monitor loop

One policy tick of the monitor thread: `_tick_separated_policy` with its limit
arm, its drain of pending launches and its staged restore
(`_tick_separated_restore`), and the handler that resets the loop state after an
exception.  Which candidate a tick acts on is decided outside this module.
-/

namespace SmarTune

/-- The levels the pressure monitor publishes. -/
inductive PressureLevel
  | unknown
  | low
  | medium
  | high
  | critical
  deriving DecidableEq, Repr

/-- `disk_level in ("high", "critical")`. -/
def isDiskIoStressed (diskLevel : PressureLevel) : Bool :=
  diskLevel = .high || diskLevel = .critical

/-! ## The loop state -/

/-- `_MonitorLoopState`, as far as the policy tick reads it. -/
structure MonitorLoopState where
  defaultIdleCheckInterval : ℚ
  idleCheckInterval : ℚ
  topConsumeApps : List Candidate := []
  reachThreshold : Bool := false
  /-- The channel the held batch was sampled for. -/
  topSource : Option Channel := none
  topFetchedAt : ℚ := 0
  restorePending : Bool := false
  /-- When pressure entered its current level. -/
  pressureStartTime : Option ℚ := none
  currentPressure : Option PressureLevel := none
  /-- When disk pressure was relieved. -/
  diskIoNotStressedStartTime : Option ℚ := none

/-- `STABLE_PERIOD`, in seconds. -/
def stablePeriod : ℚ := 1800

/-- `STABLE_DISK_IO_PERIOD`, in seconds. -/
def stableDiskIoPeriod : ℚ := 300

/-- `TOP_BATCH_TTL`, in seconds. -/
def topBatchTtl : ℚ := 30

namespace MonitorLoopState

/-- `drop_top_batch`. -/
def dropTopBatch (state : MonitorLoopState) : MonitorLoopState :=
  { state with
    topConsumeApps := []
    reachThreshold := false
    topSource := none
    topFetchedAt := 0 }

/-- `keep_top_batch`. -/
def keepTopBatch (state : MonitorLoopState) (apps : List Candidate)
    (reachThreshold : Bool) (source : Channel) (now : ℚ) : MonitorLoopState :=
  { state with
    topConsumeApps := apps
    reachThreshold := reachThreshold
    topSource := some source
    topFetchedAt := now }

/-- `reset`. -/
def reset (state : MonitorLoopState) : MonitorLoopState :=
  { state.dropTopBatch with
    idleCheckInterval := state.defaultIdleCheckInterval
    pressureStartTime := none }

/-- `stale_top_batch_reason` is not `None`. -/
def staleTopBatch (state : MonitorLoopState) (source : Channel)
    (now : ℚ) : Bool :=
  !state.topConsumeApps.isEmpty &&
    (state.topSource ≠ some source || topBatchTtl < now - state.topFetchedAt)

end MonitorLoopState

/-! ## Candidates -/

def Candidate.sampledCgroup (candidate : Candidate) : CgroupId :=
  strip (orElseName (basename (rstripSlash (candidate.cgroup.getD "")))
    (candidate.cgroupId.getD ""))

/-- `_drop_excluded_candidates`. -/
def dropExcludedCandidates (registry : LimitRegistry)
    (apps : List Candidate) : List Candidate :=
  apps.filter fun candidate =>
    (registry.isExcluded (candidate.recordId.getD "")
      (candidate.processName.getD "")
      (candidate.extraCgroups ++ [candidate.sampledCgroup])).isNone

/-- `_target_has_auto_cpu_mem_limit`. -/
def targetHasAutoCpuMemLimit (registry : LimitRegistry) (target : Candidate)
    (appId : CgroupId) : Bool :=
  let named := [appId, target.recordId.getD "", target.cgroupId.getD ""]
  let paths := (target.cgroup.getD "" :: target.extraCgroups).filter (· ≠ "")
  ((named.filter (· ≠ "")) ++
    paths.map fun path => basename (rstripSlash path)).any fun ident =>
      (registry.byAnyId ident .auto).any fun app =>
        app.2.limitParts.cpuMemLimited

/-- What the candidate selection of a limit arm returns; the target is the
candidate as the selection rewrote it. -/
structure LimitDecision where
  shouldAdjust : Bool
  isControlled : Bool
  appId : Option CgroupId
  limitRates : LimitRates
  target : Option Candidate
  consumedIdx : Option Nat
  /-- `_target_still_present`. -/
  stillPresent : Bool
  outcomes : Balancer.ApplyOutcomes

/-- What a policy tick sees. -/
structure PolicyTick where
  now : ℚ
  pressure : PressureLevel
  diskLevel : PressureLevel
  passiveEnabled : Bool
  /-- An app launch is held back. -/
  launchPending : Bool
  /-- What the channel's prefetcher resolves to. -/
  resolvedApps : List Candidate
  resolvedThreshold : Bool
  /-- The disk prefetcher's cache is stale. -/
  prefetchStale : Bool
  decision : LimitDecision
  /-- An exception ends the limit arm once its batch is at hand. -/
  limitRaises : Bool
  /-- Another thread changes the registry while the restore arm looks for auto
  entries. -/
  scanDisturbed : Bool
  /-- What happens around the restore step of each channel. -/
  restoreStep : Channel → Balancer.ChannelStep

/-- The outcome of a tick: the states, the restore steps it attempted and
whether an exception left it. -/
structure TickResult where
  state : MonitorLoopState
  balancer : Balancer
  attempted : List (Channel × RestoreType)
  raised : Bool

/-! ## The limit arm -/

/-- The batch the limit arm works on: a stale batch is dropped, an empty one is
fetched, and apps excluded since are removed. -/
def limitBatch (state : MonitorLoopState) (registry : LimitRegistry)
    (tick : PolicyTick) (channel : Channel) : MonitorLoopState :=
  let state := if state.staleTopBatch channel tick.now
    then state.dropTopBatch else state
  let state :=
    match channel with
    | .sys =>
      let state := { state with pressureStartTime := none }
      if state.topConsumeApps.isEmpty then
        state.keepTopBatch (dropExcludedCandidates registry tick.resolvedApps)
          tick.resolvedThreshold .sys tick.now
      else state
    | .diskIo =>
      let state := { state with diskIoNotStressedStartTime := none }
      if state.topConsumeApps.isEmpty || tick.prefetchStale then
        state.keepTopBatch (dropExcludedCandidates registry tick.resolvedApps)
          true .diskIo tick.now
      else state
  { state with
    topConsumeApps := dropExcludedCandidates registry state.topConsumeApps }

/-- The limit the arm applies, if it applies one. -/
def limitTarget (state : MonitorLoopState) (balancer : Balancer)
    (tick : PolicyTick) (channel : Channel) : Option (CgroupId × Candidate) :=
  match tick.decision.appId, tick.decision.target with
  | some appId, some target =>
    let free := match channel with
      | .sys => !targetHasAutoCpuMemLimit balancer.allLimits target appId
      | .diskIo => tick.diskLevel = .critical
    if free && state.reachThreshold && tick.decision.shouldAdjust &&
        tick.decision.stillPresent && appId ≠ "" then some (appId, target)
    else none
  | _, _ => none

/-- The name of a level, as entries record it. -/
def PressureLevel.name : PressureLevel → String
  | .unknown => "unknown"
  | .low => "low"
  | .medium => "medium"
  | .high => "high"
  | .critical => "critical"

/-- The limit arm of `_tick_separated_policy`. -/
def tickLimit (state : MonitorLoopState) (balancer : Balancer)
    (tick : PolicyTick) : TickResult :=
  let channel : Channel := if tick.pressure = .critical then .sys else .diskIo
  let state := limitBatch { state with restorePending := false }
    balancer.allLimits tick channel
  if tick.limitRaises then ⟨state, balancer, [], true⟩
  else if state.topConsumeApps.isEmpty then ⟨state.reset, balancer, [], false⟩
  else
    let balancer :=
      match limitTarget state balancer tick channel with
      | some (appId, target) =>
        balancer.applyResourceLimits target appId tick.decision.limitRates
          tick.decision.isControlled (channel = .diskIo)
          (match channel with
            | .sys => tick.pressure.name
            | .diskIo => tick.diskLevel.name)
          tick.decision.outcomes
      | none => balancer
    let consumed := match channel with
      | .sys => some 0
      | .diskIo => tick.decision.consumedIdx
    let state :=
      -- A merely high disk keeps the batch for the critical tick it may become.
      if channel = .diskIo && tick.diskLevel ≠ .critical then state
      else
        match consumed with
        | some position =>
          { state with
            topConsumeApps := state.topConsumeApps.eraseIdx position }
        | none => state.dropTopBatch
    ⟨state, balancer, [], false⟩

/-! ## The staged restore -/

/-- Some auto entry carries the channel. -/
def anyAutoCarries (registry : LimitRegistry) (channel : Channel) : Bool :=
  registry.apps.values.any fun app =>
    app.source = .auto && app.limitParts.of channel

/-- `should_check_pressure`. -/
def shouldCheckPressure (registry : LimitRegistry)
    (pressure : PressureLevel) : Bool :=
  (pressure = .medium || pressure = .low) && anyAutoCarries registry .sys

/-- `should_check_io`. -/
def shouldCheckIo (registry : LimitRegistry)
    (diskLevel : PressureLevel) : Bool :=
  !isDiskIoStressed diskLevel && anyAutoCarries registry .diskIo

/-- Start the pressure timer if it is not running; a change of level restarts
it. -/
def startPressureTimer (state : MonitorLoopState)
    (tick : PolicyTick) : MonitorLoopState :=
  if state.pressureStartTime.isNone ||
      state.currentPressure ≠ some tick.pressure then
    { state with
      pressureStartTime := some tick.now
      currentPressure := some tick.pressure }
  else state

def startDiskTimer (state : MonitorLoopState)
    (tick : PolicyTick) : MonitorLoopState :=
  if state.diskIoNotStressedStartTime.isNone then
    { state with diskIoNotStressedStartTime := some tick.now }
  else state

def startTimers (state : MonitorLoopState) (tick : PolicyTick)
    (checkPressure checkIo : Bool) : MonitorLoopState :=
  let state := if checkPressure then startPressureTimer state tick else state
  if checkIo then startDiskTimer state tick else state

/-- A running timer has reached a period. -/
def elapsed (timer : Option ℚ) (now period : ℚ) : Bool :=
  timer.any fun start => period ≤ now - start

/-- The restore steps the stable timers call for, in order. -/
def dueSteps (pressure : PressureLevel)
    (pressureStable ioStable ioDoubleStable : Bool) :
    List (Channel × RestoreType) :=
  if pressureStable && pressure = .medium then [(.sys, .partially)]
  else if ioStable && !ioDoubleStable then [(.diskIo, .partially)]
  else if (pressureStable && pressure = .low) || ioDoubleStable then
    (if pressureStable && pressure = .low then [(.sys, .full)] else []) ++
      if ioDoubleStable then [(.diskIo, .full)] else []
  else []

/-- A completed full restore of the disk channel stops its timer. -/
def MonitorLoopState.stepReturned (state : MonitorLoopState) (channel : Channel)
    (restoreType : RestoreType) (done : Bool) : MonitorLoopState :=
  if channel = .diskIo && restoreType = .full && done then
    { state with diskIoNotStressedStartTime := none }
  else state

/-- Take the due steps; `restore_pending` is cleared only when none raises. -/
def takeSteps (tick : PolicyTick) (state : MonitorLoopState)
    (balancer : Balancer) :
    List (Channel × RestoreType) → TickResult
  | [] => ⟨{ state with restorePending := false }, balancer, [], false⟩
  | (channel, restoreType) :: rest =>
    let state := { state with restorePending := true }
    let result := balancer.restoreChannel channel restoreType
      (tick.restoreStep channel)
    match result.1 with
    | .error _ => ⟨state, result.2, [(channel, restoreType)], true⟩
    | .ok done =>
      let others := takeSteps tick
        (state.stepReturned channel restoreType done) result.2 rest
      { others with
        attempted := (channel, restoreType) :: others.attempted }

/-- The restore steps due on a tick whose timers are running. -/
def dueOnTick (state : MonitorLoopState) (registry : LimitRegistry)
    (tick : PolicyTick) : List (Channel × RestoreType) :=
  let checkPressure := shouldCheckPressure registry tick.pressure
  let checkIo := shouldCheckIo registry tick.diskLevel
  dueSteps tick.pressure
    (checkPressure && elapsed state.pressureStartTime tick.now stablePeriod)
    (checkIo && elapsed state.diskIoNotStressedStartTime tick.now
      stableDiskIoPeriod)
    (checkIo && elapsed state.diskIoNotStressedStartTime tick.now
      (stableDiskIoPeriod * 2))

/-- `_tick_separated_restore`. -/
def tickSeparatedRestore (state : MonitorLoopState) (balancer : Balancer)
    (tick : PolicyTick) : TickResult :=
  if tick.scanDisturbed then ⟨state, balancer, [], true⟩
  else if balancer.allLimits.firstAuto.isNone || state.restorePending then
    ⟨state, balancer, [], false⟩
  else
    let checkPressure := shouldCheckPressure balancer.allLimits tick.pressure
    let checkIo := shouldCheckIo balancer.allLimits tick.diskLevel
    if !(checkPressure || checkIo) then ⟨state.reset, balancer, [], false⟩
    else
      let state := startTimers state tick checkPressure checkIo
      takeSteps tick state balancer (dueOnTick state balancer.allLimits tick)

/-! ## One tick -/

/-- `_tick_separated_policy`.  Draining a pending launch ends in a reset. -/
def tickSeparatedPolicy (state : MonitorLoopState) (balancer : Balancer)
    (tick : PolicyTick) : TickResult :=
  if tick.passiveEnabled &&
      (tick.pressure = .critical || isDiskIoStressed tick.diskLevel) then
    tickLimit state balancer tick
  else if tick.launchPending && tick.pressure ≠ .critical &&
      !isDiskIoStressed tick.diskLevel then
    ⟨state.reset, balancer, [], false⟩
  else tickSeparatedRestore state balancer tick

/-- The loop state after a tick: the handler resets it after an exception. -/
def TickResult.handled (result : TickResult) : MonitorLoopState :=
  if result.raised then result.state.reset else result.state

end SmarTune
