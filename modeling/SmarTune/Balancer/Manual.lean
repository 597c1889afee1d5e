import SmarTune.Balancer.Apply

/-!
# Manual limits

A manual limit is installed by `_install_resource_limit`.  When the same
request caps memory, its disk cap is held back and written by
`_apply_deferred_io_cap` once the reclaim is done.  `set_freeze` freezes the
limited app and `set_restore_resource` lifts the limit.
-/

namespace SmarTune

/-- `set_resource_limit`'s arguments; no target means every cgroup. -/
structure LimitRequest where
  appId : String
  appName : String
  priority : Option String
  limitOverrides : Option LimitOverrides
  targetCgroups : List String

/-- `get_app_resource_usage`, as far as the manual path reads it. -/
structure UsageSample where
  cgroupPaths : List String
  /-- Each process with the basename of the cgroup it is in now. -/
  pids : List (Nat × CgroupId)
  cpuPercent : ℚ
  memCurrent : ℚ
  memSwapCurrent : ℚ
  ioReadMb : ℚ
  ioWriteMb : ℚ
  ioReadIops : ℚ
  ioWriteIops : ℚ
  perCgroupMem : List (CgroupId × ℚ)
  perCgroupCpuDelta : List (CgroupId × ℚ)

/-- What the environment answers to one `_install_resource_limit` call. -/
structure InstallOutcomes where
  policy : Option LimitPolicy
  usage : Option UsageSample
  adjust : Nat → AdjustOutcome
  io : Nat → IoCallOutcome
  now : ℚ

/-- The reply of `set_resource_limit`. -/
inductive LimitReply
  | limited
  | failed
  | skipped
  deriving DecidableEq, Repr

/-- What an install decides before it writes anything. -/
structure InstallPlan where
  limitRates : LimitRates
  /-- The primary cgroup. -/
  primary : CgroupId
  /-- The extra cgroups. -/
  extras : List CgroupId
  pids : List Nat
  cpuQuota : Option Int
  memHigh : Option Int
  /-- The disk rates, when a disk cap is asked for and called for. -/
  ioRate : Option IoRate
  /-- The usage the limits are sized from. -/
  peaks : Baseline
  deriving DecidableEq

/-- The cgroups a plan addresses, the primary one first. -/
def InstallPlan.cgroups (plan : InstallPlan) : List CgroupId :=
  plan.primary :: plan.extras

/-! ## Sizing the limit -/

/-- The cgroups a request addresses: those of the app, or the selected ones
among them. -/
def selectedCgroups (paths targetCgroups : List String) : List CgroupId :=
  let effective := (paths.filter (· ≠ "")).map basename
  if targetCgroups = [] then effective
  else
    let wanted := (targetCgroups.filter fun target =>
      !target.toList.all Char.isWhitespace).map basename
    effective.filter fun cgroup => wanted.contains cgroup

/-- The per-cgroup maximum of two usage tables; an empty latch changes
nothing. -/
def latchTable (current latched : List (CgroupId × ℚ)) :
    List (CgroupId × ℚ) :=
  if latched = [] then current
  else ((current ++ latched).map Prod.fst).eraseDups.map fun cgroup =>
    (cgroup, max (perCgroup current cgroup) (perCgroup latched cgroup))

def UsageSample.peaks (usage : UsageSample) : Baseline where
  cpuPercent := usage.cpuPercent
  memTotal := usage.memCurrent + usage.memSwapCurrent
  ioReadMb := usage.ioReadMb
  ioWriteMb := usage.ioWriteMb
  ioReadIops := usage.ioReadIops
  ioWriteIops := usage.ioWriteIops
  perCgroupMem := usage.perCgroupMem
  perCgroupCpuDelta := usage.perCgroupCpuDelta

/-- The peak latch: a re-limit is sized from the largest usage seen. -/
def Baseline.latch (current : Baseline) : Option Baseline → Baseline
  | none => current
  | some latched =>
    { cpuPercent := max current.cpuPercent latched.cpuPercent
      memTotal := max current.memTotal latched.memTotal
      ioReadMb := max current.ioReadMb latched.ioReadMb
      ioWriteMb := max current.ioWriteMb latched.ioWriteMb
      ioReadIops := max current.ioReadIops latched.ioReadIops
      ioWriteIops := max current.ioWriteIops latched.ioWriteIops
      perCgroupMem := latchTable current.perCgroupMem latched.perCgroupMem
      perCgroupCpuDelta :=
        latchTable current.perCgroupCpuDelta latched.perCgroupCpuDelta }

/-- A limit of a share of the usage, at least one; none without a rate or
without usage. -/
def sizedLimit (usage : ℚ) (rate : Option ℚ) : Option Int :=
  if truthy rate && decide (0 < usage) then
    rate.map fun rate => max 1 (pyInt (usage * rate))
  else none

namespace Balancer

/-- The decisions of `_install_resource_limit` before its first write.  The
rate dictionary always has its three keys, so the test for an empty one never
fires. -/
def installPlan (balancer : Balancer) (request : LimitRequest)
    (outcomes : InstallOutcomes) : Except LimitReply InstallPlan :=
  let limitRates := getLimitedRates outcomes.policy
    (orUndefined request.priority) request.limitOverrides
  match outcomes.usage with
  | none => .error .failed
  | some usage =>
    if selectedCgroups usage.cgroupPaths [] = [] then .error .failed
    else
      match selectedCgroups usage.cgroupPaths request.targetCgroups with
      | [] => .error .skipped
      | primary :: extras =>
        if (primary :: extras).any fun cgroup =>
            (balancer.allLimits.byAnyId cgroup .auto).isSome
        then .error .skipped
        else
          let peaks := usage.peaks.latch
            (balancer.allLimits.manualLimitBaseline.get? primary)
          let cpuUsage := if 2 ≤ peaks.cpuPercent then peaks.cpuPercent
            else 0
          let cpuQuota := sizedLimit cpuUsage limitRates.cpu
          let memHigh := sizedLimit peaks.memTotal limitRates.mem
          let forced := (request.limitOverrides.bind (·.diskIo)).isSome
          let reached := isIoLimitReached peaks.ioReadMb peaks.ioWriteMb
            peaks.ioReadIops peaks.ioWriteIops
          let ioRate := if forced || reached then limitRates.diskIo
            else none
          if cpuQuota.isNone && memHigh.isNone && ioRate.isNone then
            .error .skipped
          else
            .ok
              { limitRates
                primary
                extras
                pids := ((usage.pids.filter fun pid =>
                  (primary :: extras).contains pid.2).map
                    Prod.fst).eraseDups
                cpuQuota
                memHigh
                ioRate
                peaks }

end Balancer

/-! ## The caps of a plan -/

namespace InstallPlan

/-- The CPU/memory channel is attempted. -/
def attemptsCpuMem (plan : InstallPlan) (isRunning : Bool) : Bool :=
  (plan.cpuQuota.isSome || plan.memHigh.isSome) && isRunning

/-- The disk channel is attempted, now or after the reclaim. -/
def attemptsIo (plan : InstallPlan) (isRunning : Bool) : Bool :=
  plan.ioRate.isSome && isRunning

/-- The CPU/memory caps. -/
def cpuMem (plan : InstallPlan) (isRunning : Bool)
    (outcomes : InstallOutcomes) : ControllerCall :=
  if plan.attemptsCpuMem isRunning then
    fanOut (adjustEach .critical
      (distribute plan.cpuQuota plan.cgroups plan.peaks.perCgroupCpuDelta)
      (distribute plan.memHigh plan.cgroups plan.peaks.perCgroupMem)
      outcomes.adjust) plan.cgroups
  else (false, [])

/-- `defer_io`: the disk cap waits for the reclaim the memory cap causes. -/
def defersIo (plan : InstallPlan) (isRunning : Bool)
    (resourceLimited : Bool) : Bool :=
  plan.attemptsIo isRunning && resourceLimited && plan.memHigh.isSome

/-- The `io.max` limits of a rate row. -/
def ioLimits (rate : IoRate) : IoLimits := [("default", rate.bytes)]

/-- The disk caps, unless they are deferred. -/
def io (plan : InstallPlan) (isRunning : Bool) (resourceLimited : Bool)
    (outcomes : InstallOutcomes) : ControllerCall :=
  match plan.ioRate with
  | none => (false, [])
  | some rate =>
    if isRunning && !plan.defersIo isRunning resourceLimited then
      fanOut (throttleEach (ioLimits rate) [] outcomes.io) plan.cgroups
    else (false, [])

end InstallPlan

/-- An item of `io_plan`: the disk cap `set_resource_limit` writes last. -/
structure DeferredIo where
  key : CgroupId
  extraIds : List CgroupId
  limits : IoLimits
  appId : String
  appName : String
  deriving DecidableEq

/-- The item a plan leaves in `io_plan`. -/
def InstallPlan.deferred (plan : InstallPlan) (request : LimitRequest)
    (isRunning : Bool) (resourceLimited : Bool) : Option DeferredIo :=
  match plan.ioRate with
  | none => none
  | some rate =>
    if plan.defersIo isRunning resourceLimited then
      some
        { key := plan.primary
          extraIds := plan.extras
          limits := InstallPlan.ioLimits rate
          appId := request.appId
          appName := request.appName }
    else none

def InstallPlan.entry (plan : InstallPlan) (request : LimitRequest)
    (limitParts : LimitParts) (now : ℚ) : LimitedApp where
  publicAppId := request.appId
  appName := request.appName
  source := .manual
  limitRates := plan.limitRates
  limitParts := limitParts
  resourceParts := ⟨plan.cpuQuota.isSome, plan.memHigh.isSome⟩
  priority := orUndefined request.priority
  isControlled := true
  cgroups := plan.cgroups
  pids := plan.pids
  limitedAt := now
  protectionId := some ⟨.manual, request.appId, plan.primary, now⟩

namespace Balancer

/-- The registration block of `_install_resource_limit`. -/
def registerManual (balancer : Balancer) (request : LimitRequest)
    (plan : InstallPlan) (limitParts failed : LimitParts)
    (now : ℚ) : Balancer :=
  let entry := plan.entry request limitParts now
  let limits := balancer.allLimits
  let registered := LimitRegistry.addExclusion
    { limits with
      apps := limits.apps.set plan.primary entry
      manualLimitBaseline :=
        limits.manualLimitBaseline.set plan.primary plan.peaks }
    entry .manualLimit now
  let event := fun (balancer : Balancer) action parts =>
    balancer.emit action parts entry.resourceParts request.appId
      request.appName entry.protectionId .manual
  event (event { balancer with allLimits := registered } .applied limitParts)
    .failed failed

/-- `_install_resource_limit`: the reply, the deferred disk cap and the new
state.  The new entry replaces the one stored under the primary cgroup. -/
def installResourceLimit (balancer : Balancer) (request : LimitRequest)
    (outcomes : InstallOutcomes) :
    LimitReply × Option DeferredIo × Balancer :=
  match balancer.installPlan request outcomes with
  | .error reply => (reply, none, balancer)
  | .ok plan =>
    let running := balancer.isRunning
    let cpuMem := plan.cpuMem running outcomes
    let io := plan.io running cpuMem.1 outcomes
    let written := (balancer.writes cpuMem.2).writes io.2
    let deferred := plan.deferred request running cpuMem.1
    let limitParts : LimitParts := ⟨cpuMem.1, io.1⟩
    let attempted : LimitParts :=
      ⟨plan.attemptsCpuMem running, plan.attemptsIo running⟩
    if limitParts.any then
      (.limited, deferred, written.registerManual request plan limitParts
          ⟨attempted.cpuMemLimited && !cpuMem.1,
            attempted.ioLimited && !plan.defersIo running cpuMem.1 && !io.1⟩
          outcomes.now)
    else
      (.failed, deferred,
        written.emit .failed attempted ⟨false, false⟩ request.appId
          request.appName
          (some ⟨.manual, request.appId, plan.primary, outcomes.now⟩)
          .manual)

/-! ## The deferred disk cap -/

/-- The `io.max` writes of a deferred disk cap. -/
def deferredIoCall (deferred : DeferredIo)
    (outcome : Nat → IoCallOutcome) : ControllerCall :=
  fanOut (throttleEach deferred.limits [] outcome)
    (deferred.key :: deferred.extraIds)

/-- The second half of `_apply_deferred_io_cap`: the entry then stored under
the key records whether the primary's cap was accepted. -/
def recordDeferredIo (balancer : Balancer) (deferred : DeferredIo)
    (accepted : Bool) : Balancer :=
  match balancer.allLimits.apps.get? deferred.key with
  | none => balancer
  | some entry =>
    (balancer.withApps (balancer.allLimits.apps.set deferred.key
      { entry with
        limitParts := { entry.limitParts with ioLimited := accepted } })).emit
      (if accepted then .applied else .failed) (.only .diskIo)
      ⟨false, false⟩ deferred.appId deferred.appName entry.protectionId
      .manual

/-- `_apply_deferred_io_cap`: dropped when nothing is stored under the key. -/
def applyDeferredIoCap (balancer : Balancer) (deferred : DeferredIo)
    (outcome : Nat → IoCallOutcome) : Balancer :=
  match balancer.allLimits.apps.get? deferred.key with
  | none => balancer
  | some _ =>
    let call := deferredIoCall deferred outcome
    (balancer.writes call.2).recordDeferredIo deferred call.1

end Balancer

/-! ## Freezing -/

/-- Freeze or thaw cgroups in order until one fails: the success, the cgroups
done before and the writes. -/
def freezeEach (freeze : Bool) :
    List CgroupId → (Nat → FreezeOutcome) →
      Bool × List CgroupId × List KernelWrite
  | [], _ => (true, [], [])
  | cgroup :: rest, outcome =>
    let call := freezeCgroup cgroup freeze (outcome 0)
    if call.1 then
      let others := freezeEach freeze rest fun position =>
        outcome (position + 1)
      (others.1, cgroup :: others.2.1, call.2 ++ others.2.2)
    else (false, [], call.2)

/-- The reply of `set_freeze`. -/
inductive FreezeReply
  | noManualLimit
  | unchanged
  | cgroupFailed
  | done
  deriving DecidableEq, Repr

def LimitedApp.cgroupsOrKey (entry : LimitedApp) (key : CgroupId) :
    List CgroupId :=
  if entry.cgroups = [] then [key] else entry.cgroups

/-- What the environment answers to one `set_freeze` call. -/
structure SetFreezeOutcomes where
  freeze : Nat → FreezeOutcome
  thaw : Nat → FreezeOutcome
  now : ℚ

namespace Balancer

/-- `set_freeze` on an app no other thread restores meanwhile: freeze or thaw
every cgroup of the manual entry, undoing a freeze that stops half way. -/
def setFreeze (balancer : Balancer) (appId : String) (freeze : Bool)
    (outcomes : SetFreezeOutcomes) : FreezeReply × Balancer :=
  match balancer.allLimits.byPublicId appId .manual with
  | none => (.noManualLimit, balancer)
  | some (key, entry) =>
    if entry.frozen = freeze then (.unchanged, balancer)
    else
      let result :=
        freezeEach freeze (entry.cgroupsOrKey key) outcomes.freeze
      let balancer := balancer.writes result.2.2
      if !result.1 then
        (.cgroupFailed,
          if freeze then
            balancer.writes (thawCgroups result.2.1 outcomes.thaw).2
          else balancer)
      else
        (.done, balancer.modifyEntry key fun entry =>
          { entry with
            frozen := freeze
            frozenAt := if freeze then outcomes.now else 0
            freezeNotified := false })

/-! ## The manual restore -/

/-- What the environment answers to one `set_restore_resource` call. -/
structure ManualRestoreOutcomes where
  adjust : Nat → AdjustOutcome
  io : Nat → IoCallOutcome
  thaw : Nat → FreezeOutcome

/-- The CPU/memory calls of `set_restore_resource`. -/
def manualRestoreCpuMem (key : CgroupId) (entry : LimitedApp)
    (outcomes : ManualRestoreOutcomes) : ControllerCall :=
  if entry.limitParts.cpuMemLimited then
    fanOut (adjustEach .low (fun _ => none) (fun _ => none) outcomes.adjust)
      (entry.cgroupsOrKey key)
  else (true, [])

/-- The disk calls of `set_restore_resource`, on every disk. -/
def manualRestoreIo (key : CgroupId) (entry : LimitedApp)
    (outcomes : ManualRestoreOutcomes) : ControllerCall :=
  if entry.limitParts.ioLimited then
    fanOut (unthrottleEach [] outcomes.io) (entry.cgroupsOrKey key)
  else (true, [])

/-- The thaw of `set_restore_resource`. -/
def manualRestoreThaw (key : CgroupId) (entry : LimitedApp)
    (outcomes : ManualRestoreOutcomes) : ControllerCall :=
  if entry.frozen then thawCgroups (entry.cgroupsOrKey key) outcomes.thaw
  else (true, [])

/-- The registry part of `set_restore_resource`: the entry is forgotten before
anything is lifted. -/
def popManual (balancer : Balancer) (key : CgroupId) : Balancer :=
  { balancer.popEntry key with
    allLimits := (balancer.popEntry key).allLimits.removeExclusion key }

/-- `set_restore_resource`: forget the manual entry, then lift its caps and
thaw.  Only failures on the primary cgroup are reported. -/
def setRestoreResource (balancer : Balancer) (appId : String)
    (outcomes : ManualRestoreOutcomes) : Bool × Balancer :=
  match balancer.allLimits.byPublicId appId .manual with
  | none => (true, balancer)
  | some (key, entry) =>
    let cpuMem := manualRestoreCpuMem key entry outcomes
    let io := manualRestoreIo key entry outcomes
    let thaw := manualRestoreThaw key entry outcomes
    let parts := entry.limitParts
    let event := fun (balancer : Balancer) action parts =>
      balancer.emit action parts entry.resourceParts appId
        (orElseName entry.appName appId) entry.protectionId .manual
    (cpuMem.1 && io.1 && thaw.1, event (event
        ((balancer.popManual key).writes (cpuMem.2 ++ io.2 ++ thaw.2))
        .recovered ⟨parts.cpuMemLimited && cpuMem.1, parts.ioLimited && io.1⟩)
        .failed ⟨parts.cpuMemLimited && !cpuMem.1, parts.ioLimited && !io.1⟩)

end Balancer

end SmarTune
