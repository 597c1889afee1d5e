import SmarTune.Balancer.Restore

/-!
# Auto limits

`_apply_resource_limits` caps one candidate on the channel under pressure and
`_upsert_auto_limited` records the limit, merging it with the entry the app
already has under the same primary cgroup.
-/

namespace SmarTune

/-- Python's `os.path.basename`. -/
def basename (path : String) : String :=
  String.ofList (path.toList.reverse.takeWhile (· ≠ '/')).reverse

/-- Python's `rstrip('/')`. -/
def rstripSlash (path : String) : String :=
  String.ofList (path.toList.reverse.dropWhile (· = '/')).reverse

/-- A top-consumer sample as the apply path reads it. -/
structure Candidate where
  recordId : Option String := none
  recordName : Option String := none
  processName : Option String := none
  processPid : Option Nat := none
  /-- The path of the sampled cgroup. -/
  cgroup : Option String := none
  cgroupId : Option CgroupId := none
  extraCgroups : List CgroupId := []
  publicAppId : Option String := none
  perCgroupMemRss : List (CgroupId × ℚ) := []
  perCgroupCpu : List (CgroupId × ℚ) := []
  resolvedPriority : Option String := none
  pids : List Nat := []

/-- The arguments `_upsert_auto_limited` records. -/
structure AutoLimit where
  publicId : String
  appName : String
  limitRates : LimitRates
  resourceLimited : Bool
  ioLimited : Bool
  priority : Option String
  isControlled : Bool
  limitReason : String
  pressureLevel : String
  cgroups : List CgroupId
  limitDisks : List DiskName
  pids : List Nat
  representativePid : Option Nat
  resourceParts : ResourceParts

/-- Python's `or` on strings. -/
def orElseName (first second : String) : String :=
  if first = "" then second else first

/-- A priority, or the placeholder where it is missing. -/
def orUndefined (priority : Option String) : String :=
  orElseName (priority.getD "") "undefined"

namespace AutoLimit

/-- The entry of an app that has no auto entry yet. -/
def fresh (limit : AutoLimit) (appId : CgroupId) (now : ℚ) : LimitedApp where
  publicAppId := limit.publicId
  appName := limit.appName
  source := .auto
  limitRates := limit.limitRates
  limitParts := ⟨limit.resourceLimited, limit.ioLimited⟩
  resourceParts := limit.resourceParts
  priority := orUndefined limit.priority
  isControlled := limit.isControlled
  limitReason := limit.limitReason
  pressureLevel := limit.pressureLevel
  cgroups := limit.cgroups.eraseDups
  limitDisks := limit.limitDisks
  pids := limit.pids.eraseDups
  representativePid := limit.representativePid
  limitedAt := now
  protectionId := some ⟨.auto, limit.publicId, appId, now⟩

/-- The entry of an app that already has one: first timestamp, identity and
reason, the union of parts, cgroups, disks and PIDs, the newer rates. -/
def merged (limit : AutoLimit) (appId : CgroupId) (previous : LimitedApp)
    (now : ℚ) : LimitedApp :=
  let limitedAt := if previous.limitedAt = 0 then now else previous.limitedAt
  let partialParts : PartialParts :=
    ⟨previous.partialParts.sys && !limit.resourceLimited,
      previous.partialParts.diskIo && !limit.ioLimited⟩
  { publicAppId := limit.publicId
    appName := limit.appName
    source := .auto
    limitRates := previous.limitRates.merge limit.limitRates
    limitParts :=
      ⟨previous.limitParts.cpuMemLimited || limit.resourceLimited,
        previous.limitParts.ioLimited || limit.ioLimited⟩
    resourceParts :=
      ⟨previous.resourceParts.cpu || limit.resourceParts.cpu,
        previous.resourceParts.memory || limit.resourceParts.memory⟩
    state := if partialParts.sys || partialParts.diskIo
      then some .partiallyRestored else none
    priority := orUndefined limit.priority
    isControlled := limit.isControlled
    limitReason := orElseName previous.limitReason limit.limitReason
    pressureLevel := limit.pressureLevel
    partialParts := partialParts
    cgroups := (previous.cgroups ++ limit.cgroups.eraseDups).eraseDups
    limitDisks := (previous.limitDisks ++ limit.limitDisks).eraseDups
    pids := (limit.pids ++ previous.pids).eraseDups
    representativePid := limit.representativePid.or previous.representativePid
    limitedAt := limitedAt
    protectionId := previous.protectionId.or
      (some ⟨.auto, limit.publicId, appId, limitedAt⟩) }

end AutoLimit

namespace Balancer

/-- The auto entry under a key; a manual one does not count. -/
def autoEntry (balancer : Balancer) (appId : CgroupId) : Option LimitedApp :=
  (balancer.allLimits.apps.get? appId).filter fun entry =>
    entry.source = .auto

/-- The entry `_upsert_auto_limited` stores. -/
def upsertedEntry (balancer : Balancer) (appId : CgroupId) (limit : AutoLimit)
    (now : ℚ) : LimitedApp :=
  match balancer.autoEntry appId with
  | some previous => limit.merged appId previous now
  | none => limit.fresh appId now

/-- `_upsert_auto_limited`: store the entry and report the channels it newly
caps. -/
def upsertAutoLimited (balancer : Balancer) (appId : CgroupId)
    (limit : AutoLimit) (now : ℚ) : Balancer :=
  let previous := ((balancer.autoEntry appId).map (·.limitParts)).getD .none
  let entry := balancer.upsertedEntry appId limit now
  let newly : LimitParts :=
    ⟨limit.resourceLimited && !previous.cpuMemLimited,
      limit.ioLimited && !previous.ioLimited⟩
  (balancer.withApps (balancer.allLimits.apps.set appId entry)).emit
    .applied newly entry.resourceParts limit.publicId limit.appName
    entry.protectionId .auto

/-! ## The cap of one candidate -/

/-- What the environment answers to one `_apply_resource_limits` call. -/
structure ApplyOutcomes where
  totalMemory : Int
  /-- `memory.current` plus `memory.swap.current`, where readable. -/
  memoryReading : CgroupId → Option Int
  stressedDisks : List DiskName
  mediaScale : DiskName → ℚ
  listing : IoCallOutcome
  adjust : Nat → AdjustOutcome
  io : Nat → IoCallOutcome
  /-- The answers to the restore of a disk cap that yields. -/
  yieldIo : RestoreOutcomes
  now : ℚ

/-- Every write is accepted, on a machine with the listed disks. -/
def ApplyOutcomes.accepting (disks : List (DiskName × DeviceId))
    (now : ℚ) : ApplyOutcomes where
  totalMemory := 16000
  memoryReading := fun _ => none
  stressedDisks := disks.map Prod.fst
  mediaScale := fun _ => 1
  listing := .accepting disks
  adjust := fun _ => .accepting
  io := fun _ => .accepting disks
  yieldIo := ⟨16000, fun _ => 1, .accepting disks, fun _ => .accepting,
    fun _ => .accepting disks⟩
  now := now

/-- `_app_working_set_mb`. -/
def appWorkingSetMb (cgroups : List CgroupId)
    (perCgroupMemRss : List (CgroupId × ℚ))
    (memoryReading : CgroupId → Option Int) : Int :=
  let bytes := fun cgroup =>
    let sampled := perCgroup perCgroupMemRss cgroup
    if sampled ≠ 0 then pyInt sampled else (memoryReading cgroup).getD 0
  ((cgroups.map bytes).sum).fdiv (1024 * 1024)

/-- `_auto_mem_high_mb`. -/
def autoMemHighMb (cgroups : List CgroupId)
    (perCgroupMemRss : List (CgroupId × ℚ)) (outcomes : ApplyOutcomes)
    (rate : Option ℚ) : Option Int :=
  match rate with
  | none => none
  | some rate =>
    if rate = 0 then none
    else
      let systemShare := pyInt (outcomes.totalMemory * rate)
      let workingSet := appWorkingSetMb cgroups perCgroupMemRss
        outcomes.memoryReading
      if workingSet ≤ 0 then some systemShare
      else some (min systemShare (max 1 (pyInt (workingSet * rate))))

def autoCpuQuota (limitRates : LimitRates) : Option Int :=
  if truthy limitRates.cpu then
    limitRates.cpu.map fun rate => pyInt (100 * rate)
  else none

/-- The CPU/memory cap of `_apply_resource_limits`. -/
def applyCpuMem (isRunning : Bool) (target : Candidate) (appId : CgroupId)
    (limitRates : LimitRates) (outcomes : ApplyOutcomes) : ControllerCall :=
  let cgroups := appId :: target.extraCgroups
  let cpuRate := autoCpuQuota limitRates
  let memRate := autoMemHighMb cgroups target.perCgroupMemRss outcomes
    limitRates.mem
  if (cpuRate.isSome || memRate.isSome) && isRunning then
    fanOut (adjustEach .critical
      (distribute cpuRate cgroups target.perCgroupCpu)
      (distribute memRate cgroups target.perCgroupMemRss)
      outcomes.adjust) cgroups
  else (false, [])

/-- The disk cap of `_apply_resource_limits`. -/
def applyDiskIo (isRunning : Bool) (target : Candidate) (appId : CgroupId)
    (limitRates : LimitRates) (outcomes : ApplyOutcomes) : ControllerCall :=
  match limitRates.diskIo with
  | some rate =>
    if isRunning then
      fanOut (throttleEach
        (scaledIoLimits rate outcomes.mediaScale outcomes.stressedDisks
          outcomes.listing)
        outcomes.stressedDisks outcomes.io) (appId :: target.extraCgroups)
    else (false, [])
  | none => (false, [])

/-- What `_apply_resource_limits` records of a successful cap. -/
def autoLimitOf (target : Candidate) (appId : CgroupId)
    (limitRates : LimitRates) (isControlled isDiskIoStressed : Bool)
    (pressureLevel : String) (outcomes : ApplyOutcomes) : AutoLimit where
  publicId := match target.publicAppId with
    | some publicId => orElseName publicId appId
    | none => appId
  appName := orElseName (target.recordName.getD "")
    (orElseName (target.processName.getD "") appId)
  limitRates := limitRates
  resourceLimited := !isDiskIoStressed
  ioLimited := isDiskIoStressed
  priority := target.resolvedPriority
  isControlled := isControlled
  limitReason := if isDiskIoStressed then "disk_pressure"
    else "system_pressure"
  pressureLevel := pressureLevel
  cgroups := appId :: target.extraCgroups
  limitDisks := if isDiskIoStressed then outcomes.stressedDisks else []
  pids := target.pids
  representativePid := target.processPid
  resourceParts :=
    ⟨!isDiskIoStressed && truthy limitRates.cpu,
      !isDiskIoStressed && truthy limitRates.mem⟩

def manualLimited (balancer : Balancer) (target : Candidate)
    (appId : CgroupId) : Bool :=
  (appId :: target.extraCgroups).any fun cgroup =>
    (balancer.allLimits.byAnyId cgroup .manual).isSome

/-- The caps of `_apply_resource_limits` on the channel under pressure. -/
def applyChannel (isRunning : Bool) (target : Candidate) (appId : CgroupId)
    (limitRates : LimitRates) (isDiskIoStressed : Bool)
    (outcomes : ApplyOutcomes) : ControllerCall :=
  if isDiskIoStressed
  then applyDiskIo isRunning target appId limitRates outcomes
  else applyCpuMem isRunning target appId limitRates outcomes

/-- A sys cap first makes an auto disk cap of the app yield. -/
def yieldIoCap (balancer : Balancer) (appId : CgroupId)
    (isDiskIoStressed : Bool) (outcomes : ApplyOutcomes) : Balancer :=
  if isDiskIoStressed then balancer
  else balancer.clearIoCapBeforeSysLimit appId outcomes.yieldIo

/-- `_apply_resource_limits`: the limit is recorded when the primary's call
succeeded. -/
def applyResourceLimits (balancer : Balancer) (target : Candidate)
    (appId : CgroupId) (limitRates : LimitRates)
    (isControlled isDiskIoStressed : Bool) (pressureLevel : String)
    (outcomes : ApplyOutcomes) : Balancer :=
  if balancer.manualLimited target appId then balancer
  else
    let yielded := balancer.yieldIoCap appId isDiskIoStressed outcomes
    let call := applyChannel yielded.isRunning target appId limitRates
      isDiskIoStressed outcomes
    let written := yielded.writes call.2
    if call.1 then
      written.upsertAutoLimited appId
        (autoLimitOf target appId limitRates isControlled isDiskIoStressed
          pressureLevel outcomes) outcomes.now
    else written

end Balancer

end SmarTune
