import SmarTune.Identity.ScopeSnapshot
import SmarTune.Balancer.Manual
import SmarTune.Affinity.Tracking

/-!
# Edits of an app's identity

`set_controlled_app_processes` replaces the names of an app, unless it drops one
that the guard reads as limited.  `purge_controlled_app` deletes the app after
its manual limit has been restored and its cores released.
-/

namespace SmarTune

/-- `by_public_id` for any source. -/
def LimitRegistry.anyByPublicId (registry : LimitRegistry)
    (publicAppId : String) : Option (CgroupId × LimitedApp) :=
  registry.apps.entries.find? fun app => app.2.publicAppId = publicAppId

/-- The row of an app in the table, as the guard reads it. -/
structure ControlledRow where
  name : String
  status : String

/-- What the requests read and write. -/
structure IdentityService where
  apps : List ControlledEntry
  balancer : Balancer
  affinity : AffinityService
  record : String → Option ControlledRow
  processes : List ProcessInfo

/-- The two requests that take names away. -/
inductive IdentityEdit
  /-- `set_controlled_app_processes`. -/
  | set (processNames bpfName : List String)
  /-- `purge_controlled_app`. -/
  | purge
  deriving DecidableEq

/-- What a request is told. -/
inductive EditReply
  | argumentError
  | notExisting
  | limited (dropped : List String)
  | autoLimited
  | notRestored
  | stillBound
  | notWritten
  | done
  deriving DecidableEq

/-- What the machine answers during a request. -/
structure EditAnswers where
  /-- The configuration file could be written. -/
  written : Bool
  restore : Balancer.ManualRestoreOutcomes
  allowed : String → Option (Finset Nat)
  restoring : String → RestoreCpusOutcomes

namespace IdentityService

variable (service : IdentityService)

def entryOf (appId : String) : Option ControlledEntry :=
  service.apps.find? fun entry => entry.id = appId

def namesOf (appId : String) : List String :=
  ((service.entryOf appId).map ControlledEntry.processNames).getD []

/-- The rows that `_limited_process_names_for_app` asks for. -/
def scopeQuery (appId : String) (entry : ControlledEntry)
    (limit : LimitedApp) : ScopeQuery :=
  let record := service.record appId
  { appId
    appName := orElseName entry.name ((record.map ControlledRow.name).getD "")
    processNames := entry.processNames
    appStatus := (record.map ControlledRow.status).getD ""
    limitedPids := limit.pids
    limitedCgroups := limit.cgroups }

/-- `_limited_process_names_for_app`. -/
def limitedProcessNames (appId : String)
    (entry : ControlledEntry) : List String :=
  match service.balancer.allLimits.anyByPublicId appId with
  | none => []
  | some (_, limit) =>
    (((service.scopeQuery appId entry limit).rows service.processes).filter
      fun row => row.limited && strip row.processName ≠ "").map fun row =>
        strip row.processName

/-- `set_controlled_app_processes`. -/
def setControlledAppProcesses (id : String) (processNames bpfName : List String)
    (answers : EditAnswers) : EditReply × IdentityService :=
  let appId := strip id
  if appId = "" then (.argumentError, service)
  else
    match service.entryOf appId with
    | none => (.notExisting, service)
    | some entry =>
      let keep := (cleanNames processNames).map lowerCase
      let dropped := (service.limitedProcessNames appId entry).filter
        fun name => lowerCase name ∉ keep
      let changed :=
        updateFirst appId (replacedEntry processNames bpfName) service.apps
      if keep = [] then (.argumentError, service)
      else if dropped ≠ [] then (.limited dropped, service)
      -- A list that would not change is not written.
      else if !answers.written || changed = service.apps then
        (.notWritten, service)
      else (.done, { service with apps := changed })

/-- The restore of `purge_controlled_app`: an auto limit is left alone. -/
def restoreForPurge (appId : String)
    (answers : EditAnswers) : Option EditReply × Balancer :=
  match service.balancer.allLimits.anyByPublicId appId with
  | none => (none, service.balancer)
  | some (_, limit) =>
    if limit.source = .auto then (some .autoLimited, service.balancer)
    else
      let result := service.balancer.setRestoreResource appId answers.restore
      (if result.1 then none else some .notRestored, result.2)

/-- `purge_controlled_app`. -/
def purgeControlledApp (id : String)
    (answers : EditAnswers) : EditReply × IdentityService :=
  let appId := strip id
  if appId = "" then (.argumentError, service)
  else if listed service.apps appId = false then (.notExisting, service)
  else
    let restored := service.restoreForPurge appId answers
    let service := { service with balancer := restored.2 }
    match restored.1 with
    | some reply => (reply, service)
    | none =>
      let released := service.affinity.releaseCpuAffinity appId
        answers.allowed answers.restoring
      let service := { service with affinity := released.2 }
      match released.1 with
      | .failed _ => (.stillBound, service)
      | .notBound | .restored =>
        if !answers.written then (.notWritten, service)
        else
          (.done,
            { service with
              apps := service.apps.filter fun entry => entry.id ≠ appId })

/-- One of the two requests. -/
def edit (id : String) (request : IdentityEdit)
    (answers : EditAnswers) : EditReply × IdentityService :=
  match request with
  | .set processNames bpfName =>
    service.setControlledAppProcesses id processNames bpfName answers
  | .purge => service.purgeControlledApp id answers

end IdentityService

/-! ## What the edits owe -/

/-- The cgroup is capped or frozen. -/
def Kernel.Holds (kernel : Kernel) (cgroup : CgroupId) : Prop :=
  (∃ cap : Cap, cap.cgroup = cgroup ∧ kernel.InForce cap) ∨
    kernel.freeze cgroup = true

/-- What has been limited and pinned for an app, on record or not. -/
structure Footprint where
  scopes : List CgroupId
  directories : List String

namespace IdentityService

/-- Every cgroup of the app that is held runs a process of one of its names. -/
def NoneStranded (service : IdentityService) (appId : String)
    (footprint : Footprint) : Prop :=
  ∀ cgroup ∈ footprint.scopes, service.balancer.kernel.Holds cgroup →
    Hosts service.processes appId (service.namesOf appId) cgroup

/-- Nothing of the app is held any more. -/
structure NothingRemains (service : IdentityService)
    (footprint : Footprint) : Prop where
  released : ∀ cgroup ∈ footprint.scopes, ¬ service.balancer.kernel.Holds cgroup
  unpinned : ∀ directory ∈ footprint.directories,
    service.affinity.cpu.isBound directory = false

/-- What a request owes once it is done. -/
def StrandsNothing (service : IdentityService) (appId : String)
    (footprint : Footprint) : IdentityEdit → Prop
  | .set _ _ => service.NoneStranded appId footprint
  | .purge => service.NothingRemains footprint

/-! ### When they do -/

/-- The guard sees the cgroup: the first limit on record for the app lists it,
and it runs a process of a name the app has now. -/
def Watched (service : IdentityService) (appId : String)
    (cgroup : CgroupId) : Prop :=
  (∃ found ∈ service.balancer.allLimits.anyByPublicId appId,
    cgroup ∈ ScopeQuery.listedCgroups found.2.cgroups) ∧
  Hosts service.processes appId (service.namesOf appId) cgroup

end IdentityService

/-- The call clears `io.max` of the disk. -/
def IoCallOutcome.clears (outcome : IoCallOutcome) (disk : DiskName) : Bool :=
  outcome.pathFound && outcome.ioEnabled && outcome.disks.any fun found =>
    found.1 = disk &&
      (!(outcome.line found.1).present || (outcome.line found.1).accepted)

def Balancer.ManualRestoreOutcomes.LiftsAt
    (outcomes : Balancer.ManualRestoreOutcomes) (entry : LimitedApp)
    (position : Nat) : Cap → Prop
  | .cpuMem _ => entry.limitParts.cpuMemLimited = true ∧
      (outcomes.adjust position).setProperty = true
  | .io _ disk => entry.limitParts.ioLimited = true ∧
      (outcomes.io position).clears disk = true

namespace IdentityService

/-- The first limit on record lists every cgroup of the app that is held, has
recorded what holds it, and the kernel accepts the restore there; every bound
directory is tracked for the app. -/
structure FullyLifted (service : IdentityService) (appId : String)
    (footprint : Footprint) (answers : EditAnswers) : Prop where
  caps : ∀ cap : Cap, cap.cgroup ∈ footprint.scopes →
    service.balancer.kernel.InForce cap →
      ∃ found ∈ service.balancer.allLimits.anyByPublicId appId, ∃ position,
        (found.2.cgroupsOrKey found.1)[position]? = some cap.cgroup ∧
        answers.restore.LiftsAt found.2 position cap
  freezes : ∀ cgroup ∈ footprint.scopes,
    service.balancer.kernel.freeze cgroup = true →
      ∃ found ∈ service.balancer.allLimits.anyByPublicId appId, ∃ position,
        (found.2.cgroupsOrKey found.1)[position]? = some cgroup ∧
        found.2.frozen = true ∧
        (answers.restore.thaw position).exists_ = true ∧
        (answers.restore.thaw position).written = true
  pins : ∀ directory ∈ footprint.directories,
    service.affinity.cpu.isBound directory = true →
      directory ∈ service.affinity.trackedAffinityDirs appId

/-- The request reaches everything that is held. -/
def ReachesAll (service : IdentityService) (appId : String)
    (footprint : Footprint) (answers : EditAnswers) : IdentityEdit → Prop
  | .set processNames _ =>
    ∀ cgroup ∈ footprint.scopes, service.balancer.kernel.Holds cgroup →
      service.Watched appId cgroup ∨
        Hosts service.processes appId processNames cgroup
  | .purge => service.FullyLifted appId footprint answers

end IdentityService

end SmarTune
