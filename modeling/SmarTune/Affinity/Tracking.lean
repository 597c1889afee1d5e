import SmarTune.Affinity.Directories
import Mathlib.Data.String.Basic

/-!
# Affinity tracking

`DynamicBalancer` remembers which app was pinned in which directories, beside
the originals that `CPUController` keeps per directory.  A directory can be
tracked for several apps.  Four operations change both records: the request of
a client, the release of an app, the reaper pass and, within a request that
fails part-way, its rollback.
-/

namespace SmarTune

/-! ## The balancer's records -/

/-- What `_affinity_apps` holds for an app. -/
structure TrackedApp where
  appName : String
  pids : Finset Nat
  dirs : Finset String

/-- The part of the service that pins apps. -/
structure AffinityService where
  cpu : CpuController
  /-- `_affinity_apps`. -/
  apps : OrderedDict String TrackedApp
  /-- `_last_choices`. -/
  lastChoices : OrderedDict String (String × String)

/-- A request to `set_cpu_affinity`. -/
structure AffinityRequest where
  appId : String
  appName : String
  cpuClass : String
  cpus : Option String
  targetCgroups : List String

/-- What the machine answers during a request. -/
structure AffinityAnswers where
  /-- The directories of `_app_cgroup_targets`. -/
  dirs : List String
  /-- The processes of `_app_cgroup_targets`. -/
  pids : List Nat
  groups : CoreGroups
  cpuCount : Nat
  /-- The CPUs each directory's parent allows. -/
  allowed : String → Option (Finset Nat)
  setting : String → SetCpusOutcomes
  restoring : String → RestoreCpusOutcomes

/-- What a request returns. -/
inductive AffinityReply
  | restoreFailed (failures : List RestoreCpusReply)
  | restored (results : List (String × RestoreCpusReply))
  | noRunningCgroup
  | refused (reason : CpuRefusal)
  | setFailed (detail : SetCpusReply)
  | bound (value : String)

/-- What `release_cpu_affinity` returns. -/
inductive ReleaseReply
  | notBound
  | failed (failures : List RestoreCpusReply)
  | restored

/-- What the machine answers during a reaper pass. -/
structure ReaperAnswers where
  /-- `_pid_gone_or_dying`. -/
  pidGone : Nat → Bool
  /-- `check_app_running_status`, `none` when it raises. -/
  runningStatus : String → String → Option String
  order : SetOrder String
  allowed : String → Option (Finset Nat)
  /-- The writes of a restore for an app in a directory. -/
  restoring : String → String → RestoreCpusOutcomes

def ReaperAnswers.gone (answers : ReaperAnswers)
    (entry : String × TrackedApp) : Bool :=
  if entry.2.pids = ∅ then
    answers.runningStatus entry.1 entry.2.appName = some "stopped"
  else decide (∀ pid ∈ entry.2.pids, answers.pidGone pid)

namespace AffinityService

variable (service : AffinityService)

/-- Nothing is pinned. -/
def fresh (files : CpusetFiles) : AffinityService :=
  ⟨.fresh files, .empty, .empty⟩

/-- `_tracked_affinity_dirs`. -/
def trackedAffinityDirs (appId : String) : List String :=
  match service.apps.get? appId with
  | some tracked => SetOrder.sorted.walk tracked.dirs
  | none => []

/-- `_forget_affinity`. -/
def forgetAffinity (appId : String) (dirs : List String) : AffinityService :=
  match service.apps.get? appId with
  | none => service
  | some tracked =>
    let left := tracked.dirs \ dirs.toFinset
    { service with
      apps := if left = ∅ then service.apps.erase appId
        else service.apps.set appId { tracked with dirs := left } }

/-- The bookkeeping of a request that bound every directory. -/
def track (appId appName : String) (pids : List Nat)
    (done : List String) : AffinityService :=
  let tracked := (service.apps.get? appId).getD ⟨appName, ∅, ∅⟩
  { service with
    apps := service.apps.set appId
      { tracked with
        pids := tracked.pids ∪ pids.toFinset
        dirs := tracked.dirs ∪ done.toFinset } }

/-- The cgroups a request names. -/
def wantedCgroups (targetCgroups : List String) : List String :=
  (targetCgroups.filter fun cgroup => strip cgroup ≠ "").map basename

/-- A directory the request is about. -/
def inScope (targetCgroups : List String) (directory : String) : Bool :=
  wantedCgroups targetCgroups = [] ||
    basename directory ∈ wantedCgroups targetCgroups

/-- The directories a request to restore is about. -/
def restoreDirs (request : AffinityRequest)
    (answers : AffinityAnswers) : List String :=
  let dirs := answers.dirs.filter (inScope request.targetCgroups)
  if dirs ≠ [] then dirs
  else (service.trackedAffinityDirs request.appId).filter
    (inScope request.targetCgroups)

/-- The `restore` request. -/
def requestRestore (request : AffinityRequest)
    (answers : AffinityAnswers) : AffinityReply × AffinityService :=
  let dirs := service.restoreDirs request answers
  let result := service.cpu.restoreEach answers.allowed answers.restoring dirs
  let service := { service with cpu := result.2 }
  if failuresOf result.1 ≠ [] then
    (.restoreFailed (failuresOf result.1), service)
  else (.restored result.1, service.forgetAffinity request.appId dirs)

/-- The rollback of a request that failed part-way. -/
def rollBack (appId : String) (answers : AffinityAnswers) (done : List String)
    (failed : String) : AffinityService :=
  let rollback := done ++ if service.cpu.isBound failed then [failed] else []
  let result :=
    service.cpu.restoreEach answers.allowed answers.restoring rollback
  { service with cpu := result.2 }.forgetAffinity appId (restoredOf result.1)

/-- `_set_cpu_affinity`. -/
def setCpuAffinity (request : AffinityRequest)
    (answers : AffinityAnswers) : AffinityReply × AffinityService :=
  if lowerCase request.cpuClass = "restore" then
    service.requestRestore request answers
  else
    let dirs := answers.dirs.filter (inScope request.targetCgroups)
    if dirs = [] then (.noRunningCgroup, service)
    else
      match resolveCpus request.cpuClass request.cpus answers.groups
          (Finset.range (max answers.cpuCount 1)) with
      | .error reason => (.refused reason, service)
      | .ok value =>
        let result := service.cpu.bindEach answers.allowed value
          answers.setting dirs
        let service := { service with cpu := result.controller }
        match result.failed with
        | some (failed, detail) =>
          (.setFailed detail,
            service.rollBack request.appId answers result.done failed)
        | none =>
          let service := service.track request.appId request.appName
            answers.pids result.done
          (.bound value,
            { service with
              lastChoices := service.lastChoices.set request.appId
                (lowerCase request.cpuClass, value) })

/-- `release_cpu_affinity`. -/
def releaseCpuAffinity (appId : String) (allowed : String → Option (Finset Nat))
    (restoring : String → RestoreCpusOutcomes) :
    ReleaseReply × AffinityService :=
  let dirs := service.trackedAffinityDirs appId
  if dirs = [] then (.notBound, service)
  else
    let result := service.cpu.restoreEach allowed restoring dirs
    let service :=
      { service with cpu := result.2 }.forgetAffinity appId
        (restoredOf result.1)
    (if failuresOf result.1 ≠ [] then .failed (failuresOf result.1)
      else .restored, service)

def reapApp (answers : ReaperAnswers) (service : AffinityService)
    (entry : String × TrackedApp) : AffinityService :=
  { service with
    apps := service.apps.erase entry.1
    cpu := (service.cpu.restoreEach answers.allowed
      (answers.restoring entry.1) (answers.order.walk entry.2.dirs)).2 }

/-- `_reap_closed_affinity`. -/
def reapClosedAffinity (answers : ReaperAnswers) : AffinityService :=
  (service.apps.entries.filter answers.gone).foldl (reapApp answers) service

end AffinityService

end SmarTune
