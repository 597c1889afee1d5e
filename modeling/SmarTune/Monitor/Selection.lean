import SmarTune.Monitor.Loop
import SmarTune.Balancer.Manual
import Mathlib.Data.String.Basic

/-!
# Selecting the target of a limit

`_handle_critical_pressure` acts on the first candidate of its batch,
`_handle_disk_io_stressed` on the first one worth throttling.  A controlled app
is then resolved to the cgroups it really spans, which replaces the cgroup it
was sampled in.
-/

namespace SmarTune

/-! ## Controlled apps -/

/-- A row of the controlled apps, with the process names configured for it. -/
structure ControlledApp where
  appId : String
  appName : String
  priority : Option String
  processNames : List String := []

/-- The `name_map` of `get_app_control_info`: display names win over process
names, later apps over earlier ones of the same display name. -/
def namedApp (apps : List ControlledApp) (name : String) :
    Option ControlledApp :=
  (apps.reverse.find? fun app =>
    app.appName ≠ "" && lowerCase app.appName = name).or
  (apps.find? fun app => app.processNames.any fun processName =>
    processName ≠ "" && lowerCase processName = name)

/-- `get_app_control_info`. -/
def getAppControlInfo (apps : List ControlledApp)
    (appId appName : String) : Option ControlledApp :=
  let byId := apps.reverse.find? fun app => app.appId = appId
  let named := fun name =>
    if name = "" then none else namedApp apps (lowerCase name)
  ((if appId = "" then none else byId).or (named appId)).or (named appName)

/-- What `get_app_resource_usage` reports; an absent figure is empty. -/
structure AppUsage where
  cgroupPaths : List String := []
  cgroupPath : String := ""
  pids : List Nat := []
  perCgroupMem : List (CgroupId × ℚ) := []
  perCgroupCpuDelta : List (CgroupId × ℚ) := []

def AppUsage.effectiveIds (usage : AppUsage) : List CgroupId :=
  let paths := if usage.cgroupPaths = [] then [usage.cgroupPath]
    else usage.cgroupPaths
  (paths.filter (· ≠ "")).map basename

/-- Python's `x or y` on collections. -/
def orElseList {Item : Type} (first second : List Item) : List Item :=
  if first.isEmpty then second else first

/-- `_resolve_controlled_target`: the primary cgroup, if any was found, and the
candidate as it rewrites it. -/
def resolveControlledTarget (usage : AppUsage) (app : ControlledApp)
    (candidate : Candidate) : Option CgroupId × Candidate :=
  match usage.effectiveIds with
  | [] => (none, candidate)
  | first :: rest =>
    let primary := rest.foldl min first
    (some primary,
      { candidate with
        extraCgroups := (first :: rest).filter (· ≠ primary)
        publicAppId := some app.appId
        pids := orElseList usage.pids candidate.pids
        perCgroupMemRss :=
          orElseList usage.perCgroupMem candidate.perCgroupMemRss
        perCgroupCpu :=
          orElseList usage.perCgroupCpuDelta candidate.perCgroupCpu })

/-! ## Heavy disk users -/

/-- The media classes of `media_for_disk`. -/
inductive Media
  | nvme
  | sataSsd
  | mmc
  | hdd
  | usb
  | unknown
  deriving DecidableEq, Repr

/-- Below both figures a cap on the disk would not help. -/
structure CandidateFloor where
  mbPerSecond : ℚ
  iops : ℚ

/-- A floor as configured; a missing or unreadable field is `none`. -/
structure ConfiguredFloor where
  mbPerSecond : Option ℚ := none
  iops : Option ℚ := none

/-- `_CANDIDATE_FLOOR_DEFAULT`. -/
def candidateFloorDefault : Media → CandidateFloor
  | .nvme => ⟨30, 2000⟩
  | .sataSsd => ⟨20, 1200⟩
  | .mmc => ⟨10, 400⟩
  | .hdd => ⟨5, 60⟩
  | .usb => ⟨4, 50⟩
  | .unknown => ⟨5, 60⟩

/-- `_candidate_floors`: configured figures that are not negative win. -/
def candidateFloors (configured : Media → ConfiguredFloor)
    (media : Media) : CandidateFloor :=
  let usable := fun (value : Option ℚ) => value.filter fun value => 0 ≤ value
  ⟨(usable (configured media).mbPerSecond).getD
      (candidateFloorDefault media).mbPerSecond,
    (usable (configured media).iops).getD (candidateFloorDefault media).iops⟩

/-- The disk rates of a process, in MB/s and operations per second. -/
structure DiskFigures where
  readRate : ℚ := 0
  writeRate : ℚ := 0
  readIops : ℚ := 0
  writeIops : ℚ := 0

def DiskFigures.reaches (figures : DiskFigures) (floor : CandidateFloor) :
    Bool :=
  floor.mbPerSecond ≤ figures.readRate + figures.writeRate ||
    floor.iops ≤ figures.readIops + figures.writeIops

/-- The disk rates a sample carries: totals and, where known, per disk. -/
structure ProcessIo where
  totals : DiskFigures := {}
  ioPerDisk : List (DiskName × DiskFigures) := []

/-- The floor of the class with the highest bandwidth figure. -/
def strictestFloor (floors : Media → CandidateFloor) : CandidateFloor :=
  ([.sataSsd, .mmc, .hdd, .usb, .unknown].map floors).foldl (fun best floor =>
      if best.mbPerSecond < floor.mbPerSecond then floor else best)
    (floors .nvme)

/-- `_qualifies_for_throttle`: heavy enough on some one disk. -/
def qualifiesForThrottle (floors : Media → CandidateFloor)
    (mediaForDisk : DiskName → Media) (process : ProcessIo) : Bool :=
  if process.ioPerDisk.isEmpty then
    process.totals.reaches (strictestFloor floors)
  else
    process.ioPerDisk.any fun disk =>
      disk.2.reaches (floors (mediaForDisk disk.1))

/-! ## The selection -/

/-- What a selection looks up outside the batch and the registry. -/
structure SelectionView where
  controlledApps : List ControlledApp
  /-- `get_app_resource_usage` of a controlled app. -/
  usage : ControlledApp → AppUsage
  policy : Option LimitPolicy
  configuredFloors : Media → ConfiguredFloor := fun _ => {}
  mediaForDisk : DiskName → Media := fun _ => .unknown
  processIo : Candidate → ProcessIo := fun _ => {}
  /-- CPU or memory of the machine is busy. -/
  isSysBusy : Bool := true
  /-- The pressure may be our own reclaim's. -/
  inReclaimQuietWindow : Bool := false

/-- The target a selection settles on, with the id and the rates of its cap. -/
structure Selection where
  isControlled : Bool
  appId : CgroupId
  limitRates : LimitRates
  targetApp : Candidate
  index : Nat

namespace SelectionView

def controlledData (view : SelectionView) (candidate : Candidate) :
    Option ControlledApp :=
  getAppControlInfo view.controlledApps (candidate.recordId.getD "")
    (lowerCase (candidate.processName.getD ""))

def priority (view : SelectionView) (candidate : Candidate) :
    Option String :=
  (view.controlledData candidate).bind (·.priority)

end SelectionView

/-- The cgroup a candidate was sampled in, as the sample spells it. -/
def Candidate.spelledCgroup (candidate : Candidate) : CgroupId :=
  orElseName (basename (rstripSlash (candidate.cgroup.getD "")))
    (candidate.cgroupId.getD "")

/-- A controlled app is addressed by its primary cgroup once that is found. -/
def resolveTarget (view : SelectionView) (app : ControlledApp)
    (candidate : Candidate) : CgroupId × Candidate :=
  let resolved := resolveControlledTarget (view.usage app) app candidate
  (orElseName (resolved.1.getD "") (candidate.recordId.getD ""), resolved.2)

/-- An uncontrolled candidate is addressed by its sampled cgroup; the sys arm
keeps the sample's id for display. -/
def sampledTarget (channel : Channel) (candidate : Candidate) :
    CgroupId × Candidate :=
  match channel with
  | .sys =>
    if candidate.spelledCgroup = "" then
      (candidate.recordId.getD "", candidate)
    else
      (candidate.spelledCgroup,
        { candidate with publicAppId := candidate.recordId })
  | .diskIo =>
    (orElseName candidate.sampledCgroup (candidate.recordId.getD ""), candidate)

/-- The id a cap is written under and the candidate as the arm rewrites it. -/
def SelectionView.target (view : SelectionView) (channel : Channel)
    (candidate : Candidate) : CgroupId × Candidate :=
  match view.controlledData candidate with
  | some app => resolveTarget view app candidate
  | none => sampledTarget channel candidate

/-- The selection of one candidate: its target, with the rates of its
priority. -/
def SelectionView.select (view : SelectionView) (channel : Channel)
    (candidate : Candidate) (index : Nat) : Selection :=
  let target := view.target channel candidate
  let priority := orUndefined (view.priority candidate)
  { isControlled := (view.controlledData candidate).isSome
    appId := target.1
    limitRates := getLimitedRates view.policy priority none
    targetApp := { target.2 with resolvedPriority := some priority }
    index }

/-- `_handle_critical_pressure`: the first candidate, unless the machine is
busy with many small apps or the app is critical. -/
def handleCriticalPressure (view : SelectionView)
    (topConsumers : List Candidate)
    (reachThreshold : Bool) : Option Selection :=
  match topConsumers with
  | [] => none
  | candidate :: _ =>
    if view.isSysBusy && !reachThreshold then none
    else if (view.controlledData candidate).isSome &&
        view.priority candidate = some "critical" then none
    else some (view.select .sys candidate 0)

/-- A candidate is already under an auto disk cap, under any of its ids. -/
def alreadyIoLimited (view : SelectionView) (registry : LimitRegistry)
    (candidate : Candidate) : Bool :=
  ([candidate.recordId.getD "", candidate.sampledCgroup,
    ((view.controlledData candidate).map (·.appId)).getD ""].filter
      (· ≠ "")).any fun ident =>
    (registry.byAnyId ident .auto).any fun app => app.2.limitParts.ioLimited

/-- A candidate the disk arm may throttle. -/
def throttleable (view : SelectionView) (registry : LimitRegistry)
    (candidate : Candidate) : Bool :=
  candidate.recordId.getD "" ≠ "" &&
  !((view.controlledData candidate).isSome &&
    lowerCase ((view.priority candidate).getD "None") = "critical") &&
  (registry.isExcluded (candidate.recordId.getD "")
    (lowerCase (candidate.processName.getD ""))
    (candidate.extraCgroups ++ [candidate.sampledCgroup])).isNone &&
  !alreadyIoLimited view registry candidate &&
  qualifiesForThrottle (candidateFloors view.configuredFloors)
    view.mediaForDisk (view.processIo candidate)

/-- `_handle_disk_io_stressed`: the first throttleable candidate, outside the
quiet window of a reclaim. -/
def handleDiskIoStressed (view : SelectionView) (registry : LimitRegistry)
    (topConsumers : List Candidate) : Option Selection :=
  if view.inReclaimQuietWindow then none
  else
    (topConsumers.zipIdx.find? fun candidate =>
      throttleable view registry candidate.1).map fun candidate =>
        view.select .diskIo candidate.1 candidate.2

def selectTarget (view : SelectionView) (registry : LimitRegistry)
    (state : MonitorLoopState) : Channel → Option Selection
  | .sys => handleCriticalPressure view state.topConsumeApps
      state.reachThreshold
  | .diskIo => handleDiskIoStressed view registry state.topConsumeApps

end SmarTune
