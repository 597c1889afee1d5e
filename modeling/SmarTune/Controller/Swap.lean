import SmarTune.Balancer.Rates
import SmarTune.Library.UnicodeText
import Mathlib.Data.List.MinMax
import Mathlib.Data.List.Sort

/-!
# Swap headroom

`SwapController` grows swap by managed files ahead of time and gives them back
once memory has been relaxed for long.  Growth is judged on the worst sample of
a window, the shrink timer on each raw sample.  Fractions are rationals and
sizes are bytes.
-/

namespace SmarTune

/-! ## Constants and configuration -/

def megabyte : Nat := 1024 * 1024

def gigabyte : Nat := 1024 * megabyte

/-- `SWAPOFF_HEADROOM_RATIO`. -/
def swapoffHeadroomRatio : ℚ := 6 / 5

/-- `SHRINK_HYSTERESIS`. -/
def shrinkHysteresis : ℚ := 3 / 20

/-- `SHRINK_IDLE_SEC`. -/
def shrinkIdleSec : ℚ := 600

/-- `GROW_LEAD_SEC`. -/
def growLeadSec : ℚ := 90

/-- `MIN_SLOPE_SPAN_SEC`. -/
def minSlopeSpanSec : ℚ := 5

/-- `DYNAMIC_GROWTH_FS`. -/
def dynamicGrowthFs : List String := ["ext4", "xfs"]

/-- `CONDITIONAL_GROWTH_FS`. -/
def conditionalGrowthFs : List String := ["btrfs"]

/-- `growth_config`, with `SWAP_GROWTH_DEFAULTS`; zswap's keys are left out. -/
structure GrowthConfig where
  enabled : Bool := false
  growMemWatermark : ℚ := 4 / 5
  growSwapWatermark : ℚ := 1 / 2
  growSwapCritical : ℚ := 1 / 10
  pressureWindowSec : ℚ := 30
  stepRatio : ℚ := 1 / 4
  maxSwapRatio : ℚ := 2
  diskReservePct : ℚ := 10
  diskReserveMinGb : ℚ := 20
  path : String := "/var/lib/smartune/swap"
  allowFs : List String := ["ext4", "xfs"]

/-- The filesystems a managed file may be put on. -/
def GrowthConfig.supportsFs (config : GrowthConfig) (fstype : String) : Bool :=
  let allowed := if config.allowFs = [] then ["ext4", "xfs"]
    else config.allowFs
  allowed.contains fstype && dynamicGrowthFs.contains fstype

/-! ## Memory snapshots -/

/-- The fields of `/proc/meminfo` in use. -/
structure MemorySnapshot where
  memTotal : Nat
  memAvailable : Nat
  anonPages : Nat
  swapTotal : Nat
  swapFree : Nat
  deriving DecidableEq, Repr

namespace MemorySnapshot

variable (snapshot : MemorySnapshot)

/-- Memory that is genuinely unavailable. -/
def usedEffective : Nat := snapshot.memTotal - snapshot.memAvailable

def usedFraction : ℚ :=
  if snapshot.memTotal = 0 then 0
  else snapshot.usedEffective / snapshot.memTotal

def swapUsed : Nat := snapshot.swapTotal - snapshot.swapFree

/-- The share of swap still free; none is free when there is no swap. -/
def swapFreeFraction : ℚ :=
  if snapshot.swapTotal = 0 then 0
  else snapshot.swapFree / snapshot.swapTotal

/-- Anonymous memory not yet in swap. -/
def movableAnon : Nat := snapshot.anonPages - snapshot.swapUsed

end MemorySnapshot

/-! ## The window and the shrink timer -/

/-- The state of `SwapController`. -/
structure SwapController where
  /-- `_window`, the oldest sample first. -/
  window : List (ℚ × MemorySnapshot)
  /-- `_relaxed_since`. -/
  relaxedSince : Option ℚ

namespace SwapController

/-- A controller without samples. -/
def fresh : SwapController := ⟨[], none⟩

/-- `shrink_watermark`. -/
def shrinkWatermark (config : GrowthConfig) : ℚ :=
  max 0 (config.growMemWatermark - shrinkHysteresis)

/-- `sample`. -/
def sample (controller : SwapController) (config : GrowthConfig) (now : ℚ)
    (snapshot : MemorySnapshot) : SwapController :=
  if snapshot.memTotal = 0 then controller
  else
    { window := (controller.window ++ [(now, snapshot)]).dropWhile fun entry =>
        entry.1 < now - config.pressureWindowSec
      relaxedSince :=
        if snapshot.usedFraction < shrinkWatermark config then
          controller.relaxedSince.or (some now)
        else none }

variable (controller : SwapController)

/-- `relaxed_for`. -/
def relaxedFor (now : ℚ) : ℚ :=
  match controller.relaxedSince with
  | none => 0
  | some since => max 0 (now - since)

/-- `_window_span`: the span, the oldest and the newest sample. -/
def windowSpan : Option (ℚ × MemorySnapshot × MemorySnapshot) :=
  match controller.window.head?, controller.window.getLast? with
  | some first, some last =>
    if controller.window.length < 2 then none
    else some (last.1 - first.1, first.2, last.2)
  | _, _ => none

def lowest (field : MemorySnapshot → Nat) (snapshot : MemorySnapshot)
    (samples : List (ℚ × MemorySnapshot)) : Nat :=
  (samples.map fun entry => field entry.2).foldl min (field snapshot)

/-- `swap_eta`: the seconds until swap is exhausted at the window's rate. -/
def swapEta : Option ℚ :=
  match controller.windowSpan with
  | none => none
  | some (span, first, last) =>
    if span < minSlopeSpanSec then none
    else if last.swapTotal = 0 then none
    else
      let rate := ((first.swapFree : ℚ) - last.swapFree) / span
      if rate ≤ 0 then none
      else
        let remaining := lowest (·.swapFree) first controller.window
        some (max 0 (remaining / rate))

/-- The samples `worst_recent` looks at. -/
def recent (config : GrowthConfig) (now : ℚ) : List (ℚ × MemorySnapshot) :=
  controller.window.filter fun entry => now - config.pressureWindowSec ≤ entry.1

/-- `worst_recent`. -/
def worstRecent (config : GrowthConfig) (now : ℚ)
    (snapshot : MemorySnapshot) : MemorySnapshot :=
  { snapshot with
    memAvailable := lowest (·.memAvailable) snapshot
      (controller.recent config now)
    swapFree := lowest (·.swapFree) snapshot (controller.recent config now) }

end SwapController

/-! ## Planning -/

/-- Why `plan_growth` grows, or does not. -/
inductive GrowthReason
  | disabled
  | meminfoUnavailable
  | memoryBelowWatermark
  | swapRoomy
  | filesystemUnsupported
  | filesystemNeedsNodatacow
  | atRatioCap
  | diskReserve
  | swapCritical
  | swapDraining
  | bothWatermarks
  deriving DecidableEq, Repr

/-- The disk the managed files are put on. -/
structure DiskSpace where
  total : Nat
  available : Nat
  fstype : String
  deriving DecidableEq, Repr

/-- `GrowthPlan`, its details included. -/
structure GrowthPlan where
  shouldGrow : Bool
  reason : GrowthReason
  growBytes : Int
  stepBytes : Int
  ratioCapBytes : Int
  diskCapBytes : Int
  fstype : String
  fsSupported : Bool
  swapCannotHelp : Bool
  snapshot : MemorySnapshot
  deficitBytes : Int
  movableAnonBytes : Nat
  diskReserveBytes : Int
  diskAvailableBytes : Nat
  swapDir : String

namespace GrowthConfig

variable (config : GrowthConfig)

/-- One growth step. -/
def stepBytes (snapshot : MemorySnapshot) : Int :=
  pyInt (snapshot.memTotal * config.stepRatio)

/-- What the share of memory still allows. -/
def ratioCapBytes (snapshot : MemorySnapshot) : Int :=
  max 0 (pyInt (snapshot.memTotal * config.maxSwapRatio) - snapshot.swapTotal)

/-- The part of the disk that is kept free. -/
def diskReserveBytes (disk : DiskSpace) : Int :=
  max (pyInt (disk.total * config.diskReservePct / 100))
    (pyInt (config.diskReserveMinGb * gigabyte))

/-- What the disk still allows. -/
def diskCapBytes (disk : DiskSpace) : Int :=
  max 0 (disk.available - config.diskReserveBytes disk)

/-- The size of the next file. -/
def growBytes (snapshot : MemorySnapshot) (disk : DiskSpace) : Int :=
  min (config.stepBytes snapshot)
    (min (config.ratioCapBytes snapshot) (config.diskCapBytes disk))

/-- Swap is almost gone. -/
def swapExhausted (snapshot : MemorySnapshot) : Bool :=
  snapshot.swapFreeFraction ≤ config.growSwapCritical

/-- Memory is above its watermark. -/
def memoryHigh (snapshot : MemorySnapshot) : Bool :=
  config.growMemWatermark ≤ snapshot.usedFraction

/-- Swap is above its watermark. -/
def swapRoomy (snapshot : MemorySnapshot) : Bool :=
  config.growSwapWatermark < snapshot.swapFreeFraction

/-- Memory is high and swap is about to run out. -/
def swapDraining (snapshot : MemorySnapshot) (eta : Option ℚ) : Bool :=
  config.memoryHigh snapshot && eta.any (· ≤ growLeadSec)

/-- The arm of `plan_growth` that asks for growth, or why none does. -/
def trigger (snapshot : MemorySnapshot)
    (eta : Option ℚ) : Except GrowthReason GrowthReason :=
  if config.swapExhausted snapshot then .ok .swapCritical
  else if config.swapDraining snapshot eta then .ok .swapDraining
  else if !config.memoryHigh snapshot then .error .memoryBelowWatermark
  else if config.swapRoomy snapshot then .error .swapRoomy
  else .ok .bothWatermarks

/-- The decision of `plan_growth` on a snapshot, with the drain it sees. -/
def decideGrowth (snapshot : MemorySnapshot) (eta : Option ℚ)
    (disk : DiskSpace) : Except GrowthReason GrowthReason :=
  if !config.enabled then .error .disabled
  else if snapshot.memTotal = 0 then .error .meminfoUnavailable
  else
    match config.trigger snapshot eta with
    | .error reason => .error reason
    | .ok arm =>
      if !config.supportsFs disk.fstype then
        .error (if conditionalGrowthFs.contains disk.fstype
          then .filesystemNeedsNodatacow else .filesystemUnsupported)
      else if config.growBytes snapshot disk ≤ 0 then
        .error (if config.ratioCapBytes snapshot ≤ 0
          then .atRatioCap else .diskReserve)
      else .ok arm

end GrowthConfig

namespace SwapController

/-- `plan_growth`. -/
def planGrowth (controller : SwapController) (config : GrowthConfig) (now : ℚ)
    (snapshot : MemorySnapshot) (disk : DiskSpace) : GrowthPlan :=
  let snapshot := controller.worstRecent config now snapshot
  let deficit := max 0 ((snapshot.usedEffective : Int) -
    pyInt (snapshot.memTotal * config.growMemWatermark))
  let decision := config.decideGrowth snapshot controller.swapEta disk
  { shouldGrow := decision.isOk
    reason := match decision with
      | .ok reason | .error reason => reason
    growBytes := if decision.isOk then config.growBytes snapshot disk else 0
    stepBytes := config.stepBytes snapshot
    ratioCapBytes := config.ratioCapBytes snapshot
    diskCapBytes := config.diskCapBytes disk
    fstype := disk.fstype
    fsSupported := config.supportsFs disk.fstype
    swapCannotHelp := deficit ≠ 0 && snapshot.movableAnon < deficit
    snapshot := snapshot
    deficitBytes := deficit
    movableAnonBytes := snapshot.movableAnon
    diskReserveBytes := config.diskReserveBytes disk
    diskAvailableBytes := disk.available
    swapDir := config.path }

end SwapController

/-! ## The managed files -/

/-- A path, split as `os.path.split` does. -/
structure SwapPath where
  directory : String
  name : String
  deriving DecidableEq, Repr

/-- A line of `/proc/swaps`. -/
structure SwapDevice where
  path : SwapPath
  sizeBytes : Nat
  usedBytes : Nat
  deriving DecidableEq, Repr

/-- The number in a name that `MANAGED_NAME_RE` matches; `$` also matches before
a line feed that ends the name. -/
def managedIndex (name : String) : Option Nat :=
  match name.toList with
  | 's' :: 'w' :: 'a' :: 'p' :: '-' :: rest =>
    let digits := rest.takeWhile UnicodeText.isDecimal
    let tail := rest.dropWhile UnicodeText.isDecimal
    if 2 ≤ digits.length ∧ (tail = ".img".toList ∨ tail = ".img\n".toList) then
      some (UnicodeText.numeral digits)
    else none
  | _ => none

/-- `MANAGED_NAME_FMT`. -/
def managedName (index : Nat) : String :=
  "swap-" ++ (if index < 10 then "0" else "") ++ toString index ++ ".img"

/-- The machine the controller reads and changes. -/
structure SwapMachine where
  memTotal : Nat
  memAvailable : Nat
  anonPages : Nat
  /-- `/proc/swaps`. -/
  devices : List SwapDevice
  /-- The names in the managed directory. -/
  files : List String
  disk : DiskSpace
  deriving DecidableEq, Repr

namespace SwapMachine

variable (machine : SwapMachine) (config : GrowthConfig)

/-- `read_meminfo`. -/
def snapshot : MemorySnapshot where
  memTotal := machine.memTotal
  memAvailable := machine.memAvailable
  anonPages := machine.anonPages
  swapTotal := machine.devices.foldr (fun device total =>
    device.sizeBytes + total) 0
  swapFree := machine.devices.foldr (fun device total =>
    device.sizeBytes - device.usedBytes + total) 0

/-- `managed_devices`. -/
def managedDevices : List SwapDevice :=
  machine.devices.filter fun device =>
    device.path.directory = config.path &&
      (managedIndex device.path.name).isSome

/-- `managed_files_on_disk`. -/
def managedFilesOnDisk : List String :=
  (machine.files.filter fun name => (managedIndex name).isSome).insertionSort
    (· ≤ ·)

/-- `next_managed_path`: the first unused name. -/
def nextManagedPath : SwapPath :=
  let used := machine.files.filterMap managedIndex
  let indices := (List.range (used.length + 1)).map (· + 1)
  ⟨config.path, managedName ((indices.find? (· ∉ used)).getD 1)⟩

end SwapMachine

/-- `should_shrink`. -/
def SwapController.shouldShrink (controller : SwapController)
    (config : GrowthConfig) (now : ℚ) (machine : SwapMachine) : Bool :=
  machine.managedDevices config ≠ [] &&
    decide (shrinkIdleSec ≤ controller.relaxedFor now)

/-! ## Growing -/

/-- The ways `_allocate` creates a file. -/
inductive Allocator
  | fallocate
  | write
  deriving DecidableEq, Repr

/-- What the environment answers to one `grow`. -/
structure GrowOutcomes where
  /-- The managed directory could be prepared. -/
  prepared : Bool
  /-- `_try_make_swap`: the size the kernel swaps on, if all steps succeed. -/
  swapon : Allocator → Option Nat

/-- Why `grow` did what it did. -/
inductive GrowOutcome
  | notPlanned
  | filesystemNotAllowed
  | diskShrank
  | dryRun
  | directoryNotPrepared
  | added (allocator : Allocator)
  | notBroughtUp
  deriving DecidableEq, Repr

/-- `ActionResult` of `grow`. -/
structure GrowResult where
  ok : Bool
  outcome : GrowOutcome
  path : Option SwapPath
  bytes : Int
  deriving DecidableEq, Repr

namespace SwapMachine

/-- A swapped-on file. -/
def switchOn (machine : SwapMachine) (path : SwapPath)
    (size : Nat) : SwapMachine :=
  { machine with
    devices := machine.devices ++ [⟨path, size, 0⟩]
    files := machine.files ++ [path.name] }

/-- `grow`. -/
def grow (machine : SwapMachine) (config : GrowthConfig) (plan : GrowthPlan)
    (dryRun : Bool) (outcomes : GrowOutcomes) : GrowResult × SwapMachine :=
  if !plan.shouldGrow then
    (⟨false, .notPlanned, none, plan.growBytes⟩, machine)
  else if !config.supportsFs machine.disk.fstype then
    (⟨false, .filesystemNotAllowed, none, plan.growBytes⟩, machine)
  else if machine.disk.available - plan.diskReserveBytes < plan.growBytes then
    (⟨false, .diskShrank, none, plan.growBytes⟩, machine)
  else
    let path := machine.nextManagedPath config
    if dryRun then (⟨true, .dryRun, some path, plan.growBytes⟩, machine)
    else if !outcomes.prepared then
      (⟨false, .directoryNotPrepared, some path, plan.growBytes⟩, machine)
    else
      match outcomes.swapon .fallocate with
      | some size =>
        (⟨true, .added .fallocate, some path, plan.growBytes⟩,
          machine.switchOn path size)
      | none =>
        match outcomes.swapon .write with
        | some size =>
          (⟨true, .added .write, some path, plan.growBytes⟩,
            machine.switchOn path size)
        | none => (⟨false, .notBroughtUp, some path, plan.growBytes⟩, machine)

end SwapMachine

/-! ## Releasing -/

/-- Why `release` did what it did with a file. -/
inductive ReleaseReason
  | deferred
  | inUse
  | unsafe_
  | dryRun
  | swapoffFailed
  | released
  | orphan
  deriving DecidableEq, Repr

/-- `ActionResult` of `release`. -/
structure ReleaseResult where
  path : SwapPath
  bytes : Nat
  ok : Bool
  reason : ReleaseReason
  deriving DecidableEq, Repr

/-- The arguments of `release`. -/
structure ReleaseOptions where
  dryRun : Bool
  onlyUnused : Bool
  limit : Option Nat
  deriving DecidableEq, Repr

namespace SwapDevice

/-- The memory a release has to have in hand. -/
def needed (device : SwapDevice) : Int :=
  pyInt (device.usedBytes * swapoffHeadroomRatio)

end SwapDevice

namespace SwapMachine

/-- The file is deleted. -/
def discard (machine : SwapMachine) (name : String) : SwapMachine :=
  { machine with files := machine.files.filter (· ≠ name) }

/-- `swapoff` faults the pages of the file back into memory; then the file is
deleted. -/
def switchOff (machine : SwapMachine) (device : SwapDevice) : SwapMachine :=
  { machine with
    memAvailable := machine.memAvailable - device.usedBytes
    anonPages := machine.anonPages + device.usedBytes
    devices := machine.devices.filter (·.path ≠ device.path) }.discard
      device.path.name

/-- The loop of `release` over the active files. -/
def releaseEach (options : ReleaseOptions) (swapoff : SwapDevice → Bool) :
    List SwapDevice → Int → Nat → SwapMachine → List ReleaseResult × SwapMachine
  | [], _, _, machine => ([], machine)
  | device :: rest, headroom, released, machine =>
    let kept := fun reason =>
      let others := releaseEach options swapoff rest headroom released machine
      (⟨device.path, device.usedBytes, false, reason⟩ :: others.1, others.2)
    let given := fun reason machine =>
      let others := releaseEach options swapoff rest
        (headroom - device.needed) (released + 1) machine
      (⟨device.path, device.usedBytes, true, reason⟩ :: others.1, others.2)
    if options.limit.any (· ≤ released) then kept .deferred
    else if options.onlyUnused && decide (0 < device.usedBytes) then
      kept .inUse
    else if headroom < device.needed then kept .unsafe_
    else if options.dryRun then given .dryRun machine
    else if swapoff device then given .released (machine.switchOff device)
    else kept .swapoffFailed

/-- The active files, the emptiest first. -/
def emptiestFirst (machine : SwapMachine)
    (config : GrowthConfig) : List SwapDevice :=
  (machine.managedDevices config).insertionSort fun first second =>
    first.usedBytes ≤ second.usedBytes

/-- The managed files on disk that are not swapped on. -/
def orphans (machine : SwapMachine) (config : GrowthConfig)
    (active : List SwapDevice) : List String :=
  machine.managedFilesOnDisk.filter fun name =>
    ⟨config.path, name⟩ ∉ active.map (·.path)

/-- `release`. -/
def release (machine : SwapMachine) (config : GrowthConfig)
    (options : ReleaseOptions)
    (swapoff : SwapDevice → Bool) : List ReleaseResult × SwapMachine :=
  let active := machine.emptiestFirst config
  let result := releaseEach options swapoff active machine.memAvailable 0
    machine
  let stillActive := if options.dryRun then active
    else result.2.managedDevices config
  let orphaned := result.2.orphans config stillActive
  (result.1 ++ orphaned.map fun name =>
      ⟨⟨config.path, name⟩, 0, true, .orphan⟩,
    if options.dryRun then result.2 else orphaned.foldl discard result.2)

end SwapMachine

end SmarTune
