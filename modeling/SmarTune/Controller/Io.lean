import SmarTune.Controller.Kernel
import Mathlib.Data.List.Infix

/-!
# `io.max` writes

`set_disk_io_throttle` writes one `io.max` line for each physical disk that
`lsblk` lists and the filter admits.  A filter is a list of names matched as
substrings, ignoring case; the empty filter admits every disk.  The call reports
success only when every line was accepted, but the accepted lines stay.
-/

namespace SmarTune

/-- A device number `major:minor`. -/
abbrev DeviceId := String

/-- A name as the filter compares it. -/
def lowered (name : String) : List Char := name.toList.map Char.toLower

/-- `get_disk_id`'s filter: no filter admits all, a filter admits the names
that contain one of its members. -/
def diskMatches (diskFilter : List DiskName) (name : DiskName) : Bool :=
  diskFilter.isEmpty ||
    diskFilter.any fun wanted => decide (lowered wanted <:+: lowered name)

@[simp] theorem diskMatches_nil (name : DiskName) :
    diskMatches [] name = true := rfl

theorem diskMatches_mono {smaller larger : List DiskName} {name : DiskName}
    (contained : ∀ disk ∈ smaller, disk ∈ larger) (nonempty : smaller ≠ [])
    (admitted : diskMatches smaller name = true) :
    diskMatches larger name = true := by
  simp only [diskMatches, Bool.or_eq_true, List.isEmpty_iff, nonempty,
    false_or, List.any_eq_true, decide_eq_true_eq] at admitted ⊢
  obtain ⟨wanted, member, infixOf⟩ := admitted
  exact Or.inr ⟨wanted, contained wanted member, infixOf⟩

/-- What the environment answers to the write of one `io.max` line. -/
structure DiskWriteOutcome where
  /-- The `io.max` file is there. -/
  present : Bool
  /-- The first write is accepted. -/
  first : Bool
  /-- After a refusal the controller can be enabled again. -/
  reenabled : Bool
  /-- The write after that is accepted. -/
  retry : Bool
  deriving DecidableEq, Repr

/-- The line is accepted at once or at the single retry. -/
def DiskWriteOutcome.accepted (outcome : DiskWriteOutcome) : Bool :=
  outcome.first || (outcome.reenabled && outcome.retry)

/-- What the environment answers to one `set_disk_io_throttle` call. -/
structure IoCallOutcome where
  /-- The physical disks `lsblk` lists; empty when it fails. -/
  disks : List (DiskName × DeviceId)
  /-- The cgroup directory was found. -/
  pathFound : Bool
  /-- The io controller is enabled on the way to the cgroup. -/
  ioEnabled : Bool
  /-- The answer to the line of each disk. -/
  line : DiskName → DiskWriteOutcome

/-- The listed disks accept every line at once. -/
def IoCallOutcome.accepting
    (disks : List (DiskName × DeviceId)) : IoCallOutcome where
  disks := disks
  pathFound := true
  ioEnabled := true
  line := fun _ => ⟨true, true, true, true⟩

/-- `get_disk_id`. -/
def getDiskId (diskFilter : List DiskName)
    (outcome : IoCallOutcome) : List (DiskName × DeviceId) :=
  outcome.disks.filter fun disk => diskMatches diskFilter disk.1

/-- A limit map: `"default"`, device numbers and disk names to limits. -/
abbrev IoLimits := List (String × DiskLimits)

/-- The limits of one disk: the default, then the entry of its device number,
then the entry of its name. -/
def diskLimits (limits : IoLimits) (disk : DiskName × DeviceId) : DiskLimits :=
  let entry := fun key => (limits.lookup key).getD .unlimited
  ((entry "default").update (entry disk.2)).update (entry disk.1)

/-- One round of the loop over the disks. -/
def throttleDisk (cgroup : CgroupId) (limits : IoLimits) (isRestore : Bool)
    (outcome : IoCallOutcome)
    (disk : DiskName × DeviceId) : Bool × List KernelWrite :=
  let answer := outcome.line disk.1
  if isRestore then
    -- A missing `io.max` means the controller is detached: nothing is capped.
    if !answer.present then (true, [.ioCleared cgroup disk.1])
    else if answer.accepted then (true, [.ioCleared cgroup disk.1])
    else (false, [])
  else
    let line := diskLimits limits disk
    if line = .unlimited then (true, [])
    else if !answer.present then (false, [])
    else if answer.accepted then (true, [.ioMax cgroup disk.1 line])
    else (false, [])

/-- `set_disk_io_throttle`. -/
def setDiskIoThrottle (cgroup : CgroupId) (limits : IoLimits)
    (diskFilter : List DiskName) (isRestore : Bool)
    (outcome : IoCallOutcome) : Bool × List KernelWrite :=
  let diskMap := getDiskId diskFilter outcome
  if diskMap.isEmpty then (false, [])
  else if !outcome.pathFound then (false, [])
  else if !outcome.ioEnabled then (false, [])
  else
    let rounds := diskMap.map (throttleDisk cgroup limits isRestore outcome)
    (rounds.all Prod.fst, rounds.flatMap Prod.snd)

/-- `restore_disk_io_throttle`. -/
def restoreDiskIoThrottle (cgroup : CgroupId) (diskFilter : List DiskName)
    (outcome : IoCallOutcome) : Bool × List KernelWrite :=
  setDiskIoThrottle cgroup [] diskFilter true outcome

theorem exists_disk_of_mem_setDiskIoThrottle {cgroup : CgroupId}
    {limits : IoLimits} {diskFilter : List DiskName} {isRestore : Bool}
    {outcome : IoCallOutcome} {write : KernelWrite}
    (member : write ∈
      (setDiskIoThrottle cgroup limits diskFilter isRestore outcome).2) :
    ∃ disk ∈ outcome.disks, diskMatches diskFilter disk.1 = true ∧
      write ∈ (throttleDisk cgroup limits isRestore outcome disk).2 := by
  simp only [setDiskIoThrottle] at member
  split at member
  · simp at member
  split at member
  · simp at member
  split at member
  · simp at member
  simp only [List.mem_flatMap, List.mem_map, getDiskId,
    List.mem_filter] at member
  obtain ⟨_, ⟨disk, ⟨listed, admitted⟩, rfl⟩, written⟩ := member
  exact ⟨disk, listed, admitted, written⟩

theorem setDiskIoThrottle_limit_writes {cgroup : CgroupId} {limits : IoLimits}
    {diskFilter : List DiskName} {outcome : IoCallOutcome} {write : KernelWrite}
    (member : write ∈
      (setDiskIoThrottle cgroup limits diskFilter false outcome).2) :
    ∃ disk line, diskMatches diskFilter disk = true ∧ line ≠ .unlimited ∧
      write = .ioMax cgroup disk line := by
  obtain ⟨disk, _, admitted, written⟩ :=
    exists_disk_of_mem_setDiskIoThrottle member
  simp only [throttleDisk, Bool.false_eq_true, if_false] at written
  split at written
  · simp at written
  next limited =>
  split at written
  · simp at written
  split at written
  · exact ⟨disk.1, _, admitted, limited, by simpa using written⟩
  · simp at written

theorem restoreDiskIoThrottle_writes {cgroup : CgroupId}
    {diskFilter : List DiskName} {outcome : IoCallOutcome} {write : KernelWrite}
    (member : write ∈ (restoreDiskIoThrottle cgroup diskFilter outcome).2) :
    ∃ disk, diskMatches diskFilter disk = true ∧
      write = .ioCleared cgroup disk := by
  obtain ⟨disk, _, admitted, written⟩ :=
    exists_disk_of_mem_setDiskIoThrottle member
  refine ⟨disk.1, admitted, ?_⟩
  simp only [throttleDisk, if_true] at written
  split at written
  · simpa using written
  · split at written
    · simpa using written
    · simp at written

/-! ## What a restoring call clears -/

/-- A restoring call clears the `io.max` line of a disk. -/
def IoCallOutcome.ClearsDisk (outcome : IoCallOutcome)
    (diskFilter : List DiskName) (disk : DiskName) : Prop :=
  outcome.pathFound = true ∧ outcome.ioEnabled = true ∧
    diskMatches diskFilter disk = true ∧
    (∃ device, (disk, device) ∈ outcome.disks) ∧
    ((outcome.line disk).present = false ∨ (outcome.line disk).accepted = true)

/-- A restoring call reports success: the filter admits a listed disk and every
admitted line is cleared. -/
def IoCallOutcome.restores (outcome : IoCallOutcome)
    (diskFilter : List DiskName) : Bool :=
  !(getDiskId diskFilter outcome).isEmpty && outcome.pathFound &&
    outcome.ioEnabled &&
    (getDiskId diskFilter outcome).all fun disk =>
      !(outcome.line disk.1).present || (outcome.line disk.1).accepted

theorem throttleDisk_restoring (cgroup : CgroupId) (limits : IoLimits)
    (outcome : IoCallOutcome) (disk : DiskName × DeviceId) :
    throttleDisk cgroup limits true outcome disk =
      if !(outcome.line disk.1).present || (outcome.line disk.1).accepted
      then (true, [.ioCleared cgroup disk.1]) else (false, []) := by
  simp only [throttleDisk, if_true]
  cases (outcome.line disk.1).present <;>
    cases (outcome.line disk.1).accepted <;> rfl

theorem restoreDiskIoThrottle_result (cgroup : CgroupId)
    (diskFilter : List DiskName) (outcome : IoCallOutcome) :
    (restoreDiskIoThrottle cgroup diskFilter outcome).1 =
      outcome.restores diskFilter := by
  simp only [restoreDiskIoThrottle, setDiskIoThrottle, IoCallOutcome.restores]
  cases (getDiskId diskFilter outcome).isEmpty <;>
    cases outcome.pathFound <;> cases outcome.ioEnabled <;>
    simp only [Bool.not_true, Bool.not_false, Bool.false_eq_true, if_true,
      if_false, Bool.false_and, Bool.true_and, List.all_map]
  apply congrArg₂ List.all rfl
  funext disk
  simp only [Function.comp, throttleDisk_restoring]
  split <;> simp_all

theorem mem_restoreDiskIoThrottle_iff (cgroup : CgroupId)
    (diskFilter : List DiskName) (outcome : IoCallOutcome)
    (write : KernelWrite) :
    write ∈ (restoreDiskIoThrottle cgroup diskFilter outcome).2 ↔
      ∃ disk, write = .ioCleared cgroup disk ∧
        outcome.ClearsDisk diskFilter disk := by
  have rounds : write ∈ ((getDiskId diskFilter outcome).map
        (throttleDisk cgroup [] true outcome)).flatMap Prod.snd ↔
      ∃ disk device, (disk, device) ∈ outcome.disks ∧
        diskMatches diskFilter disk = true ∧
        ((outcome.line disk).present = false ∨
          (outcome.line disk).accepted = true) ∧
        write = .ioCleared cgroup disk := by
    rw [List.flatMap_map]
    simp only [List.mem_flatMap, getDiskId, List.mem_filter,
      throttleDisk_restoring, Prod.exists]
    apply exists_congr
    intro disk
    apply exists_congr
    intro device
    cases (outcome.line disk).present <;>
      cases (outcome.line disk).accepted <;> simp [and_assoc]
  simp only [restoreDiskIoThrottle, setDiskIoThrottle]
  cases empty : (getDiskId diskFilter outcome).isEmpty with
  | true =>
    rw [List.isEmpty_iff.mp empty] at rounds
    simp only [if_true, List.not_mem_nil, false_iff]
    rintro ⟨disk, rfl, _, _, admitted, ⟨device, listed⟩, cleared⟩
    simpa using rounds.mpr ⟨disk, device, listed, admitted, cleared, rfl⟩
  | false =>
    cases found : outcome.pathFound <;> cases enabled : outcome.ioEnabled <;>
      simp only [Bool.not_true, Bool.not_false, Bool.false_eq_true, if_true,
        if_false, rounds, IoCallOutcome.ClearsDisk, found, enabled] <;>
      grind

end SmarTune
