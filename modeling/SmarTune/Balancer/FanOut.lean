import SmarTune.Controller.ControlManager
import SmarTune.Controller.Io

/-!
# Fanning one call out over an app's cgroups

Every limit and restore path calls the same controller for the primary cgroup
and then for each extra one.  All writes land, but only the primary's result is
reported.
-/

namespace SmarTune

abbrev ControllerCall := Bool × List KernelWrite

/-- Call a controller for each cgroup by position and report the first
result. -/
def fanOut (call : Nat → CgroupId → ControllerCall)
    (cgroups : List CgroupId) : ControllerCall :=
  ((cgroups.head?.map fun primary => (call 0 primary).1).getD true,
    cgroups.zipIdx.flatMap fun target => (call target.2 target.1).2)

@[simp] theorem fanOut_cons_result (call : Nat → CgroupId → ControllerCall)
    (primary : CgroupId) (extras : List CgroupId) :
    (fanOut call (primary :: extras)).1 = (call 0 primary).1 := rfl

theorem mem_fanOut_writes {call : Nat → CgroupId → ControllerCall}
    {cgroups : List CgroupId} {write : KernelWrite} :
    write ∈ (fanOut call cgroups).2 ↔
      ∃ position cgroup, cgroups[position]? = some cgroup ∧
        write ∈ (call position cgroup).2 := by
  simp only [fanOut, List.mem_flatMap, Prod.exists,
    List.mem_zipIdx_iff_getElem?]
  constructor
  · rintro ⟨cgroup, position, located, member⟩
    exact ⟨position, cgroup, located, member⟩
  · rintro ⟨position, cgroup, located, member⟩
    exact ⟨cgroup, position, located, member⟩

/-- The `adjust_resources` calls of a fan-out. -/
def adjustEach (policy : AdjustPolicy)
    (cpuQuota memHigh : CgroupId → Option Int)
    (outcome : Nat → AdjustOutcome) : Nat → CgroupId → ControllerCall :=
  fun position cgroup =>
    adjustResources cgroup policy (cpuQuota cgroup) (memHigh cgroup)
      (outcome position)

/-- The limiting `set_disk_io_throttle` calls of a fan-out. -/
def throttleEach (limits : IoLimits) (diskFilter : List DiskName)
    (outcome : Nat → IoCallOutcome) : Nat → CgroupId → ControllerCall :=
  fun position cgroup =>
    setDiskIoThrottle cgroup limits diskFilter false (outcome position)

/-- The `restore_disk_io_throttle` calls of a fan-out. -/
def unthrottleEach (diskFilter : List DiskName)
    (outcome : Nat → IoCallOutcome) : Nat → CgroupId → ControllerCall :=
  fun position cgroup =>
    restoreDiskIoThrottle cgroup diskFilter (outcome position)

section Writes

variable {cgroups : List CgroupId} {write : KernelWrite}

theorem adjustEach_writes {policy : AdjustPolicy}
    {cpuQuota memHigh : CgroupId → Option Int} {outcome : Nat → AdjustOutcome}
    (limiting : policy ≠ .low)
    (member : write ∈
      (fanOut (adjustEach policy cpuQuota memHigh outcome) cgroups).2) :
    ∃ cgroup ∈ cgroups, ∃ cap, cap ≠ .unlimited ∧
      write = .quota cgroup cap := by
  obtain ⟨position, cgroup, located, written⟩ := mem_fanOut_writes.mp member
  have listed := List.mem_of_getElem? located
  cases policy with
  | low => exact absurd rfl limiting
  | medium =>
    rw [adjustEach, adjustResources_medium] at written
    exact ⟨cgroup, listed, adjustResources_critical_writes written⟩
  | critical => exact ⟨cgroup, listed, adjustResources_critical_writes written⟩

/-- A restoring fan-out over the CPU/memory channel lifts caps of the listed
cgroups. -/
theorem adjustEach_low_writes {cpuQuota memHigh : CgroupId → Option Int}
    {outcome : Nat → AdjustOutcome} :
    write ∈ (fanOut (adjustEach .low cpuQuota memHigh outcome) cgroups).2 ↔
      ∃ position cgroup, cgroups[position]? = some cgroup ∧
        (outcome position).setProperty = true ∧
        write = .quota cgroup .unlimited := by
  rw [mem_fanOut_writes]
  apply exists_congr
  intro position
  apply exists_congr
  intro cgroup
  apply and_congr_right
  intro _
  rw [adjustEach, adjustResources_low]
  cases (outcome position).setProperty <;> simp

theorem throttleEach_writes {limits : IoLimits} {diskFilter : List DiskName}
    {outcome : Nat → IoCallOutcome}
    (member : write ∈
      (fanOut (throttleEach limits diskFilter outcome) cgroups).2) :
    ∃ cgroup ∈ cgroups, ∃ disk line,
      diskMatches diskFilter disk = true ∧ line ≠ .unlimited ∧
      write = .ioMax cgroup disk line := by
  obtain ⟨position, cgroup, located, written⟩ := mem_fanOut_writes.mp member
  exact ⟨cgroup, List.mem_of_getElem? located,
    setDiskIoThrottle_limit_writes written⟩

theorem unthrottleEach_writes {diskFilter : List DiskName}
    {outcome : Nat → IoCallOutcome}
    (member : write ∈ (fanOut (unthrottleEach diskFilter outcome) cgroups).2) :
    ∃ cgroup ∈ cgroups, ∃ disk, diskMatches diskFilter disk = true ∧
      write = .ioCleared cgroup disk := by
  obtain ⟨position, cgroup, located, written⟩ := mem_fanOut_writes.mp member
  exact ⟨cgroup, List.mem_of_getElem? located,
    restoreDiskIoThrottle_writes written⟩

end Writes

/-! ## Caps a list of writes installs or lifts -/

/-- Some write of the list puts the cap in force. -/
def Lands (writes : List KernelWrite) (cap : Cap) : Prop :=
  ∃ write ∈ writes, write.Installs cap

/-- Some write of the list lifts the cap. -/
def Clears (writes : List KernelWrite) (cap : Cap) : Prop :=
  ∃ write ∈ writes, write.Lifts cap

instance (writes : List KernelWrite) : DecidablePred (Lands writes) :=
  fun cap => inferInstanceAs
    (Decidable (∃ write ∈ writes, KernelWrite.Installs write cap))

instance (writes : List KernelWrite) : DecidablePred (Clears writes) :=
  fun cap => inferInstanceAs
    (Decidable (∃ write ∈ writes, KernelWrite.Lifts write cap))

@[simp] theorem not_lands_nil (cap : Cap) : ¬ Lands [] cap := by
  simp [Lands]

@[simp] theorem not_clears_nil (cap : Cap) : ¬ Clears [] cap := by
  simp [Clears]

theorem clears_append (first second : List KernelWrite) (cap : Cap) :
    Clears (first ++ second) cap ↔ Clears first cap ∨ Clears second cap := by
  simp only [Clears, List.mem_append, or_and_right, exists_or]

def Limiting (writes : List KernelWrite) : Prop :=
  ∀ write ∈ writes, ∀ cap, ¬ write.Lifts cap

def Restoring (writes : List KernelWrite) : Prop :=
  ∀ write ∈ writes, ∀ cap, ¬ write.Installs cap

variable {first second writes : List KernelWrite}

theorem Limiting.append (firstLimiting : Limiting first)
    (secondLimiting : Limiting second) :
    Limiting (first ++ second) := by
  intro write member
  rcases List.mem_append.mp member with inFirst | inSecond
  · exact firstLimiting write inFirst
  · exact secondLimiting write inSecond

@[simp] theorem limiting_nil : Limiting [] := by
  simp [Limiting]

@[simp] theorem restoring_nil : Restoring [] := by
  simp [Restoring]

theorem Restoring.append (firstRestoring : Restoring first)
    (secondRestoring : Restoring second) :
    Restoring (first ++ second) := by
  intro write member
  rcases List.mem_append.mp member with inFirst | inSecond
  · exact firstRestoring write inFirst
  · exact secondRestoring write inSecond

theorem inForce_writeAll_of_limiting (limiting : Limiting writes)
    (kernel : Kernel) (cap : Cap) :
    (kernel.writeAll writes).InForce cap ↔
      kernel.InForce cap ∨ Lands writes cap :=
  Kernel.inForce_writeAll_of_no_lifts limiting kernel cap

theorem inForce_writeAll_of_restoring (restoring : Restoring writes)
    (kernel : Kernel) (cap : Cap) :
    (kernel.writeAll writes).InForce cap ↔
      kernel.InForce cap ∧ ¬ Clears writes cap := by
  rw [Kernel.inForce_writeAll_of_no_installs restoring]
  simp [Clears]

theorem limiting_adjustEach {policy : AdjustPolicy} (isLimiting : policy ≠ .low)
    (cpuQuota memHigh : CgroupId → Option Int) (outcome : Nat → AdjustOutcome)
    (cgroups : List CgroupId) :
    Limiting
      (fanOut (adjustEach policy cpuQuota memHigh outcome) cgroups).2 := by
  intro write member cap lifts
  obtain ⟨cgroup, _, quota, limited, rfl⟩ :=
    adjustEach_writes isLimiting member
  exact limited lifts.2

theorem restoring_adjustEach (cpuQuota memHigh : CgroupId → Option Int)
    (outcome : Nat → AdjustOutcome) (cgroups : List CgroupId) :
    Restoring
      (fanOut (adjustEach .low cpuQuota memHigh outcome) cgroups).2 := by
  intro write member cap installs
  obtain ⟨_, cgroup, _, _, rfl⟩ := adjustEach_low_writes.mp member
  exact installs.2 rfl

theorem limiting_throttleEach (limits : IoLimits) (diskFilter : List DiskName)
    (outcome : Nat → IoCallOutcome) (cgroups : List CgroupId) :
    Limiting (fanOut (throttleEach limits diskFilter outcome) cgroups).2 := by
  intro write member cap lifts
  obtain ⟨cgroup, _, disk, line, _, _, rfl⟩ := throttleEach_writes member
  exact lifts

theorem restoring_unthrottleEach (diskFilter : List DiskName)
    (outcome : Nat → IoCallOutcome) (cgroups : List CgroupId) :
    Restoring (fanOut (unthrottleEach diskFilter outcome) cgroups).2 := by
  intro write member cap installs
  obtain ⟨cgroup, _, disk, _, rfl⟩ := unthrottleEach_writes member
  exact installs

end SmarTune
