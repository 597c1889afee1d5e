import SmarTune.Balancer.Rates

/-!
# Which disks a filter reaches

The balancer passes the names of the stressed disks, or the disks a cap was
recorded on, as the filter of an `io.max` call.  The filter looks for names that
contain a listed one, so it reaches the listed disks alone only on machines
where no other name does.
-/

namespace SmarTune

/-- The calls of a filter reach the listed disks and no others: caps and their
resets only name listed disks, so does the map of scaled limits, and a restore
resets exactly the disks that were capped. -/
structure ReachesListed (disks : List (DiskName × DeviceId))
    (diskFilter : List DiskName) : Prop where
  capped : ∀ cgroup limits outcome, outcome.disks = disks →
    ∀ write ∈ (setDiskIoThrottle cgroup limits diskFilter false outcome).2,
      ∃ disk ∈ diskFilter, ∃ line, write = .ioMax cgroup disk line
  reset : ∀ cgroup outcome, outcome.disks = disks →
    ∀ write ∈ (restoreDiskIoThrottle cgroup diskFilter outcome).2,
      ∃ disk ∈ diskFilter, write = .ioCleared cgroup disk
  scaled : ∀ rate mediaScale outcome, outcome.disks = disks →
    ∀ entry ∈ scaledIoLimits rate mediaScale diskFilter outcome,
      entry.1 = "default" ∨ entry.1 ∈ diskFilter
  restored : ∀ cgroup rate mediaScale listing capping restoring,
    listing.disks = disks → capping.disks = disks → restoring.disks = disks →
    (setDiskIoThrottle cgroup
      (scaledIoLimits rate mediaScale diskFilter listing) diskFilter false
      capping).1 = true →
    (restoreDiskIoThrottle cgroup diskFilter restoring).1 = true →
    ∀ disk, .ioCleared cgroup disk ∈
          (restoreDiskIoThrottle cgroup diskFilter restoring).2 ↔
        ∃ line, .ioMax cgroup disk line ∈ (setDiskIoThrottle cgroup
          (scaledIoLimits rate mediaScale diskFilter listing) diskFilter false
          capping).2

/-- No other disk of the machine has a name that contains a listed one, ignoring
case; where nothing is listed there is no disk. -/
structure NamesApart (disks : List (DiskName × DeviceId))
    (diskFilter : List DiskName) : Prop where
  listed : diskFilter = [] → disks = []
  apart : ∀ disk ∈ disks, ∀ wanted ∈ diskFilter,
    lowered wanted <:+: lowered disk.1 → disk.1 ∈ diskFilter

theorem namesApart_iff (disks : List (DiskName × DeviceId))
    (diskFilter : List DiskName) :
    NamesApart disks diskFilter ↔
      ∀ disk ∈ disks, diskMatches diskFilter disk.1 = true →
        disk.1 ∈ diskFilter := by
  constructor
  · intro names disk member admitted
    simp only [diskMatches, Bool.or_eq_true, List.isEmpty_iff,
      List.any_eq_true, decide_eq_true_eq] at admitted
    rcases admitted with empty | ⟨wanted, listed, contained⟩
    · rw [names.listed empty] at member
      cases member
    · exact names.apart disk member wanted listed contained
  · intro admits
    constructor
    · intro empty
      rw [List.eq_nil_iff_forall_not_mem]
      intro disk member
      have listed := admits disk member (by simp [diskMatches, empty])
      rw [empty] at listed
      cases listed
    · intro disk member wanted listed contained
      apply admits disk member
      simp only [diskMatches, Bool.or_eq_true, List.any_eq_true,
        decide_eq_true_eq]
      exact Or.inr ⟨wanted, listed, contained⟩

/-! ## The calls -/

section
variable
  {cgroup : CgroupId}
  {limits : IoLimits}
  {diskFilter : List DiskName}
  {isRestore : Bool}
  {outcome : IoCallOutcome}

/-- A call that reports success went through the disks the filter admits, and
every round succeeded. -/
theorem rounds_of_setDiskIoThrottle
    (succeeded :
      (setDiskIoThrottle cgroup limits diskFilter isRestore outcome).1 = true) :
    (setDiskIoThrottle cgroup limits diskFilter isRestore outcome).2 =
        ((getDiskId diskFilter outcome).map
          (throttleDisk cgroup limits isRestore outcome)).flatMap Prod.snd ∧
      ∀ disk ∈ getDiskId diskFilter outcome,
        (throttleDisk cgroup limits isRestore outcome disk).1 = true := by
  simp only [setDiskIoThrottle] at succeeded ⊢
  split at succeeded
  · cases succeeded
  split at succeeded
  · cases succeeded
  split at succeeded
  · cases succeeded
  next some_ found enabled =>
  rw [if_neg some_, if_neg found, if_neg enabled]
  refine ⟨rfl, fun disk member => ?_⟩
  exact List.all_eq_true.mp succeeded _ (List.mem_map_of_mem member)

/-- A limiting call that reports success caps exactly the admitted disks that
have a limit. -/
theorem mem_limit_writes_iff
    (succeeded :
      (setDiskIoThrottle cgroup limits diskFilter false outcome).1 = true)
    (disk : DiskName) :
    (∃ line, .ioMax cgroup disk line ∈
        (setDiskIoThrottle cgroup limits diskFilter false outcome).2) ↔
      ∃ device, (disk, device) ∈ outcome.disks ∧
        diskMatches diskFilter disk = true ∧
        diskLimits limits (disk, device) ≠ .unlimited := by
  obtain ⟨writes, rounds⟩ := rounds_of_setDiskIoThrottle succeeded
  simp only [writes, List.mem_flatMap, List.mem_map]
  constructor
  · rintro ⟨line, _, ⟨one, member, rfl⟩, written⟩
    obtain ⟨listed, admitted⟩ := List.mem_filter.mp member
    simp only [throttleDisk, Bool.false_eq_true, if_false] at written
    split at written
    · cases written
    next limited =>
    split at written
    · cases written
    split at written
    · obtain ⟨_, rfl, _⟩ :=
        KernelWrite.ioMax.injEq .. ▸ List.mem_singleton.mp written
      exact ⟨one.2, listed, admitted, limited⟩
    · cases written
  · rintro ⟨device, listed, admitted, limited⟩
    have member : (disk, device) ∈ getDiskId diskFilter outcome :=
      List.mem_filter.mpr ⟨listed, admitted⟩
    have round := rounds _ member
    refine ⟨diskLimits limits (disk, device), _, ⟨_, member, rfl⟩, ?_⟩
    simp only [throttleDisk, Bool.false_eq_true, if_false, if_neg limited]
      at round ⊢
    split at round
    · cases round
    next present =>
    split at round
    · next accepted =>
      rw [if_neg present, if_pos accepted]
      exact List.mem_singleton_self _
    · cases round

/-- A restoring call that reports success resets exactly the admitted disks. -/
theorem mem_restore_writes_iff
    (succeeded : (restoreDiskIoThrottle cgroup diskFilter outcome).1 = true)
    (disk : DiskName) :
    .ioCleared cgroup disk ∈
        (restoreDiskIoThrottle cgroup diskFilter outcome).2 ↔
      ∃ device, (disk, device) ∈ outcome.disks ∧
        diskMatches diskFilter disk = true := by
  obtain ⟨writes, rounds⟩ := rounds_of_setDiskIoThrottle succeeded
  rw [restoreDiskIoThrottle, writes]
  simp only [List.mem_flatMap, List.mem_map]
  constructor
  · rintro ⟨_, ⟨one, member, rfl⟩, written⟩
    obtain ⟨listed, admitted⟩ := List.mem_filter.mp member
    rw [throttleDisk_restoring] at written
    split at written
    · obtain ⟨_, rfl⟩ :=
        KernelWrite.ioCleared.injEq .. ▸ List.mem_singleton.mp written
      exact ⟨one.2, listed, admitted⟩
    · cases written
  · rintro ⟨device, listed, admitted⟩
    have member : (disk, device) ∈ getDiskId diskFilter outcome :=
      List.mem_filter.mpr ⟨listed, admitted⟩
    have round := rounds _ member
    refine ⟨_, ⟨_, member, rfl⟩, ?_⟩
    rw [throttleDisk_restoring] at round ⊢
    split at round
    · next cleared =>
      rw [if_pos cleared]
      exact List.mem_singleton_self _
    · cases round

end

theorem diskLimits_scaledIoLimits (rate : IoRate) (mediaScale : DiskName → ℚ)
    (diskFilter : List DiskName) (listing : IoCallOutcome)
    (disk : DiskName × DeviceId) :
    diskLimits (scaledIoLimits rate mediaScale diskFilter listing) disk ≠
      .unlimited := by
  intro unlimited
  simp only [diskLimits] at unlimited
  have default_ := ((DiskLimits.update_eq_unlimited_iff _ _).mp
    ((DiskLimits.update_eq_unlimited_iff _ _).mp unlimited).1).1
  simp [scaledIoLimits, scaledField, IoRate.bytes, DiskLimits.unlimited]
    at default_

/-- A filter reaches the listed disks alone exactly on machines where no other
disk's name contains a listed one. -/
theorem reachesListed_iff (disks : List (DiskName × DeviceId))
    (diskFilter : List DiskName) :
    ReachesListed disks diskFilter ↔ NamesApart disks diskFilter := by
  rw [namesApart_iff]
  constructor
  · intro reaches disk member admitted
    have cleared := (mem_restoreDiskIoThrottle_iff "app.scope" diskFilter
      (.accepting disks) (.ioCleared "app.scope" disk.1)).mpr
      ⟨disk.1, rfl, rfl, rfl, admitted, ⟨disk.2, member⟩, Or.inr rfl⟩
    obtain ⟨_, listed, same⟩ := reaches.reset _ _ rfl _ cleared
    obtain ⟨_, rfl⟩ := KernelWrite.ioCleared.injEq .. ▸ same
    exact listed
  · intro admits
    constructor
    · rintro cgroup limits outcome rfl write written
      obtain ⟨disk, member, admitted, round⟩ :=
        exists_disk_of_mem_setDiskIoThrottle written
      simp only [throttleDisk, Bool.false_eq_true, if_false] at round
      split at round
      · cases round
      split at round
      · cases round
      split at round
      · exact ⟨disk.1, admits disk member admitted, _,
          List.mem_singleton.mp round⟩
      · cases round
    · rintro cgroup outcome rfl write written
      obtain ⟨disk, rfl, _, _, admitted, ⟨device, member⟩, _⟩ :=
        (mem_restoreDiskIoThrottle_iff _ _ _ _).mp written
      exact ⟨disk, admits _ member admitted, rfl⟩
    · rintro rate mediaScale outcome rfl entry listed
      rcases List.mem_cons.mp listed with rfl | scaled
      · exact Or.inl rfl
      · obtain ⟨disk, member, rfl⟩ := List.mem_map.mp scaled
        obtain ⟨present, admitted⟩ := List.mem_filter.mp member
        exact Or.inr (admits disk present admitted)
    · intro cgroup rate mediaScale listing capping restoring _ sameCapping
        sameRestoring capped restored disk
      rw [mem_restore_writes_iff restored, mem_limit_writes_iff capped,
        sameCapping, sameRestoring]
      simp only [ne_eq, diskLimits_scaledIoLimits, not_false_eq_true, and_true]

/-- A machine with more than 26 disks: a stressed `sda` also gets `sdaa`
capped. -/
theorem longer_name_capped :
    ¬ ReachesListed [("sda", "8:0"), ("sdaa", "65:160")] ["sda"] := by
  intro reaches
  obtain ⟨disk, listed, line, same⟩ := reaches.capped "app.scope"
    [("default", ⟨some 1, some 1, some 1, some 1⟩)]
    (.accepting [("sda", "8:0"), ("sdaa", "65:160")]) rfl
    (.ioMax "app.scope" "sdaa" ⟨some 1, some 1, some 1, some 1⟩)
    (by decide)
  rw [List.mem_singleton.mp listed] at same
  simp at same

end SmarTune
