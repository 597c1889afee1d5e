import SmarTune.Identity.Edits
import SmarTune.Balancer.Freezes

/-!
# Edits and live limits

The guard of an edit keeps a name in every cgroup that it sees; a purge lifts
what the first manual limit on record accounts for.  What other entries of the
app hold, and what a restore could not lift beside its first cgroup, stays.
-/

namespace SmarTune

/-! ## The guard -/

theorem exists_strip_of_mem_cleanFrom {seen values : List String}
    {name : String} (member : name ∈ cleanFrom seen values) :
    ∃ value ∈ values, strip value = name := by
  induction values generalizing seen with
  | nil => cases member
  | cons value values ih =>
    simp only [cleanFrom] at member
    split at member
    · rcases List.mem_cons.mp member with rfl | later
      · exact ⟨value, List.mem_cons_self, rfl⟩
      · obtain ⟨one, listed, same⟩ := ih later
        exact ⟨one, List.mem_cons_of_mem _ listed, same⟩
    · obtain ⟨one, listed, same⟩ := ih member
      exact ⟨one, List.mem_cons_of_mem _ listed, same⟩

theorem exists_mem_cleanFrom {seen values : List String} {value : String}
    (member : value ∈ values) (filled : strip value ≠ "")
    (fresh : lowerCase (strip value) ∉ seen) :
    ∃ name ∈ cleanFrom seen values,
      lowerCase name = lowerCase (strip value) := by
  induction values generalizing seen with
  | nil => cases member
  | cons first values ih =>
    simp only [cleanFrom]
    split
    · by_cases same : lowerCase (strip first) = lowerCase (strip value)
      · exact ⟨strip first, List.mem_cons_self, same⟩
      · have later : value ∈ values := by
          rcases List.mem_cons.mp member with rfl | later
          · exact absurd rfl same
          · exact later
        have unseen : lowerCase (strip value) ∉
            lowerCase (strip first) :: seen := by
          rw [List.mem_cons]
          rintro (again | known)
          · exact same again.symm
          · exact fresh known
        obtain ⟨name, listed, alike⟩ := ih later unseen
        exact ⟨name, List.mem_cons_of_mem _ listed, alike⟩
    · rename_i stale
      refine ih ?_ fresh
      rcases List.mem_cons.mp member with rfl | later
      · exact absurd ⟨filled, fresh⟩ stale
      · exact later

section Guard

variable
  {processes : List ProcessInfo}
  {appId : String}
  {cgroup : CgroupId}

theorem hosts_cleanNames (names : List String) :
    Hosts processes appId (cleanNames names) cgroup ↔
      Hosts processes appId names cgroup := by
  constructor
  · rintro ⟨process, member, runs, inside, name, cleaned, matched⟩
    obtain ⟨value, given, rfl⟩ := exists_strip_of_mem_cleanFrom cleaned
    refine ⟨process, member, runs, inside, value, given, ?_⟩
    rw [← ProcessInfo.exactMatches_congr
      (congrArg lowerCase (strip_strip value))]
    exact matched
  · rintro ⟨process, member, runs, inside, value, given, matched⟩
    obtain ⟨name, cleaned, alike⟩ := exists_mem_cleanFrom given
      (ProcessInfo.strip_ne_empty_of_exactMatches matched) List.not_mem_nil
    obtain ⟨one, -, rfl⟩ := exists_strip_of_mem_cleanFrom cleaned
    refine ⟨process, member, runs, inside, strip one, cleaned, ?_⟩
    rw [ProcessInfo.exactMatches_congr ((congrArg lowerCase
      (strip_strip one)).trans alike)]
    exact matched

/-- A process found by a kept name is found by the names that keep it. -/
theorem hosts_of_kept {name : String} {names : List String}
    (hosts : Hosts processes appId [name] cgroup)
    (kept : lowerCase (strip name) ∈ (cleanNames names).map lowerCase) :
    Hosts processes appId (cleanNames names) cgroup := by
  obtain ⟨process, member, runs, inside, one, only, matched⟩ := hosts
  obtain rfl := List.mem_singleton.mp only
  obtain ⟨clean, cleaned, alike⟩ := List.mem_map.mp kept
  obtain ⟨value, -, rfl⟩ := exists_strip_of_mem_cleanFrom cleaned
  refine ⟨process, member, runs, inside, strip value, cleaned, ?_⟩
  rw [ProcessInfo.exactMatches_congr ((congrArg lowerCase
    (strip_strip value)).trans alike)]
  exact matched

end Guard

theorem find?_updateFirst {id : String}
    {change : ControlledEntry → ControlledEntry}
    (keeps : ∀ entry, (change entry).id = entry.id)
    (apps : List ControlledEntry) :
    (updateFirst id change apps).find? (fun entry => entry.id = id) =
      (apps.find? fun entry => entry.id = id).map change := by
  induction apps with
  | nil => rfl
  | cons first apps ih =>
    by_cases own : first.id = id
    · simp [updateFirst, own, keeps]
    · simp [updateFirst, own, ih]

namespace IdentityService

variable
  {service : IdentityService}
  {id appId : String}
  {answers : EditAnswers}
  {footprint : Footprint}
  {cgroup : CgroupId}

section Set

variable {processNames bpfName : List String}

theorem set_done
    (done : (service.setControlledAppProcesses id processNames bpfName
      answers).1 = .done) :
    ∃ entry, service.entryOf (strip id) = some entry ∧
      (∀ name ∈ service.limitedProcessNames (strip id) entry,
        lowerCase name ∈ (cleanNames processNames).map lowerCase) ∧
      (service.setControlledAppProcesses id processNames bpfName answers).2 =
        { service with
          apps := updateFirst (strip id) (replacedEntry processNames bpfName)
            service.apps } := by
  unfold setControlledAppProcesses at done ⊢
  simp only at done ⊢
  split at done
  · cases done
  cases known : service.entryOf (strip id) with
  | none =>
    rw [known] at done
    cases done
  | some entry =>
    rw [known] at done
    rename_i named
    simp only [named, if_false] at done ⊢
    split at done
    · cases done
    split at done
    · cases done
    rename_i filled kept
    split at done
    · cases done
    rename_i written
    rw [if_neg filled, if_neg kept, if_neg written]
    refine ⟨entry, rfl, ?_, rfl⟩
    rw [not_not, List.filter_eq_nil_iff] at kept
    intro name limited
    simpa using kept name limited

theorem hosts_of_watched {entry : ControlledEntry}
    (known : service.entryOf appId = some entry)
    (kept : ∀ name ∈ service.limitedProcessNames appId entry,
      lowerCase name ∈ (cleanNames processNames).map lowerCase)
    (watched : service.Watched appId cgroup) :
    Hosts service.processes appId (cleanNames processNames) cgroup := by
  obtain ⟨⟨⟨key, limit⟩, found, listed⟩, hosts⟩ := watched
  simp only [namesOf, known, Option.map_some, Option.getD_some] at hosts
  obtain ⟨row, among, same, status, filled, shown⟩ :=
    @ScopeQuery.exists_row (service.scopeQuery appId entry limit) _ _ hosts
  have limited : row.limited = true := by
    rw [status]
    exact ScopeQuery.isLimited_of_listed listed
  apply hosts_of_kept shown
  apply kept
  unfold limitedProcessNames
  rw [found]
  refine List.mem_map.mpr ⟨row, List.mem_filter.mpr ⟨among, ?_⟩, rfl⟩
  simp [limited, filled]

/-- A replacement that is done strands nothing exactly when every held cgroup
is seen by the guard or runs a name of the request. -/
theorem set_strands_nothing_iff
    (done : (service.setControlledAppProcesses id processNames bpfName
      answers).1 = .done) :
    (service.setControlledAppProcesses id processNames bpfName
        answers).2.NoneStranded (strip id) footprint ↔
      service.ReachesAll (strip id) footprint answers
        (.set processNames bpfName) := by
  obtain ⟨entry, known, kept, after⟩ := set_done done
  have names : (service.setControlledAppProcesses id processNames bpfName
      answers).2.namesOf (strip id) = cleanNames processNames := by
    rw [after, namesOf, entryOf,
      find?_updateFirst (replacedEntry_id processNames bpfName)]
    rw [entryOf] at known
    rw [known]
    rfl
  unfold NoneStranded ReachesAll
  rw [names, after]
  refine forall_congr' fun cgroup => imp_congr_right fun _ =>
    imp_congr_right fun _ => ?_
  show Hosts service.processes (strip id) (cleanNames processNames) cgroup ↔ _
  constructor
  · intro hosts
    exact .inr ((hosts_cleanNames processNames).mp hosts)
  · rintro (watched | hosts)
    · exact hosts_of_watched known kept watched
    · exact (hosts_cleanNames processNames).mpr hosts

end Set

end IdentityService

/-! ## What a manual restore lifts -/

theorem ioCleared_mem_restoreDiskIoThrottle {cgroup other : CgroupId}
    {disk : DiskName} {outcome : IoCallOutcome} :
    .ioCleared other disk ∈ (restoreDiskIoThrottle cgroup [] outcome).2 ↔
      other = cgroup ∧ outcome.clears disk = true := by
  have cleared : outcome.ClearsDisk [] disk ↔ outcome.clears disk = true := by
    simp only [IoCallOutcome.ClearsDisk, IoCallOutcome.clears, diskMatches_nil,
      Bool.and_eq_true, List.any_eq_true, decide_eq_true_eq, Bool.or_eq_true,
      Bool.not_eq_true', true_and, and_assoc]
    constructor
    · rintro ⟨found, enabled, ⟨device, listed⟩, answered⟩
      exact ⟨found, enabled, (disk, device), listed, rfl, answered⟩
    · rintro ⟨found, enabled, ⟨_, device⟩, listed, rfl, answered⟩
      exact ⟨found, enabled, ⟨device, listed⟩, answered⟩
  rw [mem_restoreDiskIoThrottle_iff, ← cleared]
  constructor
  · rintro ⟨name, same, clears⟩
    cases same
    exact ⟨rfl, clears⟩
  · rintro ⟨rfl, clears⟩
    exact ⟨disk, rfl, clears⟩

namespace Balancer

variable
  {key : CgroupId}
  {entry : LimitedApp}
  {outcomes : ManualRestoreOutcomes}

theorem clears_manualRestoreWrites_iff (cap : Cap) :
    Clears (manualRestoreWrites key entry outcomes) cap ↔ ∃ position,
        (entry.cgroupsOrKey key)[position]? = some cap.cgroup ∧
        outcomes.LiftsAt entry position cap := by
  have thaws : ¬ Clears (manualRestoreThaw key entry outcomes).2 cap := by
    rintro ⟨write, member, lifts⟩
    unfold manualRestoreThaw at member
    split at member
    · obtain ⟨_, _, rfl⟩ := neutral_thawCgroups _ _ write member
      exact lifts
    · cases member
  rw [manualRestoreWrites, clears_append, clears_append, or_iff_left thaws]
  cases cap with
  | cpuMem cgroup =>
    have io : ¬ Clears (manualRestoreIo key entry outcomes).2
        (.cpuMem cgroup) := by
      rintro ⟨write, member, lifts⟩
      unfold manualRestoreIo at member
      split at member
      · obtain ⟨_, _, _, _, rfl⟩ := unthrottleEach_writes member
        cases lifts
      · cases member
    rw [or_iff_left io]
    unfold manualRestoreCpuMem ManualRestoreOutcomes.LiftsAt
    split
    · rename_i limited
      constructor
      · rintro ⟨write, member, lifts⟩
        obtain ⟨position, other, located, accepted, rfl⟩ :=
          adjustEach_low_writes.mp member
        cases lifts.1
        exact ⟨position, located, limited, accepted⟩
      · rintro ⟨position, located, -, accepted⟩
        exact ⟨.quota cgroup .unlimited, adjustEach_low_writes.mpr
          ⟨position, cgroup, located, accepted, rfl⟩, rfl, rfl⟩
    · rename_i free
      constructor
      · exact fun clears => absurd clears (not_clears_nil _)
      · rintro ⟨position, -, limited, -⟩
        exact absurd limited free
  | io cgroup disk =>
    have cpuMem : ¬ Clears (manualRestoreCpuMem key entry outcomes).2
        (.io cgroup disk) := by
      rintro ⟨write, member, lifts⟩
      unfold manualRestoreCpuMem at member
      split at member
      · obtain ⟨_, _, _, _, rfl⟩ := adjustEach_low_writes.mp member
        cases lifts.1
      · cases member
    rw [or_iff_right cpuMem]
    unfold manualRestoreIo ManualRestoreOutcomes.LiftsAt
    split
    · rename_i limited
      constructor
      · rintro ⟨write, member, lifts⟩
        obtain ⟨position, other, located, written⟩ :=
          mem_fanOut_writes.mp member
        obtain ⟨one, _, rfl⟩ := restoreDiskIoThrottle_writes written
        cases lifts
        exact ⟨position, located, limited,
          (ioCleared_mem_restoreDiskIoThrottle.mp written).2⟩
      · rintro ⟨position, located, -, cleared⟩
        exact ⟨.ioCleared cgroup disk, mem_fanOut_writes.mpr
          ⟨position, cgroup, located,
            ioCleared_mem_restoreDiskIoThrottle.mpr ⟨rfl, cleared⟩⟩, rfl⟩
    · rename_i free
      constructor
      · exact fun clears => absurd clears (not_clears_nil _)
      · rintro ⟨position, -, limited, -⟩
        exact absurd limited free

theorem freeze_mem_manualRestoreThaw_iff (cgroup : CgroupId) :
    .freeze cgroup false ∈ (manualRestoreThaw key entry outcomes).2 ↔
      ∃ position, (entry.cgroupsOrKey key)[position]? = some cgroup ∧
        entry.frozen = true ∧ (outcomes.thaw position).exists_ = true ∧
        (outcomes.thaw position).written = true := by
  have call : ∀ (other : CgroupId) (outcome : FreezeOutcome),
      .freeze cgroup false ∈ (freezeCgroup other false outcome).2 ↔
        cgroup = other ∧ outcome.exists_ = true ∧ outcome.written = true := by
    intro other outcome
    cases present : outcome.exists_ <;> cases wrote : outcome.written <;>
      simp [freezeCgroup, present, wrote]
  unfold manualRestoreThaw
  cases entry.frozen with
  | false => simp
  | true =>
    simp only [if_true, thawCgroups, List.mem_flatMap, List.mem_map, true_and]
    constructor
    · rintro ⟨_, ⟨⟨other, position⟩, listed, rfl⟩, written⟩
      obtain ⟨rfl, thawed⟩ := (call _ _).mp written
      exact ⟨position, List.mem_zipIdx_iff_getElem?.mp listed, thawed⟩
    · rintro ⟨position, located, thawed⟩
      exact ⟨_, ⟨(cgroup, position),
        List.mem_zipIdx_iff_getElem?.mpr located, rfl⟩,
        (call _ _).mpr ⟨rfl, thawed⟩⟩

/-- A cgroup is frozen after thaws when none of them is written to it. -/
theorem freeze_writeAll_of_thaws {writes : List KernelWrite}
    (thaws : ∀ write ∈ writes, ∃ cgroup, write = .freeze cgroup false)
    (kernel : Kernel) (cgroup : CgroupId) :
    (kernel.writeAll writes).freeze cgroup = true ↔
      kernel.freeze cgroup = true ∧ .freeze cgroup false ∉ writes := by
  induction writes generalizing kernel with
  | nil => simp
  | cons head tail ih =>
    obtain ⟨other, rfl⟩ := thaws head List.mem_cons_self
    rw [Kernel.writeAll_cons, ih fun write member =>
      thaws write (List.mem_cons_of_mem _ member), List.mem_cons]
    by_cases same : cgroup = other
    · simp [Kernel.write, same]
    · simp [Kernel.write, same]

theorem freeze_manualRestoreWrites_iff (kernel : Kernel) (cgroup : CgroupId) :
    (kernel.writeAll (manualRestoreWrites key entry outcomes)).freeze cgroup =
        true ↔
      kernel.freeze cgroup = true ∧
        .freeze cgroup false ∉ (manualRestoreThaw key entry outcomes).2 := by
  have thaws : ∀ write ∈ (manualRestoreThaw key entry outcomes).2,
      ∃ cgroup, write = .freeze cgroup false := by
    intro write member
    unfold manualRestoreThaw at member
    split at member
    · simp only [thawCgroups, List.mem_flatMap, List.mem_map] at member
      obtain ⟨_, ⟨target, _, rfl⟩, written⟩ := member
      exact ⟨_, freezeCgroup_writes written⟩
    · cases member
  rw [manualRestoreWrites, Kernel.writeAll_append,
    freeze_writeAll_of_thaws thaws, freeze_writeAll_of_spares
      (sparesFreezer_manualRestore key entry outcomes)]

end Balancer

/-! ## What a release unpins -/

namespace CpuController

theorem isBound_restore_of_ok {controller : CpuController}
    {parent : Option String} {directory : String}
    {outcomes : RestoreCpusOutcomes}
    (ok : (controller.restore parent directory outcomes).1.ok = true)
    (other : String) :
    (controller.restore parent directory outcomes).2.isBound other = true ↔
      controller.isBound other = true ∧ other ≠ directory := by
  have forgets : ∀ files : CpusetFiles,
      ({ controller with files := files }.forget directory).isBound other =
          true ↔
        controller.isBound other = true ∧ other ≠ directory := by
    intro files
    by_cases same : other = directory
    · simp [forget, isBound, same]
    · simp [forget, isBound, same, OrderedDict.get?_erase_of_ne]
  unfold restore at ok ⊢
  simp only at ok ⊢
  cases bound : controller.originals.get? directory with
  | none =>
    have notBound : controller.isBound directory = false := by
      rw [isBound, bound, Option.isSome_none]
    simp only
    constructor
    · intro held
      refine ⟨held, ?_⟩
      rintro rfl
      rw [notBound] at held
      cases held
    · exact And.left
  | some original =>
    rw [bound] at ok
    simp only at ok ⊢
    split
    · exact forgets _
    rename_i present
    rw [if_neg present] at ok
    split
    · exact forgets _
    rename_i enabled
    rw [if_neg enabled] at ok
    split
    · exact forgets _
    rename_i unchanged
    rw [if_neg unchanged] at ok
    split
    · exact forgets _
    rename_i refused
    rw [refused] at ok
    simp only at ok
    split
    · rename_i nothing
      rw [nothing] at ok
      cases ok
    rename_i fallback known
    rw [known] at ok
    simp only at ok
    split
    · exact forgets _
    rename_i again
    rw [again] at ok
    cases ok

theorem isBound_restoreEach_of_ok {allowed : String → Option (Finset Nat)}
    {outcomes : String → RestoreCpusOutcomes} {controller : CpuController}
    {directories : List String}
    (ok : failuresOf (controller.restoreEach allowed outcomes
      directories).1 = [])
    (other : String) :
    (controller.restoreEach allowed outcomes directories).2.isBound other =
        true ↔
      controller.isBound other = true ∧ other ∉ directories := by
  induction directories generalizing controller with
  | nil => simp [restoreEach]
  | cons first rest ih =>
    simp only [restoreEach, failuresOf, List.map_eq_nil_iff,
      List.filter_eq_nil_iff, List.forall_mem_cons, Bool.not_eq_true',
      Bool.not_eq_false] at ok
    have later : failuresOf ((controller.restore
        (PinSystem.parent allowed first) first (outcomes first)).2.restoreEach
          allowed outcomes rest).1 = [] := by
      simpa [failuresOf] using ok.2
    rw [restoreEach]
    rw [ih later, isBound_restore_of_ok ok.1, and_assoc, List.mem_cons, not_or]

end CpuController

theorem AffinityService.isBound_release_of_ok {service : AffinityService}
    {appId : String} {allowed : String → Option (Finset Nat)}
    {restoring : String → RestoreCpusOutcomes}
    (ok : ∀ failures, (service.releaseCpuAffinity appId allowed restoring).1 ≠
        .failed failures)
    (directory : String) :
    (service.releaseCpuAffinity appId allowed restoring).2.cpu.isBound
        directory = true ↔
      service.cpu.isBound directory = true ∧
        directory ∉ service.trackedAffinityDirs appId := by
  unfold releaseCpuAffinity at ok ⊢
  simp only at ok ⊢
  split
  · rename_i nothing
    rw [nothing]
    exact ⟨fun bound => ⟨bound, List.not_mem_nil⟩, And.left⟩
  · rename_i something
    rw [if_neg something] at ok
    have allOk : failuresOf (service.cpu.restoreEach allowed restoring
        (service.trackedAffinityDirs appId)).1 = [] := by
      by_contra failed
      exact ok _ (if_pos failed)
    have same : ({ service with
        cpu := (service.cpu.restoreEach allowed restoring
          (service.trackedAffinityDirs appId)).2 }.forgetAffinity appId
        (restoredOf (service.cpu.restoreEach allowed restoring
          (service.trackedAffinityDirs appId)).1)).cpu =
        (service.cpu.restoreEach allowed restoring
          (service.trackedAffinityDirs appId)).2 := by
      unfold forgetAffinity
      split <;> rfl
    simp only
    rw [same]
    exact CpuController.isBound_restoreEach_of_ok allOk directory

/-! ## A purge -/

theorem LimitRegistry.byPublicId_manual_of_any {registry : LimitRegistry}
    {publicAppId : String} {key : CgroupId} {entry : LimitedApp}
    (found : registry.anyByPublicId publicAppId = some (key, entry))
    (manual : entry.source ≠ .auto) :
    registry.byPublicId publicAppId .manual = some (key, entry) := by
  obtain ⟨named, earlier, later, split, others⟩ :=
    List.find?_eq_some_iff_append.mp found
  have source : entry.source = .manual := by
    cases same : entry.source with
    | auto => exact absurd same manual
    | manual => rfl
  refine List.find?_eq_some_iff_append.mpr
    ⟨by simp_all, earlier, later, split, ?_⟩
  intro other member
  have differs := others other member
  simp only [Bool.not_eq_true', decide_eq_false_iff_not] at differs
  simp [differs]

namespace IdentityService

variable
  {service : IdentityService}
  {id appId : String}
  {answers : EditAnswers}
  {footprint : Footprint}

/-- A restore that lets a purge go on had nothing on record, or restored the
first entry. -/
theorem restoreForPurge_cases
    (goesOn : (service.restoreForPurge appId answers).1 = none) :
    (service.balancer.allLimits.anyByPublicId appId = none ∧
      (service.restoreForPurge appId answers).2.kernel =
        service.balancer.kernel) ∨
    ∃ key limit,
      service.balancer.allLimits.anyByPublicId appId = some (key, limit) ∧
      (service.restoreForPurge appId answers).2.kernel =
        service.balancer.kernel.writeAll
          (Balancer.manualRestoreWrites key limit answers.restore) := by
  unfold restoreForPurge at goesOn ⊢
  cases found : service.balancer.allLimits.anyByPublicId appId with
  | none => exact .inl ⟨rfl, rfl⟩
  | some pair =>
    obtain ⟨key, limit⟩ := pair
    rw [found] at goesOn
    simp only at goesOn ⊢
    split at goesOn
    · cases goesOn
    rename_i manual
    rw [if_neg manual]
    refine .inr ⟨key, limit, rfl, ?_⟩
    have first := LimitRegistry.byPublicId_manual_of_any found manual
    simp [Balancer.setRestoreResource, first, Balancer.popManual,
      Balancer.popEntry, Balancer.manualRestoreWrites]

theorem inForce_restoreForPurge
    (goesOn : (service.restoreForPurge appId answers).1 = none) (cap : Cap) :
    (service.restoreForPurge appId answers).2.kernel.InForce cap ↔
      service.balancer.kernel.InForce cap ∧
        ¬ ∃ found ∈ service.balancer.allLimits.anyByPublicId appId, ∃ position,
            (found.2.cgroupsOrKey found.1)[position]? = some cap.cgroup ∧
            answers.restore.LiftsAt found.2 position cap := by
  rcases restoreForPurge_cases goesOn with
    ⟨nothing, kernel⟩ | ⟨key, limit, found, kernel⟩
  · rw [kernel, nothing]
    simp
  · rw [kernel, found, inForce_writeAll_of_restoring
      (Balancer.restoring_manualRestoreWrites key limit answers.restore),
      Balancer.clears_manualRestoreWrites_iff]
    simp

theorem freeze_restoreForPurge
    (goesOn : (service.restoreForPurge appId answers).1 = none)
    (cgroup : CgroupId) :
    (service.restoreForPurge appId answers).2.kernel.freeze cgroup = true ↔
      service.balancer.kernel.freeze cgroup = true ∧
        ¬ ∃ found ∈ service.balancer.allLimits.anyByPublicId appId, ∃ position,
            (found.2.cgroupsOrKey found.1)[position]? = some cgroup ∧
            found.2.frozen = true ∧
            (answers.restore.thaw position).exists_ = true ∧
            (answers.restore.thaw position).written = true := by
  rcases restoreForPurge_cases goesOn with
    ⟨nothing, kernel⟩ | ⟨key, limit, found, kernel⟩
  · rw [kernel, nothing]
    simp
  · rw [kernel, found, Balancer.freeze_manualRestoreWrites_iff,
      Balancer.freeze_mem_manualRestoreThaw_iff]
    simp

theorem purge_done (done : (service.purgeControlledApp id answers).1 = .done) :
    (service.restoreForPurge (strip id) answers).1 = none ∧
      (∀ failures, (service.affinity.releaseCpuAffinity (strip id)
        answers.allowed answers.restoring).1 ≠ .failed failures) ∧
      (service.purgeControlledApp id answers).2.balancer =
        (service.restoreForPurge (strip id) answers).2 ∧
      (service.purgeControlledApp id answers).2.affinity =
        (service.affinity.releaseCpuAffinity (strip id) answers.allowed
          answers.restoring).2 := by
  unfold purgeControlledApp at done ⊢
  simp only at done ⊢
  split at done
  · cases done
  rename_i named
  split at done
  · cases done
  rename_i known
  rw [if_neg named, if_neg known]
  cases restored : (service.restoreForPurge (strip id) answers).1 with
  | some reply =>
    have refused : reply = .done := by
      rw [restored] at done
      exact done
    unfold restoreForPurge at restored
    split at restored
    · cases restored
    · split at restored
      · cases restored
        cases refused
      · simp only at restored
        split at restored
        · cases restored
        · cases restored
          cases refused
  | none =>
    rw [restored] at done
    simp only at done ⊢
    cases released : (service.affinity.releaseCpuAffinity (strip id)
        answers.allowed answers.restoring).1 with
    | failed failures =>
      rw [released] at done
      cases done
    | notBound =>
      rw [released] at done
      simp only at done ⊢
      split at done
      · cases done
      rename_i written
      rw [if_neg written]
      exact ⟨trivial, nofun, rfl, rfl⟩
    | restored =>
      rw [released] at done
      simp only at done ⊢
      split at done
      · cases done
      rename_i written
      rw [if_neg written]
      exact ⟨trivial, nofun, rfl, rfl⟩

theorem purge_strands_nothing_iff
    (done : (service.purgeControlledApp id answers).1 = .done) :
    (service.purgeControlledApp id answers).2.NothingRemains footprint ↔
      service.FullyLifted (strip id) footprint answers := by
  obtain ⟨goesOn, ok, balancer, affinity⟩ := purge_done done
  constructor
  · intro remains
    constructor
    · intro cap inside inForce
      by_contra kept
      apply remains.released cap.cgroup inside
      rw [balancer]
      exact .inl ⟨cap, rfl, (inForce_restoreForPurge goesOn cap).mpr
        ⟨inForce, kept⟩⟩
    · intro cgroup inside frozen
      by_contra kept
      apply remains.released cgroup inside
      rw [balancer]
      exact .inr ((freeze_restoreForPurge goesOn cgroup).mpr ⟨frozen, kept⟩)
    · intro directory inside bound
      by_contra untracked
      have free := remains.unpinned directory inside
      rw [affinity] at free
      have still := (AffinityService.isBound_release_of_ok ok directory).mpr
        ⟨bound, untracked⟩
      rw [free] at still
      cases still
  · intro lifted
    constructor
    · intro cgroup inside holds
      rw [balancer] at holds
      rcases holds with ⟨cap, rfl, inForce⟩ | frozen
      · obtain ⟨before, kept⟩ := (inForce_restoreForPurge goesOn cap).mp inForce
        exact kept (lifted.caps cap inside before)
      · obtain ⟨before, kept⟩ :=
          (freeze_restoreForPurge goesOn cgroup).mp frozen
        exact kept (lifted.freezes cgroup inside before)
    · intro directory inside
      by_contra bound
      rw [Bool.not_eq_false, affinity] at bound
      obtain ⟨before, untracked⟩ :=
        (AffinityService.isBound_release_of_ok ok directory).mp bound
      exact untracked (lifted.pins directory inside before)

/-- A request that is done strands nothing of the app exactly when it reaches
everything that is held. -/
theorem edits_strand_nothing_iff (service : IdentityService) (id : String)
    (request : IdentityEdit) (answers : EditAnswers) (footprint : Footprint)
    (done : (service.edit id request answers).1 = .done) :
    (service.edit id request answers).2.StrandsNothing (strip id) footprint
        request ↔
      service.ReachesAll (strip id) footprint answers request := by
  cases request with
  | set processNames bpfName =>
    rw [edit] at done ⊢
    exact set_strands_nothing_iff done
  | purge =>
    rw [edit] at done ⊢
    exact purge_strands_nothing_iff done

def manualLimit (cgroup : CgroupId) (pid : Nat) : LimitedApp where
  publicAppId := "editor"
  appName := "Editor"
  source := .manual
  limitRates := ⟨some (some 20), none, none⟩
  limitParts := ⟨true, false⟩
  cgroups := [cgroup]
  pids := [pid]

/-- An app with a limit in each of two scopes. -/
def twoScopes : IdentityService where
  apps := [⟨"Editor", "editor", "", ["code"], ["code", "node"]⟩]
  balancer :=
    { isRunning := true
      allLimits :=
        { apps := (OrderedDict.empty.set "a.scope"
            (manualLimit "a.scope" 10)).set "b.scope" (manualLimit "b.scope" 11)
          manualLimitBaseline := .empty
          autoLimitExclusions := .empty }
      kernel := Kernel.pristine.writeAll
        [.quota "a.scope" ⟨some 20, none⟩, .quota "b.scope" ⟨some 20, none⟩]
      events := [] }
  affinity := .fresh fun _ => .gone
  record := fun _ => none
  processes :=
    [⟨10, "code", "/usr/bin/code", ["code"], "code",
        some "/user.slice/a.scope", true⟩,
      ⟨11, "node", "/usr/bin/node", ["node", "server.js"], "server.js",
        some "/user.slice/b.scope", true⟩]

/-- The cgroups and directories of the app. -/
def twoScopesFootprint : Footprint where
  scopes := ["a.scope", "b.scope"]
  directories := []

/-- Everything is accepted. -/
def accepting : EditAnswers where
  written := true
  restore := ⟨fun _ => .accepting, fun _ => .accepting [], fun _ => .accepting⟩
  allowed := fun _ => none
  restoring := fun _ => ⟨none, none⟩

theorem edits_strand_nothing_iff_witness :
    (twoScopes.edit "editor" (.set ["node", "Code"] []) accepting).2.StrandsNothing
        (strip "editor") twoScopesFootprint (.set ["node", "Code"] []) ↔
      twoScopes.ReachesAll (strip "editor") twoScopesFootprint accepting
        (.set ["node", "Code"] []) :=
  edits_strand_nothing_iff twoScopes "editor" (.set ["node", "Code"] [])
    accepting twoScopesFootprint (by decide)

/-- The second scope stays capped, without a name of the app after the edit and
without the app after the purge. -/
theorem second_scope_stranded :
    ((twoScopes.edit "editor" (.set ["code"] []) accepting).1 = .done ∧
      ¬ (twoScopes.edit "editor" (.set ["code"] [])
        accepting).2.StrandsNothing "editor" twoScopesFootprint
          (.set ["code"] [])) ∧
      (twoScopes.edit "editor" .purge accepting).1 = .done ∧
      ¬ (twoScopes.edit "editor" .purge accepting).2.StrandsNothing "editor"
        twoScopesFootprint .purge := by
  refine ⟨⟨by decide, ?_⟩, by decide, ?_⟩
  · intro hosted
    have hosts := hosted "b.scope" (by decide)
      (.inl ⟨.cpuMem "b.scope", rfl, by decide⟩)
    revert hosts
    decide
  · intro remains
    exact remains.released "b.scope" (by decide)
      (.inl ⟨.cpuMem "b.scope", rfl, by decide⟩)

end IdentityService

end SmarTune
