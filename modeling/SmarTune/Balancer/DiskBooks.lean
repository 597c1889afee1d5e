import SmarTune.Library.Runs
import SmarTune.Balancer.AutoBooks

/-!
# Disk lists of one auto entry

Histories of auto limits and staged restores of one app.  The entry's
`limit_disks` is united at every limit and never shortened, and its empty value
denotes every disk; the histories below are those in which it goes on denoting
every disk that is capped.
-/

namespace SmarTune

/-- The steps that touch the entry of one app. -/
inductive EntryStep
  | apply (target : Candidate) (limitRates : LimitRates)
      (isControlled isDiskIoStressed : Bool) (pressureLevel : String)
      (outcomes : Balancer.ApplyOutcomes)
  | restore (channel : Channel) (restoreType : RestoreType)
      (outcomes : RestoreOutcomes)

namespace EntryStep

/-- One step on the app with the given primary cgroup; no other thread
interferes with a restore. -/
def step (key : CgroupId) (balancer : Balancer) : EntryStep → Balancer
  | .apply target limitRates isControlled isDiskIoStressed pressureLevel
      outcomes =>
      balancer.applyResourceLimits target key limitRates isControlled
        isDiskIoStressed pressureLevel outcomes
  | .restore channel restoreType outcomes =>
    (balancer.restoreChannel channel restoreType ⟨outcomes, none, false⟩).2

end EntryStep

/-- The registry holds no entry but an auto one of the app, and that entry
denotes every disk on which a cap is in force. -/
structure DisksDenoted (key : CgroupId) (balancer : Balancer) : Prop where
  only : ∀ other entry, balancer.allLimits.apps.get? other = some entry →
    other = key ∧ entry.source = .auto
  denoted : ∀ entry, balancer.allLimits.apps.get? key = some entry →
    ∀ cap, cap.channel = .diskIo → balancer.kernel.InForce cap →
      cap.OnDisks entry.limitDisks

/-- The lists of a disk limit fit the caps in force and the caps it lands. -/
structure DiskListsFit (key : CgroupId) (balancer : Balancer)
    (target : Candidate) (limitRates : LimitRates)
    (outcomes : Balancer.ApplyOutcomes) : Prop where
  /-- Capping every disk after some were recorded lands on those only. -/
  unknown : (Balancer.applyDiskIo balancer.isRunning target key limitRates
      outcomes).1 = true →
    outcomes.stressedDisks = [] →
    ∀ cap, Lands (Balancer.applyDiskIo balancer.isRunning target key limitRates
      outcomes).2 cap → cap.OnDisks (balancer.previousDisks key)
  /-- Recording disks for the first time names every disk that is capped. -/
  known : (Balancer.applyDiskIo balancer.isRunning target key limitRates
      outcomes).1 = true →
    outcomes.stressedDisks ≠ [] → balancer.previousDisks key = [] →
    ∀ cap, cap.channel = .diskIo → balancer.kernel.InForce cap →
      cap.OnDisks outcomes.stressedDisks
  /-- A refused limit lands on recorded disks only. -/
  refused : (Balancer.applyDiskIo balancer.isRunning target key limitRates
      outcomes).1 = false →
    ∀ cap, Lands (Balancer.applyDiskIo balancer.isRunning target key limitRates
      outcomes).2 cap → cap.OnDisks (balancer.previousDisks key)

/-- The condition on one step, read off the state before it: restores and sys
limits always meet it. -/
def EntryStep.KeepsDisks (key : CgroupId)
    (balancer : Balancer) : EntryStep → Prop
  | .apply target limitRates _ true _ outcomes =>
    DiskListsFit key balancer target limitRates outcomes
  | .apply _ _ _ false _ _ => True
  | .restore _ _ _ => True

/-! ## Lists and filters -/

variable {disks others : List DiskName} {cap : Cap}

/-- A nonempty disk list denotes no more than a longer one. -/
theorem Cap.OnDisks.append_left (nonempty : disks ≠ [])
    (onDisks : cap.OnDisks disks) :
    cap.OnDisks (disks ++ others) := by
  cases cap with
  | cpuMem cgroup => trivial
  | io cgroup disk =>
    exact diskMatches_mono (fun _ => List.mem_append_left _) nonempty onDisks

theorem Cap.OnDisks.append_right (nonempty : others ≠ [])
    (onDisks : cap.OnDisks others) :
    cap.OnDisks (disks ++ others) := by
  cases cap with
  | cpuMem cgroup => trivial
  | io cgroup disk =>
    exact diskMatches_mono (fun _ => List.mem_append_right _) nonempty onDisks

@[simp] theorem Cap.onDisks_nil (cap : Cap) : cap.OnDisks [] := by
  cases cap with
  | cpuMem cgroup => trivial
  | io cgroup disk => rfl

namespace Balancer

theorem onDisks_of_lands_applyDiskIo {isRunning : Bool} {target : Candidate}
    {appId : CgroupId} {limitRates : LimitRates} {outcomes : ApplyOutcomes}
    {cap : Cap}
    (lands : Lands
      (applyDiskIo isRunning target appId limitRates outcomes).2 cap) :
    cap.OnDisks outcomes.stressedDisks := by
  obtain ⟨write, member, installs⟩ := lands
  unfold applyDiskIo at member
  split at member
  · split at member
    · obtain ⟨_, _, disk, _, admitted, _, rfl⟩ := throttleEach_writes member
      rw [installs.1]
      exact admitted
    · simp at member
  · simp at member

theorem limiting_partialRestoreCall {balancer : Balancer} {appId : CgroupId}
    {entry : LimitedApp} {channel : Channel} {outcomes : RestoreOutcomes}
    {call : ControllerCall}
    (called : balancer.partialRestoreCall appId entry channel outcomes =
      .ok call) :
    Limiting call.2 ∧ ∀ cap, Lands call.2 cap →
      cap.channel = channel ∧ cap.OnDisks entry.limitDisks := by
  unfold partialRestoreCall at called
  split at called
  · obtain rfl := Except.ok.inj called
    simp
  cases channel with
  | sys =>
    simp only at called
    split at called
    · cases called
    split at called
    · cases called
    obtain rfl := Except.ok.inj called
    refine ⟨limiting_adjustEach (by decide) _ _ _ _, ?_⟩
    rintro cap ⟨write, member, installs⟩
    obtain ⟨_, _, _, _, rfl⟩ := adjustEach_writes (by decide) member
    rw [installs.1]
    exact ⟨rfl, trivial⟩
  | diskIo =>
    simp only at called
    split at called
    · obtain rfl := Except.ok.inj called
      simp
    · cases called
    obtain rfl := Except.ok.inj called
    refine ⟨limiting_throttleEach _ _ _ _, ?_⟩
    rintro cap ⟨write, member, installs⟩
    obtain ⟨_, _, _, _, admitted, _, rfl⟩ := throttleEach_writes member
    rw [installs.1]
    exact ⟨rfl, admitted⟩

end Balancer

namespace DisksDenoted

open Balancer

variable {key : CgroupId} {balancer : Balancer}

theorem initially : DisksDenoted key .initial where
  only := by
    intro other entry stored
    cases stored
  denoted := by
    intro entry stored
    cases stored

theorem of_change {after : Balancer} (denotes : DisksDenoted key balancer)
    (others : ∀ other, other ≠ key →
      after.allLimits.apps.get? other = balancer.allLimits.apps.get? other)
    (auto : ∀ entry, after.allLimits.apps.get? key = some entry →
      entry.source = .auto)
    (denoted : ∀ entry, after.allLimits.apps.get? key = some entry →
      ∀ cap, cap.channel = .diskIo → after.kernel.InForce cap →
        cap.OnDisks entry.limitDisks) :
    DisksDenoted key after where
  only := by
    intro other entry stored
    by_cases same : other = key
    · exact ⟨same, auto entry (same ▸ stored)⟩
    · rw [others other same] at stored
      exact absurd (denotes.only other entry stored).1 same
  denoted := denoted

theorem restore_full (denotes : DisksDenoted key balancer) {entry : LimitedApp}
    (stored : balancer.allLimits.apps.get? key = some entry) (channel : Channel)
    (outcomes : RestoreOutcomes) :
    DisksDenoted key
      (balancer.restoreChannelFor key entry channel .full outcomes none).2 := by
  have left : ∀ after,
      balancer.afterFullRestore key entry channel outcomes = some after →
        after.source = entry.source ∧ after.limitDisks = entry.limitDisks := by
    intro after leftEq
    obtain ⟨_, _, rfl⟩ := afterFullRestore_eq_some leftEq
    exact ⟨rfl, rfl⟩
  apply denotes.of_change
  · intro other different
    rw [restoreChannelFor_full_get? stored, if_neg different]
  · intro after storedAfter
    rw [restoreChannelFor_full_get? stored, if_pos rfl] at storedAfter
    rw [(left after storedAfter).1]
    exact (denotes.only key entry stored).2
  · intro after storedAfter cap io inForce
    rw [restoreChannelFor_full_get? stored, if_pos rfl] at storedAfter
    rw [restoreChannelFor_full_kernel stored,
      inForce_writeAll_of_restoring (restoring_fullRestoreCall _ _)] at inForce
    rw [(left after storedAfter).2]
    exact denotes.denoted entry stored cap io inForce.1

/-- A partial restore rewrites caps on disks of the list and keeps the
list. -/
theorem restore_partially (denotes : DisksDenoted key balancer)
    {entry : LimitedApp}
    (stored : balancer.allLimits.apps.get? key = some entry) (channel : Channel)
    (outcomes : RestoreOutcomes) :
    DisksDenoted key (balancer.restoreChannelFor key entry channel .partially
      outcomes none).2 := by
  have left : (balancer.afterPartialRestore key entry channel
        outcomes).source = entry.source ∧
      (balancer.afterPartialRestore key entry channel
        outcomes).limitDisks = entry.limitDisks := by
    unfold afterPartialRestore
    split <;> exact ⟨rfl, rfl⟩
  apply denotes.of_change
  · intro other different
    rw [restoreChannelFor_partially_get? stored, if_neg different]
  · intro after storedAfter
    rw [restoreChannelFor_partially_get? stored, if_pos rfl] at storedAfter
    obtain rfl := Option.some.inj storedAfter
    rw [left.1]
    exact (denotes.only key entry stored).2
  · intro after storedAfter cap io inForce
    rw [restoreChannelFor_partially_get? stored, if_pos rfl] at storedAfter
    obtain rfl := Option.some.inj storedAfter
    rw [left.2]
    rw [restoreChannelFor_partially_kernel stored] at inForce
    split at inForce
    · exact denotes.denoted entry stored cap io inForce
    · next call called =>
      obtain ⟨limiting, landed⟩ := limiting_partialRestoreCall called
      rw [inForce_writeAll_of_limiting limiting] at inForce
      rcases inForce with old | lands
      · exact denotes.denoted entry stored cap io old
      · exact (landed cap lands).2

theorem restore (denotes : DisksDenoted key balancer) (channel : Channel)
    (restoreType : RestoreType) (outcomes : RestoreOutcomes) :
    DisksDenoted key
      (balancer.restoreChannel channel restoreType ⟨outcomes, none, false⟩).2
    := by
  simp only [restoreChannel, Bool.false_eq_true, if_false]
  split
  · exact denotes
  · next appId entry found =>
    have stored := (LimitRegistry.firstAutoWithPart_eq_some found).1
    obtain ⟨rfl, _⟩ := denotes.only appId entry stored
    cases restoreType with
    | partially => exact denotes.restore_partially stored channel outcomes
    | full => exact denotes.restore_full stored channel outcomes

theorem yield (denotes : DisksDenoted key balancer)
    (outcomes : RestoreOutcomes) :
    DisksDenoted key (balancer.clearIoCapBeforeSysLimit key outcomes) := by
  rw [clearIoCapBeforeSysLimit_eq]
  split
  · exact denotes
  · next appId entry yields =>
    have stored := (yieldTarget_eq_some yields).1
    obtain ⟨rfl, _⟩ := denotes.only appId entry stored
    exact denotes.restore_full stored .diskIo outcomes

theorem record (denotes : DisksDenoted key balancer) {call : ControllerCall}
    (limiting : Limiting call.2) {limit : AutoLimit} {now : ℚ}
    (accepted : call.1 = true → ∀ cap, cap.channel = .diskIo →
      balancer.kernel.InForce cap ∨ Lands call.2 cap →
      cap.OnDisks (balancer.previousDisks key ++ limit.limitDisks))
    (refused : call.1 = false → ∀ cap, cap.channel = .diskIo →
      Lands call.2 cap → cap.OnDisks (balancer.previousDisks key)) :
    DisksDenoted key
      (if call.1 then (balancer.writes call.2).upsertAutoLimited key limit now
        else balancer.writes call.2) := by
  have inForceAfter : ∀ cap,
      (if call.1 then (balancer.writes call.2).upsertAutoLimited key limit now
        else balancer.writes call.2).kernel.InForce cap ↔
        balancer.kernel.InForce cap ∨ Lands call.2 cap :=
    inForce_record balancer limiting limit now
  cases reply : call.1 with
  | false =>
    simp only [reply, Bool.false_eq_true, if_false] at inForceAfter ⊢
    refine denotes.of_change (fun _ _ => rfl)
      (fun entry stored => (denotes.only key entry stored).2) ?_
    intro entry stored cap io inForce
    rcases (inForceAfter cap).mp inForce with old | lands
    · exact denotes.denoted entry stored cap io old
    · have previous := refused reply cap io lands
      rw [writes_allLimits] at stored
      simpa [previousDisks, autoEntry, stored, Option.filter,
        (denotes.only key entry stored).2] using previous
  | true =>
    simp only [reply, if_true] at inForceAfter ⊢
    have storedAfter : ((balancer.writes call.2).upsertAutoLimited key limit
        now).allLimits.apps.get? key =
        some (balancer.upsertedEntry key limit now) := by
      simp only [upsertAutoLimited, emit_allLimits, withApps_apps]
      exact OrderedDict.get?_set_self _ _ _
    apply denotes.of_change
    · intro other different
      simp only [upsertAutoLimited, emit_allLimits, withApps_apps,
        writes_allLimits]
      exact OrderedDict.get?_set_of_ne _ _ different
    · intro entry stored
      obtain rfl := Option.some.inj (storedAfter.symm.trans stored)
      unfold upsertedEntry
      split <;> rfl
    · intro entry stored cap io inForce
      obtain rfl := Option.some.inj (storedAfter.symm.trans stored)
      rw [onDisks_upsertedEntry_iff]
      exact accepted reply cap io ((inForceAfter cap).mp inForce)

/-- The entry's own list denotes its disks. -/
theorem onDisks_previousDisks (denotes : DisksDenoted key balancer) {cap : Cap}
    (io : cap.channel = .diskIo) (inForce : balancer.kernel.InForce cap)
    (recorded : balancer.previousDisks key ≠ []) :
    cap.OnDisks (balancer.previousDisks key) := by
  unfold previousDisks autoEntry at recorded ⊢
  cases stored : balancer.allLimits.apps.get? key with
  | none => simp [stored] at recorded
  | some entry =>
    have denoted := denotes.denoted entry stored cap io inForce
    simpa [Option.filter, (denotes.only key entry stored).2] using denoted

theorem apply_sys (denotes : DisksDenoted key balancer) (target : Candidate)
    (limitRates : LimitRates) (isControlled : Bool) (pressureLevel : String)
    (outcomes : ApplyOutcomes) :
    DisksDenoted key (balancer.applyResourceLimits target key limitRates
      isControlled false pressureLevel outcomes) := by
  simp only [applyResourceLimits, yieldIoCap, applyChannel,
    Bool.false_eq_true, if_false]
  split
  · exact denotes
  have yielded := denotes.yield outcomes.yieldIo
  have noDiskCap : ∀ cap, cap.channel = .diskIo →
      ¬ Lands (applyCpuMem (balancer.clearIoCapBeforeSysLimit key
        outcomes.yieldIo).isRunning target key limitRates outcomes).2 cap := by
    intro cap io lands
    have sys := (lands_applyCpuMem lands).1
    rw [io] at sys
    cases sys
  refine yielded.record limiting_applyCpuMem ?_ ?_
  · intro _ cap io capped
    have inForce := capped.resolve_right (noDiskCap cap io)
    simp only [autoLimitOf, Bool.false_eq_true, if_false, List.append_nil]
    by_cases recorded : (balancer.clearIoCapBeforeSysLimit key
        outcomes.yieldIo).previousDisks key = []
    · rw [recorded]
      exact Cap.onDisks_nil cap
    · exact yielded.onDisks_previousDisks io inForce recorded
  · intro _ cap io lands
    exact absurd lands (noDiskCap cap io)

theorem apply_disk (denotes : DisksDenoted key balancer) {target : Candidate}
    {limitRates : LimitRates} {outcomes : ApplyOutcomes}
    (fit : DiskListsFit key balancer target limitRates outcomes)
    (isControlled : Bool) (pressureLevel : String) :
    DisksDenoted key (balancer.applyResourceLimits target key limitRates
      isControlled true pressureLevel outcomes) := by
  simp only [applyResourceLimits, yieldIoCap, applyChannel, if_true]
  split
  · exact denotes
  refine denotes.record limiting_applyDiskIo ?_ ?_
  · intro accepted cap io capped
    simp only [autoLimitOf, if_true]
    by_cases known : outcomes.stressedDisks = []
    · rw [known, List.append_nil]
      by_cases recorded : balancer.previousDisks key = []
      · rw [recorded]
        exact Cap.onDisks_nil cap
      · rcases capped with inForce | lands
        · exact denotes.onDisks_previousDisks io inForce recorded
        · exact fit.unknown accepted known cap lands
    · rcases capped with inForce | lands
      · by_cases recorded : balancer.previousDisks key = []
        · exact (fit.known accepted known recorded cap io inForce).append_right
            known
        · exact (denotes.onDisks_previousDisks io inForce
            recorded).append_left recorded
      · exact (onDisks_of_lands_applyDiskIo lands).append_right known
  · intro refused cap _ lands
    exact fit.refused refused cap lands

theorem step (denotes : DisksDenoted key balancer) (entryStep : EntryStep)
    (keeps : entryStep.KeepsDisks key balancer) :
    DisksDenoted key (entryStep.step key balancer) := by
  cases entryStep with
  | apply target limitRates isControlled isDiskIoStressed pressureLevel
      outcomes =>
      cases isDiskIoStressed with
      | false =>
        exact denotes.apply_sys target limitRates isControlled
          pressureLevel outcomes
      | true => exact denotes.apply_disk keeps isControlled pressureLevel
  | restore channel restoreType outcomes =>
    exact denotes.restore channel restoreType outcomes

end DisksDenoted

namespace EntryStep

/-- In every history whose disk limits meet the condition, the disk list of the
entry denotes every disk on which a cap is in force. -/
theorem limit_disks_denote (key : CgroupId) {history : List EntryStep}
    (keeping : Runs.EveryStep (step key) (fun balancer entryStep =>
      entryStep.KeepsDisks key balancer) .initial history)
    {entry : LimitedApp}
    (stored : (Runs.run (step key) .initial history).allLimits.apps.get? key =
      some entry)
    (cgroup : CgroupId)
    (disk : DiskName)
    (inForce : (Runs.run (step key) .initial history).kernel.InForce
      (.io cgroup disk)) :
    diskMatches entry.limitDisks disk = true := by
  have denotes := Runs.invariant_run (DisksDenoted key)
    (fun _ entryStep before keeps => before.step entryStep keeps)
    DisksDenoted.initially keeping
  exact denotes.denoted entry stored (.io cgroup disk) rfl inForce

/-- Every call is accepted; the machine has two disks. -/
def twoDisks (stressedDisks : List DiskName) : Balancer.ApplyOutcomes where
  totalMemory := 16000
  memoryReading := fun _ => none
  stressedDisks := stressedDisks
  mediaScale := fun _ => 1
  listing := .accepting [("sda", "8:0"), ("nvme0n1", "259:0")]
  adjust := fun _ => .accepting
  io := fun _ => .accepting [("sda", "8:0"), ("nvme0n1", "259:0")]
  yieldIo := ⟨16000, fun _ => 1, .accepting [], fun _ => .accepting,
    fun _ => .accepting []⟩
  now := 0

/-- A limit of the app on the channel under pressure. -/
def limitApp (isDiskIoStressed : Bool)
    (stressedDisks : List DiskName) : EntryStep :=
  .apply {} ⟨some (some (1 / 2)), none, some (some ⟨10, 10, 100, 100⟩)⟩ true
    isDiskIoStressed "critical" (twoDisks stressedDisks)

/-- A full restore of the disk channel, accepted. -/
def restoreDisks : EntryStep :=
  .restore .diskIo .full ⟨16000, fun _ => 1, .accepting [],
    fun _ => .accepting, (twoDisks []).io⟩

/-- A CPU cap keeps the entry while its disk cap on `sda` is restored; the next
disk cap, on every disk, is recorded under the old list. -/
theorem unknown_disks_after_known :
    let after := Runs.run (step "app.scope") .initial
      [limitApp false [], limitApp true ["sda"], restoreDisks, limitApp true []]
    after.kernel.InForce (.io "app.scope" "nvme0n1") ∧
      ∃ entry, after.allLimits.apps.get? "app.scope" = some entry ∧
        diskMatches entry.limitDisks "nvme0n1" = false := by
  intro after
  have missed : (after.allLimits.apps.get? "app.scope").any
      (fun entry => !diskMatches entry.limitDisks "nvme0n1") = true := by
    decide +kernel
  obtain ⟨entry, stored, unmatched⟩ := (Option.any_eq_true _ _).mp missed
  exact ⟨by decide +kernel, entry, stored, by simpa using unmatched⟩

/-- Two disks capped one after the other are both on the list. -/
theorem limit_disks_denote_both :
    ∃ entry, (Runs.run (step "app.scope") .initial
        [limitApp true ["sda"], limitApp true ["nvme0n1"]]).allLimits.apps.get?
          "app.scope" = some entry ∧
      diskMatches entry.limitDisks "sda" = true := by
  have keeping : Runs.EveryStep (step "app.scope")
      (fun balancer entryStep => entryStep.KeepsDisks "app.scope" balancer)
      .initial [limitApp true ["sda"], limitApp true ["nvme0n1"]] := by
    refine ⟨⟨?_, ?_, ?_⟩, ⟨?_, ?_, ?_⟩, trivial⟩
    · intro _ unknown
      cases unknown
    · intro _ _ _ cap _ inForce
      exact absurd inForce (Kernel.not_inForce_pristine cap)
    · intro refused
      exact absurd refused (by decide)
    · intro _ unknown
      cases unknown
    · intro _ _ unrecorded
      exact absurd unrecorded (by decide)
    · intro refused
      exact absurd refused (by decide)
  obtain ⟨entry, stored⟩ := Option.isSome_iff_exists.mp
    (show ((Runs.run (step "app.scope") .initial
      [limitApp true ["sda"], limitApp true ["nvme0n1"]]).allLimits.apps.get?
        "app.scope").isSome = true by decide)
  exact ⟨entry, stored, limit_disks_denote "app.scope" keeping stored
    "app.scope" "sda" (by decide)⟩

end EntryStep

end SmarTune
