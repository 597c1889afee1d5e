import SmarTune.Balancer.Books

/-!
# Caps of one auto limit

What one `_apply_resource_limits` call leaves of the auto books.  The call
writes every cgroup of the candidate but records the limit only when the
primary cgroup accepted it, and recording merges disk lists whose empty case
means every disk.
-/

namespace SmarTune

namespace Balancer

/-- The caps in force and the auto entries that cover them. -/
abbrev autoBooks : Balancer → Ledger CgroupId Cap := books AutoAnswers

/-! ## The recorded entry -/

/-- What the auto entry under a key contributes to a merged one. -/
def previousParts (balancer : Balancer) (appId : CgroupId) : LimitParts :=
  ((balancer.autoEntry appId).map (·.limitParts)).getD .none

/-- The cgroups of the auto entry under a key. -/
def previousCgroups (balancer : Balancer) (appId : CgroupId) :
    List CgroupId :=
  ((balancer.autoEntry appId).map (·.cgroups)).getD []

/-- The disks of the auto entry under a key. -/
def previousDisks (balancer : Balancer) (appId : CgroupId) : List DiskName :=
  ((balancer.autoEntry appId).map (·.limitDisks)).getD []

/-- The recorded entry denotes the union of the disk lists. -/
theorem onDisks_upsertedEntry_iff (balancer : Balancer) (appId : CgroupId)
    (limit : AutoLimit) (now : ℚ) (cap : Cap) :
    cap.OnDisks (balancer.upsertedEntry appId limit now).limitDisks ↔
      cap.OnDisks (balancer.previousDisks appId ++ limit.limitDisks) := by
  unfold upsertedEntry previousDisks
  cases balancer.autoEntry appId with
  | none => rfl
  | some previous => exact Cap.onDisks_congr (fun _ => List.mem_eraseDups) cap

theorem autoAnswers_upsertedEntry_iff (balancer : Balancer) (appId : CgroupId)
    (limit : AutoLimit) (now : ℚ) (cap : Cap) :
    AutoAnswers (balancer.upsertedEntry appId limit now) cap ↔
      ((balancer.previousParts appId).of cap.channel = true ∨
        (⟨limit.resourceLimited, limit.ioLimited⟩ : LimitParts).of
          cap.channel = true) ∧
      (cap.cgroup ∈ balancer.previousCgroups appId ∨
        cap.cgroup ∈ limit.cgroups) ∧
      cap.OnDisks (balancer.previousDisks appId ++ limit.limitDisks) := by
  rw [← onDisks_upsertedEntry_iff balancer appId limit now cap]
  unfold upsertedEntry previousParts previousCgroups
  cases balancer.autoEntry appId <;> cases channel : cap.channel <;>
    simp [AutoAnswers, LimitedApp.Covers, LimitedApp.Lists, AutoLimit.fresh,
      AutoLimit.merged, LimitParts.of, LimitParts.none, channel, and_assoc]

/-- The claim under a key, read off the auto entry stored there. -/
theorem mem_claims_iff_previous {balancer : Balancer} {appId : CgroupId}
    {cap : Cap} :
    cap ∈ balancer.autoBooks.claims appId ↔
      (balancer.previousParts appId).of cap.channel = true ∧
      cap.cgroup ∈ balancer.previousCgroups appId ∧
      cap.OnDisks (balancer.previousDisks appId) := by
  rw [mem_claims]
  unfold previousParts previousCgroups previousDisks autoEntry
  cases balancer.allLimits.apps.get? appId with
  | none => simp
  | some entry =>
    by_cases auto : entry.source = .auto
    · simp [auto, Option.filter, AutoAnswers, LimitedApp.Covers,
        LimitedApp.Lists, and_assoc]
    · simp [auto, Option.filter, AutoAnswers]

/-! ## The caps a call lands -/

section Lands

variable {isRunning : Bool} {target : Candidate} {appId : CgroupId}
  {limitRates : LimitRates} {outcomes : ApplyOutcomes} {cap : Cap}

theorem limiting_applyCpuMem :
    Limiting (applyCpuMem isRunning target appId limitRates outcomes).2 := by
  simp only [applyCpuMem]
  split
  · exact limiting_adjustEach (by decide) _ _ _ _
  · exact limiting_nil

theorem limiting_applyDiskIo :
    Limiting (applyDiskIo isRunning target appId limitRates outcomes).2 := by
  unfold applyDiskIo
  split
  · split
    · exact limiting_throttleEach _ _ _ _
    · exact limiting_nil
  · exact limiting_nil

theorem lands_applyCpuMem
    (lands : Lands
      (applyCpuMem isRunning target appId limitRates outcomes).2 cap) :
    cap.channel = .sys ∧ cap.cgroup ∈ appId :: target.extraCgroups := by
  obtain ⟨write, member, installs⟩ := lands
  simp only [applyCpuMem] at member
  split at member
  · obtain ⟨cgroup, listed, _, _, rfl⟩ := adjustEach_writes (by decide) member
    rw [installs.1]
    exact ⟨rfl, listed⟩
  · simp at member

theorem lands_applyDiskIo
    (lands : Lands
      (applyDiskIo isRunning target appId limitRates outcomes).2 cap) :
    cap.channel = .diskIo ∧ cap.cgroup ∈ appId :: target.extraCgroups := by
  obtain ⟨write, member, installs⟩ := lands
  unfold applyDiskIo at member
  split at member
  · split at member
    · obtain ⟨cgroup, listed, _, _, _, _, rfl⟩ := throttleEach_writes member
      rw [installs.1]
      exact ⟨rfl, listed⟩
    · simp at member
  · simp at member

end Lands

/-! ## The disk cap that yields -/

theorem mem_claims_restoreChannelFor {balancer : Balancer} {key : CgroupId}
    {entry : LimitedApp} {channel : Channel}
    (stored : balancer.allLimits.apps.get? key = some entry)
    (capped : entry.limitParts.of channel = true) (outcomes : RestoreOutcomes)
    (cap : Cap) :
    cap ∈ (balancer.restoreChannelFor key entry channel .full outcomes
        none).2.autoBooks.claims key ↔
      AutoAnswers entry cap ∧
        (balancer.lifts key entry channel outcomes = true →
          cap.channel ≠ channel) := by
  have someCapped : entry.limitParts.any = true := by
    cases channel <;> simp_all [LimitParts.of, LimitParts.any]
  rw [mem_claims, restoreChannelFor_full_get? stored, if_pos rfl]
  simp only [afterFullRestore]
  cases accepted : (balancer.fullRestoreCall key entry channel outcomes).1
  · have kept : balancer.lifts key entry channel outcomes = false := by
      simp [lifts, accepted]
    simp [kept]
  · cases lifting : balancer.lifts key entry channel outcomes
    · simp [someCapped, AutoAnswers, LimitedApp.Covers, LimitedApp.Lists]
    · cases channel <;> cases place : cap.channel <;>
        cases cpuMem : entry.limitParts.cpuMemLimited <;>
        cases io : entry.limitParts.ioLimited <;>
        simp [AutoAnswers, LimitedApp.Covers, LimitedApp.Lists,
          LimitedApp.clearPart, LimitParts.of, LimitParts.any, place, cpuMem,
          io]

/-! ## When a call keeps its caps -/

/-- The cap is absorbed by the entry recorded under the candidate's key: that
entry, not the yielding one, carries the disk flag and denotes the disk, and
the cap is on a cgroup of the candidate. -/
def AbsorbsCap (balancer : Balancer) (target : Candidate) (appId key : CgroupId)
    (cap : Cap) : Prop :=
  key ≠ appId ∧ (balancer.previousParts appId).ioLimited = true ∧
    cap.OnDisks (balancer.previousDisks appId) ∧
    cap.cgroup ∈ appId :: target.extraCgroups

/-- A sys limit answers for the caps it lands, and for the disk caps that
yielded to it. -/
structure SysApplyKeepsCaps (balancer : Balancer) (target : Candidate)
    (appId : CgroupId) (limitRates : LimitRates)
    (outcomes : ApplyOutcomes) : Prop where
  /-- When the primary refuses, a cap lands only where one was recorded. -/
  landed : (applyCpuMem balancer.isRunning target appId limitRates
      outcomes).1 = false →
    ∀ cap, Lands (applyCpuMem balancer.isRunning target appId limitRates
      outcomes).2 cap → balancer.autoBooks.Claimed cap
  /-- When the primary's disk cap yields, so do the others of the entry. -/
  yielded : ∀ key entry, balancer.yieldTarget appId = some (key, entry) →
    balancer.lifts key entry .diskIo outcomes.yieldIo = true →
    ∀ cap, cap.channel = .diskIo → balancer.kernel.InForce cap →
      AutoAnswers entry cap →
      Clears (balancer.fullRestoreCall key entry .diskIo
          outcomes.yieldIo).2 cap ∨
        balancer.autoBooks.Elsewhere key cap ∨
        ((applyCpuMem balancer.isRunning target appId limitRates
            outcomes).1 = true ∧
          balancer.AbsorbsCap target appId key cap)

/-- A disk limit answers for the caps it lands, and goes on answering for the
disk caps recorded before. -/
structure DiskApplyKeepsCaps (balancer : Balancer) (target : Candidate)
    (appId : CgroupId) (limitRates : LimitRates)
    (outcomes : ApplyOutcomes) : Prop where
  /-- When the primary refuses, a cap lands only where one was recorded. -/
  refused : (applyDiskIo balancer.isRunning target appId limitRates
      outcomes).1 = false →
    ∀ cap, Lands (applyDiskIo balancer.isRunning target appId limitRates
      outcomes).2 cap → balancer.autoBooks.Claimed cap
  /-- When the primary accepts, the disks recorded before and now denote every
  disk that is capped now or was covered before. -/
  accepted : (applyDiskIo balancer.isRunning target appId limitRates
      outcomes).1 = true →
    ∀ cap, cap.channel = .diskIo →
      (Lands (applyDiskIo balancer.isRunning target appId limitRates
          outcomes).2 cap ∨
        (balancer.kernel.InForce cap ∧ cap ∈ balancer.autoBooks.claims appId)) →
      cap.OnDisks (balancer.previousDisks appId ++ outcomes.stressedDisks) ∨
        balancer.autoBooks.Elsewhere appId cap

/-- The condition on one call, read off its arguments and the state before. -/
def ApplyKeepsCaps (balancer : Balancer) (target : Candidate) (appId : CgroupId)
    (limitRates : LimitRates) (isDiskIoStressed : Bool)
    (outcomes : ApplyOutcomes) : Prop :=
  balancer.manualLimited target appId = false →
    if isDiskIoStressed then
      balancer.DiskApplyKeepsCaps target appId limitRates outcomes
    else balancer.SysApplyKeepsCaps target appId limitRates outcomes

/-- The caps a call writes. -/
def applyWrites (balancer : Balancer) (target : Candidate) (appId : CgroupId)
    (limitRates : LimitRates) (isDiskIoStressed : Bool)
    (outcomes : ApplyOutcomes) : List KernelWrite :=
  if balancer.manualLimited target appId then []
  else (applyChannel balancer.isRunning target appId limitRates
    isDiskIoStressed outcomes).2

/-! ## A disk limit -/

section Apply

variable {balancer : Balancer} {target : Candidate} {appId : CgroupId}
  {limitRates : LimitRates} {isControlled : Bool} {pressureLevel : String}
  {outcomes : ApplyOutcomes}

theorem recorded_iff (yielded : Balancer) (isDiskIoStressed : Bool)
    (cap : Cap) :
    AutoAnswers (yielded.upsertedEntry appId
        (autoLimitOf target appId limitRates isControlled isDiskIoStressed
          pressureLevel outcomes) outcomes.now) cap ↔
      ((yielded.previousParts appId).of cap.channel = true ∨
        cap.channel = if isDiskIoStressed then .diskIo else .sys) ∧
      (cap.cgroup ∈ yielded.previousCgroups appId ∨
        cap.cgroup ∈ appId :: target.extraCgroups) ∧
      cap.OnDisks (yielded.previousDisks appId ++
        if isDiskIoStressed then outcomes.stressedDisks else []) := by
  rw [autoAnswers_upsertedEntry_iff]
  cases isDiskIoStressed <;> cases cap.channel <;>
    simp [autoLimitOf, LimitParts.of]

/-- The state after a call, seen from the state its cap was written in. -/
theorem books_record (yielded : Balancer) (call : ControllerCall)
    (limit : AutoLimit) (now : ℚ) (cap : Cap) :
    (if call.1 then (yielded.writes call.2).upsertAutoLimited appId limit now
      else yielded.writes call.2).autoBooks.Claimed cap ↔
      if call.1 then
        AutoAnswers (yielded.upsertedEntry appId limit now) cap ∨
          yielded.autoBooks.Elsewhere appId cap
      else yielded.autoBooks.Claimed cap := by
  split
  · have changed : Ledger.Reassigns appId yielded.autoBooks
        ((yielded.writes call.2).upsertAutoLimited appId limit
          now).autoBooks := by
      apply reassigns
      intro other different
      simp only [upsertAutoLimited, emit_allLimits, withApps_apps,
        writes_allLimits]
      exact OrderedDict.get?_set_of_ne _ _ different
    have recorded : ∀ cap, cap ∈ ((yielded.writes call.2).upsertAutoLimited
          appId limit now).autoBooks.claims appId ↔
        AutoAnswers (yielded.upsertedEntry appId limit now) cap := by
      intro cap
      apply mem_claims_of_some
      simp only [upsertAutoLimited, emit_allLimits, withApps_apps]
      exact OrderedDict.get?_set_self _ _ _
    rw [changed.claimed_iff, recorded]
  · rfl

theorem inForce_record (yielded : Balancer) {call : ControllerCall}
    (limiting : Limiting call.2) (limit : AutoLimit) (now : ℚ) (cap : Cap) :
    (if call.1 then (yielded.writes call.2).upsertAutoLimited appId limit now
      else yielded.writes call.2).kernel.InForce cap ↔
      yielded.kernel.InForce cap ∨ Lands call.2 cap := by
  rw [← inForce_writeAll_of_limiting limiting]
  split <;> simp [upsertAutoLimited]

theorem disk_apply_covered_iff
    (free : balancer.manualLimited target appId = false) :
    (∀ cap,
      (balancer.applyResourceLimits target appId limitRates isControlled true
        pressureLevel outcomes).kernel.InForce cap →
      (Lands (balancer.applyWrites target appId limitRates true outcomes) cap ∨
        balancer.autoBooks.Claimed cap) →
      (balancer.applyResourceLimits target appId limitRates isControlled true
        pressureLevel outcomes).autoBooks.Claimed cap) ↔
      balancer.DiskApplyKeepsCaps target appId limitRates outcomes := by
  simp only [applyResourceLimits, applyWrites, free, Bool.false_eq_true,
    if_false, yieldIoCap, applyChannel, if_true]
  simp only [inForce_record balancer limiting_applyDiskIo,
    books_record balancer]
  simp only [recorded_iff, if_true]
  cases accepted : (applyDiskIo balancer.isRunning target appId limitRates
      outcomes).1
  · simp only [Bool.false_eq_true, if_false]
    constructor
    · intro kept
      refine ⟨fun _ cap lands => kept cap (Or.inr lands) (Or.inl lands), ?_⟩
      intro contradiction
      simp [accepted] at contradiction
    · rintro keeps cap _ (lands | claimed)
      · exact keeps.refused accepted cap lands
      · exact claimed
  · simp only [if_true]
    constructor
    · intro kept
      refine ⟨fun contradiction => by simp [accepted] at contradiction, ?_⟩
      intro _ cap _ capped
      rcases capped with lands | ⟨inForce, claimed⟩
      · exact (kept cap (Or.inr lands) (Or.inl lands)).imp_left
          fun recorded => recorded.2.2
      · exact (kept cap (Or.inl inForce) (Or.inr ⟨appId, claimed⟩)).imp_left
          fun recorded => recorded.2.2
    · rintro keeps cap inForce (lands | claimed)
      · obtain ⟨channel, listed⟩ := lands_applyDiskIo lands
        exact (keeps.accepted accepted cap channel (Or.inl lands)).imp_left
          fun onDisks => ⟨Or.inr channel, Or.inr listed, onDisks⟩
      · rcases (balancer.autoBooks.claimed_iff appId cap).mp claimed with
          previous | elsewhere
        · obtain ⟨flag, listed, onDisks⟩ := mem_claims_iff_previous.mp previous
          cases channel : cap.channel with
          | sys =>
            left
            rw [channel] at flag
            refine ⟨Or.inl flag, Or.inl listed, ?_⟩
            cases cap with
            | cpuMem cgroup => trivial
            | io cgroup disk => simp [Cap.channel] at channel
          | diskIo =>
            have capped := inForce.symm.imp_right
              fun old => (⟨old, previous⟩ : _ ∧ _)
            exact (keeps.accepted accepted cap channel capped).imp_left
              fun onDisks => ⟨Or.inr rfl, Or.inl listed, onDisks⟩
        · exact Or.inr elsewhere

/-! ## A sys limit -/

/-- The writes of the disk cap that yields. -/
def yieldWrites (balancer : Balancer) (appId : CgroupId)
    (outcomes : RestoreOutcomes) : List KernelWrite :=
  match balancer.yieldTarget appId with
  | none => []
  | some (key, entry) => (balancer.fullRestoreCall key entry .diskIo outcomes).2

theorem restoring_yieldWrites (outcomes : RestoreOutcomes) :
    Restoring (balancer.yieldWrites appId outcomes) := by
  unfold yieldWrites
  split
  · exact restoring_nil
  · exact restoring_fullRestoreCall _ _

theorem yield_inForce_iff (outcomes : RestoreOutcomes) (cap : Cap) :
    (balancer.clearIoCapBeforeSysLimit appId outcomes).kernel.InForce cap ↔
      balancer.kernel.InForce cap ∧
        ¬ Clears (balancer.yieldWrites appId outcomes) cap := by
  rw [clearIoCapBeforeSysLimit_eq,
    ← inForce_writeAll_of_restoring (restoring_yieldWrites outcomes)]
  unfold yieldWrites
  cases yields : balancer.yieldTarget appId with
  | none => rfl
  | some app =>
    obtain ⟨key, entry⟩ := app
    simp only
    rw [restoreChannelFor_full_kernel (yieldTarget_eq_some yields).1]

theorem yield_isRunning (outcomes : RestoreOutcomes) :
    (balancer.clearIoCapBeforeSysLimit appId outcomes).isRunning =
      balancer.isRunning := by
  rw [clearIoCapBeforeSysLimit_eq]
  split
  · rfl
  · exact restoreChannelFor_isRunning ..

variable {key : CgroupId} {entry : LimitedApp} {cap : Cap}

theorem yield_reassigns
    (yields : balancer.yieldTarget appId = some (key, entry))
    (outcomes : RestoreOutcomes) :
    Ledger.Reassigns key balancer.autoBooks
      (balancer.clearIoCapBeforeSysLimit appId outcomes).autoBooks := by
  apply reassigns
  intro other different
  rw [clearIoCapBeforeSysLimit_eq, yields]
  simp only
  rw [restoreChannelFor_full_get? (yieldTarget_eq_some yields).1,
    if_neg different]

theorem yield_claims (yields : balancer.yieldTarget appId = some (key, entry))
    (outcomes : RestoreOutcomes) (cap : Cap) :
    cap ∈ (balancer.clearIoCapBeforeSysLimit appId
        outcomes).autoBooks.claims key ↔
      AutoAnswers entry cap ∧
        (balancer.lifts key entry .diskIo outcomes = true →
          cap.channel ≠ .diskIo) := by
  obtain ⟨stored, _, capped⟩ := yieldTarget_eq_some yields
  rw [clearIoCapBeforeSysLimit_eq, yields]
  exact mem_claims_restoreChannelFor stored capped outcomes cap

theorem yield_claimed_iff (outcomes : RestoreOutcomes) (cap : Cap) :
    (balancer.clearIoCapBeforeSysLimit appId outcomes).autoBooks.Claimed cap ↔
      balancer.autoBooks.Claimed cap ∧
        ∀ key entry, balancer.yieldTarget appId = some (key, entry) →
          balancer.lifts key entry .diskIo outcomes = true →
          cap.channel = .diskIo → balancer.autoBooks.Elsewhere key cap := by
  cases yields : balancer.yieldTarget appId with
  | none => simp [clearIoCapBeforeSysLimit_eq, yields]
  | some app =>
    obtain ⟨key, entry⟩ := app
    have stored := (yieldTarget_eq_some yields).1
    have before : cap ∈ balancer.autoBooks.claims key ↔
        AutoAnswers entry cap := mem_claims_of_some stored
    rw [(yield_reassigns yields outcomes).claimed_iff,
      yield_claims yields outcomes, balancer.autoBooks.claimed_iff key,
      before]
    simp only [Option.some.injEq, Prod.mk.injEq]
    constructor
    · rintro (⟨answers, kept⟩ | elsewhere)
      · refine ⟨Or.inl answers, ?_⟩
        rintro _ _ ⟨rfl, rfl⟩ lifted channel
        exact absurd channel (kept lifted)
      · refine ⟨Or.inr elsewhere, ?_⟩
        rintro _ _ ⟨rfl, rfl⟩ _ _
        exact elsewhere
    · rintro ⟨answers | elsewhere, unlessLifted⟩
      · by_cases lost : balancer.lifts key entry .diskIo outcomes = true ∧
            cap.channel = .diskIo
        · exact Or.inr (unlessLifted key entry ⟨rfl, rfl⟩ lost.1 lost.2)
        · exact Or.inl ⟨answers, fun lifted channel =>
            lost ⟨lifted, channel⟩⟩
      · exact Or.inr elsewhere

theorem record_sys_claimed_iff (yielded : Balancer) (cap : Cap) :
    (AutoAnswers (yielded.upsertedEntry appId
        (autoLimitOf target appId limitRates isControlled false pressureLevel
          outcomes) outcomes.now) cap ∨
      yielded.autoBooks.Elsewhere appId cap) ↔
    yielded.autoBooks.Claimed cap ∨ AutoAnswers (yielded.upsertedEntry appId
        (autoLimitOf target appId limitRates isControlled false pressureLevel
          outcomes) outcomes.now) cap := by
  rw [yielded.autoBooks.claimed_iff appId, mem_claims_iff_previous,
    recorded_iff]
  simp only [Bool.false_eq_true, if_false, List.append_nil]
  tauto

/-- The yield leaves the candidate's own entry alone when another one
yields. -/
theorem autoEntry_yield_of_ne
    (yields : balancer.yieldTarget appId = some (key, entry))
    (different : key ≠ appId) (outcomes : RestoreOutcomes) :
    (balancer.clearIoCapBeforeSysLimit appId outcomes).autoEntry appId =
      balancer.autoEntry appId := by
  unfold autoEntry
  rw [clearIoCapBeforeSysLimit_eq, yields]
  simp only
  rw [restoreChannelFor_full_get? (yieldTarget_eq_some yields).1,
    if_neg (Ne.symm different)]

theorem previousParts_yield_self {outcomes : RestoreOutcomes}
    (yields : balancer.yieldTarget appId = some (appId, entry))
    (lifted : balancer.lifts appId entry .diskIo outcomes = true) :
    ((balancer.clearIoCapBeforeSysLimit appId outcomes).previousParts
      appId).ioLimited = false := by
  have accepted :
      (balancer.fullRestoreCall appId entry .diskIo outcomes).1 = true := by
    simp only [lifts, Bool.and_eq_true] at lifted
    exact lifted.2
  unfold previousParts autoEntry
  rw [clearIoCapBeforeSysLimit_eq, yields]
  simp only
  rw [restoreChannelFor_full_get? (yieldTarget_eq_some yields).1, if_pos rfl]
  simp only [afterFullRestore, accepted, lifted, Bool.not_true,
    Bool.false_eq_true, if_false, if_true]
  split
  · simp only [Option.filter]
    split <;> rfl
  · rfl

theorem absorbsCap_of_recorded {key : CgroupId} {entry : LimitedApp} {cap : Cap}
    (yields : balancer.yieldTarget appId = some (key, entry))
    (lifted : balancer.lifts key entry .diskIo outcomes.yieldIo = true)
    (channel : cap.channel = .diskIo)
    (recorded : AutoAnswers ((balancer.clearIoCapBeforeSysLimit appId
        outcomes.yieldIo).upsertedEntry appId
          (autoLimitOf target appId limitRates isControlled false
            pressureLevel outcomes) outcomes.now) cap) :
    balancer.autoBooks.Elsewhere key cap ∨
      balancer.AbsorbsCap target appId key cap := by
  rw [recorded_iff, channel] at recorded
  simp only [Bool.false_eq_true, if_false, reduceCtorEq, or_false,
    List.append_nil] at recorded
  obtain ⟨flag, listed, onDisks⟩ := recorded
  have different : key ≠ appId := by
    rintro rfl
    have cleared := previousParts_yield_self yields lifted
    rw [LimitParts.of, cleared] at flag
    exact absurd flag (by simp)
  have same := autoEntry_yield_of_ne yields different outcomes.yieldIo
  unfold previousParts at flag
  unfold previousCgroups at listed
  unfold previousDisks at onDisks
  rw [same] at flag listed onDisks
  rcases listed with old | new
  · exact Or.inl ⟨appId, Ne.symm different,
      mem_claims_iff_previous.mpr ⟨channel ▸ flag, old, onDisks⟩⟩
  · exact Or.inr ⟨different, flag, onDisks, new⟩

theorem recorded_of_absorbsCap
    (yields : balancer.yieldTarget appId = some (key, entry))
    (channel : cap.channel = .diskIo)
    (absorbs : balancer.AbsorbsCap target appId key cap) :
    AutoAnswers ((balancer.clearIoCapBeforeSysLimit appId
        outcomes.yieldIo).upsertedEntry appId
          (autoLimitOf target appId limitRates isControlled false
            pressureLevel outcomes) outcomes.now) cap := by
  obtain ⟨different, flag, onDisks, listed⟩ := absorbs
  have same := autoEntry_yield_of_ne yields different outcomes.yieldIo
  rw [recorded_iff, channel]
  unfold previousParts previousDisks at *
  rw [same]
  refine ⟨Or.inl flag, Or.inr listed, ?_⟩
  simpa using onDisks

theorem sys_apply_claimed_iff
    (free : balancer.manualLimited target appId = false) (cap : Cap) :
    (balancer.applyResourceLimits target appId limitRates isControlled false
      pressureLevel outcomes).autoBooks.Claimed cap ↔
    (balancer.clearIoCapBeforeSysLimit appId
        outcomes.yieldIo).autoBooks.Claimed cap ∨
      ((applyCpuMem balancer.isRunning target appId limitRates
          outcomes).1 = true ∧
        AutoAnswers ((balancer.clearIoCapBeforeSysLimit appId
          outcomes.yieldIo).upsertedEntry appId
            (autoLimitOf target appId limitRates isControlled false
              pressureLevel outcomes) outcomes.now) cap) := by
  simp only [applyResourceLimits, free, Bool.false_eq_true, if_false,
    yieldIoCap, applyChannel, yield_isRunning, books_record,
    record_sys_claimed_iff]
  cases (applyCpuMem balancer.isRunning target appId limitRates
    outcomes).1 <;> simp

theorem sys_apply_inForce_iff
    (free : balancer.manualLimited target appId = false) (cap : Cap) :
    (balancer.applyResourceLimits target appId limitRates isControlled false
      pressureLevel outcomes).kernel.InForce cap ↔
    (balancer.kernel.InForce cap ∧
      ¬ Clears (balancer.yieldWrites appId outcomes.yieldIo) cap) ∨
    Lands (applyCpuMem balancer.isRunning target appId limitRates
      outcomes).2 cap := by
  simp only [applyResourceLimits, free, Bool.false_eq_true, if_false,
    yieldIoCap, applyChannel, yield_isRunning,
    inForce_record _ limiting_applyCpuMem, yield_inForce_iff]

theorem landed_sys_claimed {cap : Cap}
    (free : balancer.manualLimited target appId = false)
    (keeps : balancer.SysApplyKeepsCaps target appId limitRates outcomes)
    (lands : Lands (applyCpuMem balancer.isRunning target appId limitRates
      outcomes).2 cap) :
    (balancer.applyResourceLimits target appId limitRates isControlled false
      pressureLevel outcomes).autoBooks.Claimed cap := by
  rw [sys_apply_claimed_iff free]
  obtain ⟨channel, listed⟩ := lands_applyCpuMem lands
  cases accepted : (applyCpuMem balancer.isRunning target appId limitRates
      outcomes).1 with
  | false =>
    refine Or.inl ((yield_claimed_iff _ _).mpr
      ⟨keeps.landed accepted cap lands, ?_⟩)
    intro _ _ _ _ io
    rw [channel] at io
    exact absurd io (by simp)
  | true =>
    refine Or.inr ⟨rfl, (recorded_iff _ _ _).mpr
      ⟨Or.inr channel, Or.inr listed, ?_⟩⟩
    cases cap with
    | cpuMem cgroup => trivial
    | io cgroup disk => simp [Cap.channel] at channel

theorem remaining_sys_claimed
    (free : balancer.manualLimited target appId = false)
    (keeps : balancer.SysApplyKeepsCaps target appId limitRates outcomes)
    (claimed : balancer.autoBooks.Claimed cap)
    (old : balancer.kernel.InForce cap)
    (uncleared : ¬ Clears (balancer.yieldWrites appId outcomes.yieldIo) cap) :
    (balancer.applyResourceLimits target appId limitRates isControlled false
      pressureLevel outcomes).autoBooks.Claimed cap := by
  rw [sys_apply_claimed_iff free]
  by_cases lost : ∃ key entry, balancer.yieldTarget appId = some (key, entry) ∧
      balancer.lifts key entry .diskIo outcomes.yieldIo = true ∧
      cap.channel = .diskIo ∧ ¬ balancer.autoBooks.Elsewhere key cap
  · obtain ⟨key, entry, yields, lifted, channel, alone⟩ := lost
    have answers : AutoAnswers entry cap :=
      (mem_claims_of_some (yieldTarget_eq_some yields).1).mp
        (((balancer.autoBooks.claimed_iff key cap).mp
          claimed).resolve_right alone)
    rw [yieldWrites, yields] at uncleared
    rcases keeps.yielded key entry yields lifted cap channel old answers
      with cleared | elsewhere | ⟨accepted, absorbs⟩
    · exact absurd cleared uncleared
    · exact absurd elsewhere alone
    · exact Or.inr ⟨accepted, recorded_of_absorbsCap yields channel absorbs⟩
  · refine Or.inl ((yield_claimed_iff _ _).mpr ⟨claimed, ?_⟩)
    intro key entry yields lifted channel
    by_contra alone
    exact lost ⟨key, entry, yields, lifted, channel, alone⟩

theorem sys_apply_covered_iff
    (free : balancer.manualLimited target appId = false) :
    (∀ cap,
      (balancer.applyResourceLimits target appId limitRates isControlled false
        pressureLevel outcomes).kernel.InForce cap →
      (Lands (balancer.applyWrites target appId limitRates false outcomes) cap ∨
        balancer.autoBooks.Claimed cap) →
      (balancer.applyResourceLimits target appId limitRates isControlled false
        pressureLevel outcomes).autoBooks.Claimed cap) ↔
      balancer.SysApplyKeepsCaps target appId limitRates outcomes := by
  have written : balancer.applyWrites target appId limitRates false outcomes =
      (applyCpuMem balancer.isRunning target appId limitRates outcomes).2 := by
    simp [applyWrites, free, applyChannel]
  simp only [sys_apply_inForce_iff free, written]
  constructor
  · intro kept
    simp only [sys_apply_claimed_iff free] at kept
    constructor
    · intro refused cap lands
      rcases kept cap (Or.inr lands) (Or.inl lands) with claimed | recorded
      · exact ((yield_claimed_iff _ _).mp claimed).1
      · rw [refused] at recorded
        exact absurd recorded.1 (by simp)
    · intro key entry yields lifted cap channel inForce answers
      by_cases cleared : Clears (balancer.fullRestoreCall key entry .diskIo
          outcomes.yieldIo).2 cap
      · exact Or.inl cleared
      right
      have claimed : balancer.autoBooks.Claimed cap :=
        ⟨key, (mem_claims_of_some (yieldTarget_eq_some yields).1).mpr answers⟩
      have uncleared : ¬ Clears
          (balancer.yieldWrites appId outcomes.yieldIo) cap := by
        rw [yieldWrites, yields]
        exact cleared
      rcases kept cap (Or.inl ⟨inForce, uncleared⟩) (Or.inr claimed) with
        stillClaimed | ⟨accepted, recorded⟩
      · exact Or.inl (((yield_claimed_iff _ _).mp stillClaimed).2 key entry
          yields lifted channel)
      · exact (absorbsCap_of_recorded yields lifted channel recorded).imp_right
          fun absorbs => ⟨accepted, absorbs⟩
  · intro keeps cap inForce covered
    by_cases lands : Lands (applyCpuMem balancer.isRunning target appId
        limitRates outcomes).2 cap
    · exact landed_sys_claimed free keeps lands
    · obtain ⟨old, uncleared⟩ := inForce.resolve_right lands
      exact remaining_sys_claimed free keeps (covered.resolve_left lands) old
        uncleared

/-- The auto books keep every cap of a call and every cap they covered exactly
when the call meets the condition. -/
theorem apply_covered_iff (balancer : Balancer) (target : Candidate)
    (appId : CgroupId) (limitRates : LimitRates)
    (isControlled isDiskIoStressed : Bool) (pressureLevel : String)
    (outcomes : ApplyOutcomes) :
    (∀ cap, (balancer.applyResourceLimits target appId limitRates isControlled
        isDiskIoStressed pressureLevel outcomes).kernel.InForce cap →
      (Lands (balancer.applyWrites target appId limitRates isDiskIoStressed
          outcomes) cap ∨
        balancer.autoBooks.Claimed cap) →
      (balancer.applyResourceLimits target appId limitRates isControlled
        isDiskIoStressed pressureLevel outcomes).autoBooks.Claimed cap) ↔
      balancer.ApplyKeepsCaps target appId limitRates isDiskIoStressed
        outcomes := by
  unfold ApplyKeepsCaps
  cases free : balancer.manualLimited target appId with
  | true => simp [applyResourceLimits, applyWrites, free]
  | false =>
    cases isDiskIoStressed with
    | true =>
      rw [disk_apply_covered_iff free]
      simp
    | false =>
      rw [sys_apply_covered_iff free]
      simp

end Apply

/-- An app in two cgroups whose primary refuses the cap. -/
def primaryRefuses : ApplyOutcomes where
  totalMemory := 16000
  memoryReading := fun _ => none
  stressedDisks := []
  mediaScale := fun _ => 1
  listing := .accepting []
  adjust := fun position => if position = 0 then ⟨true, false⟩ else .accepting
  io := fun _ => .accepting []
  yieldIo := ⟨16000, fun _ => 1, .accepting [], fun _ => .accepting,
    fun _ => .accepting []⟩
  now := 0

/-- The primary's write is refused, the extra cgroup is capped and no entry
records it. -/
theorem refused_primary_leaves_extra_unrecorded :
    let target : Candidate := { extraCgroups := ["two.scope"] }
    let rates : LimitRates := ⟨some (some (1 / 2)), none, none⟩
    let after := initial.applyResourceLimits target "one.scope" rates true
      false "critical" primaryRefuses
    after.kernel.InForce (.cpuMem "two.scope") ∧
      Lands (initial.applyWrites target "one.scope" rates false primaryRefuses)
        (.cpuMem "two.scope") ∧
      ¬ after.autoBooks.Claimed (.cpuMem "two.scope") := by
  refine ⟨by decide +kernel, by decide +kernel, ?_⟩
  exact not_claimed_of_entries (by decide +kernel)

end Balancer

end SmarTune
