import SmarTune.Balancer.DiskBooks
import SmarTune.Balancer.Ownership

/-!
# One entry for each cgroup

An entry lists its key first, so a restore writes on the cgroups of the entry
and nowhere else.  While no cgroup is listed by two entries, restoring one of
them spares the caps of the others.
-/

namespace SmarTune

namespace Balancer

/-! ## Where a restore lifts caps -/

/-- The writes lift caps on the given cgroups only. -/
def LiftsWithin (writes : List KernelWrite) (cgroups : List CgroupId) : Prop :=
  ∀ cap, Clears writes cap → cap.cgroup ∈ cgroups

section LiftsWithin

variable {first second : List KernelWrite} {cgroups : List CgroupId}

theorem liftsWithin_nil : LiftsWithin [] cgroups :=
  fun _ clears => absurd clears (not_clears_nil _)

theorem LiftsWithin.append (firstWithin : LiftsWithin first cgroups)
    (secondWithin : LiftsWithin second cgroups) :
    LiftsWithin (first ++ second) cgroups := by
  rintro cap ⟨write, member, lifts⟩
  rcases List.mem_append.mp member with inFirst | inSecond
  · exact firstWithin cap ⟨write, inFirst, lifts⟩
  · exact secondWithin cap ⟨write, inSecond, lifts⟩

theorem liftsWithin_adjustEach (cpuQuota memHigh : CgroupId → Option Int)
    (outcome : Nat → AdjustOutcome) (cgroups : List CgroupId) :
    LiftsWithin
      (fanOut (adjustEach .low cpuQuota memHigh outcome) cgroups).2 cgroups := by
  rintro cap ⟨write, member, lifts⟩
  obtain ⟨position, cgroup, located, _, rfl⟩ := adjustEach_low_writes.mp member
  rw [lifts.1]
  exact List.mem_of_getElem? located

theorem liftsWithin_unthrottleEach (diskFilter : List DiskName)
    (outcome : Nat → IoCallOutcome) (cgroups : List CgroupId) :
    LiftsWithin (fanOut (unthrottleEach diskFilter outcome) cgroups).2
      cgroups := by
  rintro cap ⟨write, member, lifts⟩
  obtain ⟨cgroup, listed, disk, _, rfl⟩ := unthrottleEach_writes member
  simp only [KernelWrite.Lifts] at lifts
  rw [lifts]
  exact listed

theorem liftsWithin_of_neutral {writes : List KernelWrite}
    (neutral : Neutral writes) :
    LiftsWithin writes cgroups := by
  rintro cap ⟨write, member, lifts⟩
  obtain ⟨_, _, rfl⟩ := neutral write member
  exact lifts.elim

theorem liftsWithin_fullRestoreCall {balancer : Balancer} (appId : CgroupId)
    (entry : LimitedApp) (channel : Channel) (outcomes : RestoreOutcomes) :
    LiftsWithin (balancer.fullRestoreCall appId entry channel outcomes).2
      (appId :: entry.cgroups.drop 1) := by
  unfold fullRestoreCall
  split
  · exact liftsWithin_nil
  · cases channel with
    | sys => exact liftsWithin_adjustEach _ _ _ _
    | diskIo => exact liftsWithin_unthrottleEach _ _ _

theorem liftsWithin_manualRestoreWrites (key : CgroupId) (entry : LimitedApp)
    (outcomes : ManualRestoreOutcomes) :
    LiftsWithin (manualRestoreWrites key entry outcomes)
      (entry.cgroupsOrKey key) := by
  refine LiftsWithin.append (LiftsWithin.append ?_ ?_) ?_
  · unfold manualRestoreCpuMem
    split
    · exact liftsWithin_adjustEach _ _ _ _
    · exact liftsWithin_nil
  · unfold manualRestoreIo
    split
    · exact liftsWithin_unthrottleEach _ _ _
    · exact liftsWithin_nil
  · unfold manualRestoreThaw
    split
    · exact liftsWithin_of_neutral (neutral_thawCgroups _ _)
    · exact liftsWithin_nil

theorem cgroup_eq_of_clears_round {entry : LimitedApp}
    {outcomes : EntryOutcomes} {position : Nat} {cgroup : CgroupId} {cap : Cap}
    (clears : Clears (restoreEntryRound entry outcomes position cgroup) cap) :
    cap.cgroup = cgroup := by
  obtain ⟨write, member, lifts⟩ := clears
  unfold restoreEntryRound at member
  split at member
  · rw [List.mem_singleton.mp member] at lifts
    exact lifts
  rcases List.mem_append.mp member with inCpuMem | inIo
  · split at inCpuMem
    · rw [adjustResources_low] at inCpuMem
      cases accepted : (outcomes.adjust position).setProperty <;>
        simp only [accepted, Bool.false_eq_true, if_false, if_true,
          List.not_mem_nil, List.mem_singleton] at inCpuMem
      rw [inCpuMem] at lifts
      rw [lifts.1]
      rfl
    · cases inCpuMem
  · split at inIo
    · obtain ⟨disk, _, rfl⟩ := restoreDiskIoThrottle_writes inIo
      simp only [KernelWrite.Lifts] at lifts
      rw [lifts]
      rfl
    · cases inIo

theorem liftsWithin_restoreEntryWrites (entry : LimitedApp)
    (outcomes : EntryOutcomes) :
    LiftsWithin (restoreEntryWrites entry outcomes) entry.targets := by
  unfold restoreEntryWrites
  refine LiftsWithin.append ?_ ?_
  · rintro cap ⟨write, member, lifts⟩
    obtain ⟨target, listed, written⟩ := List.mem_flatMap.mp member
    rw [cgroup_eq_of_clears_round ⟨write, written, lifts⟩]
    exact List.mem_of_getElem? (List.mem_zipIdx_iff_getElem?.mp listed)
  · split
    · exact liftsWithin_of_neutral (neutral_thawCgroups _ _)
    · exact liftsWithin_nil

end LiftsWithin

/-! ## Entries list their key first -/

/-- Every entry lists its key first. -/
def KeyFirst (balancer : Balancer) : Prop :=
  ∀ key entry, balancer.allLimits.apps.get? key = some entry →
    entry.cgroups.head? = some key

section KeyFirst

variable {before after balancer : Balancer} {key : CgroupId}
  {entry : LimitedApp}

theorem KeyFirst.narrows (keyFirst : before.KeyFirst)
    (narrows : Narrows before after) :
    after.KeyFirst := by
  intro key entry stored
  obtain ⟨old, storedOld, same⟩ := narrows key entry stored
  have cgroups : entry.cgroups = old.cgroups := congrArg (·.cgroups) same
  rw [cgroups]
  exact keyFirst key old storedOld

theorem KeyFirst.stores (keyFirst : before.KeyFirst)
    (stores : Stores before after key entry)
    (first : entry.cgroups.head? = some key) :
    after.KeyFirst := by
  intro other held stored
  rw [stores other] at stored
  split at stored
  · next same =>
    rw [← Option.some.inj stored, same]
    exact first
  · exact keyFirst other held stored

/-- Dropping duplicates keeps the first element. -/
theorem head?_eraseDups (cgroups : List CgroupId) :
    cgroups.eraseDups.head? = cgroups.head? := by
  cases cgroups with
  | nil => rfl
  | cons cgroup cgroups => simp [List.eraseDups_cons]

theorem head?_cgroups_upsertedEntry {appId : CgroupId} {limit : AutoLimit}
    {now : ℚ} (keyFirst : balancer.KeyFirst)
    (first : limit.cgroups.head? = some appId) :
    (balancer.upsertedEntry appId limit now).cgroups.head? = some appId := by
  unfold upsertedEntry
  cases previous : balancer.autoEntry appId with
  | none => simp [AutoLimit.fresh, head?_eraseDups, first]
  | some entry =>
    have head := keyFirst appId entry (autoEntry_eq_some previous).1
    simp [AutoLimit.merged, head?_eraseDups, head]

theorem KeyFirst.addressed (keyFirst : balancer.KeyFirst)
    (stored : balancer.allLimits.apps.get? key = some entry) :
    entry.targets = entry.cgroups ∧ entry.cgroupsOrKey key = entry.cgroups ∧
      key :: entry.cgroups.drop 1 = entry.cgroups := by
  have head := keyFirst key entry stored
  cases cgroups : entry.cgroups with
  | nil => simp [cgroups] at head
  | cons first extras =>
    obtain rfl : first = key := by simpa [cgroups] using head
    simp [LimitedApp.targets, LimitedApp.cgroupsOrKey, cgroups]

theorem KeyFirst.inForce_manual (keyFirst : balancer.KeyFirst) {appId : String}
    {outcomes : ManualRestoreOutcomes} {cap : Cap}
    (inForce : balancer.kernel.InForce cap)
    (spared : ∀ key entry,
      balancer.allLimits.byPublicId appId .manual = some (key, entry) →
        cap.cgroup ∉ entry.cgroups) :
    (balancer.setRestoreResource appId outcomes).2.kernel.InForce cap := by
  cases found : balancer.allLimits.byPublicId appId .manual with
  | none => simpa [setRestoreResource, found] using inForce
  | some app =>
    obtain ⟨key, entry⟩ := app
    have addressed := (keyFirst.addressed
      (LimitRegistry.byPublicId_eq_some found).1).2.1
    have kernel : (balancer.setRestoreResource appId outcomes).2.kernel =
        balancer.kernel.writeAll (manualRestoreWrites key entry outcomes) := by
      simp [setRestoreResource, found, manualRestoreWrites]
    rw [kernel, inForce_writeAll_of_restoring
      (restoring_manualRestoreWrites key entry outcomes)]
    refine ⟨inForce, fun clears => spared key entry found ?_⟩
    rw [← addressed]
    exact liftsWithin_manualRestoreWrites key entry outcomes cap clears

theorem KeyFirst.inForce_reaper (keyFirst : balancer.KeyFirst)
    {closed : CgroupId → Bool} {outcomes : CgroupId → EntryOutcomes} {cap : Cap}
    (inForce : balancer.kernel.InForce cap)
    (spared : ∀ key entry, balancer.allLimits.apps.get? key = some entry →
      closed key = true → cap.cgroup ∉ entry.cgroups) :
    (balancer.reapClosedApps closed outcomes).kernel.InForce cap := by
  rw [reapClosedApps_kernel, inForce_writeAll_of_restoring
    (restoring_reaperWrites balancer closed outcomes)]
  refine ⟨inForce, ?_⟩
  rintro ⟨write, member, lifts⟩
  obtain ⟨⟨key, entry⟩, gone, written⟩ := List.mem_flatMap.mp member
  obtain ⟨present, isClosed⟩ := List.mem_filter.mp gone
  have stored := (OrderedDict.get?_eq_some_iff _ _ _).mpr present
  refine spared key entry stored isClosed ?_
  rw [← (keyFirst.addressed stored).1]
  exact liftsWithin_restoreEntryWrites entry (outcomes key) cap
    ⟨write, written, lifts⟩

theorem KeyFirst.inForce_user (keyFirst : balancer.KeyFirst) {appId : String}
    {exclude : Bool} {outcomes : EntryOutcomes} {now : ℚ} {cap : Cap}
    (inForce : balancer.kernel.InForce cap)
    (spared : ∀ key entry, balancer.findAuto appId = some (key, entry) →
      cap.cgroup ∉ entry.cgroups) :
    (balancer.restoreAutoLimited appId exclude outcomes now).2.kernel.InForce
      cap := by
  cases found : balancer.findAuto appId with
  | none => simpa [restoreAutoLimited, found] using inForce
  | some app =>
    obtain ⟨key, entry⟩ := app
    have addressed := (keyFirst.addressed (findAuto_eq_some found).1).1
    have kernel : (balancer.restoreAutoLimited appId exclude outcomes
        now).2.kernel = balancer.kernel.writeAll
          (restoreEntryWrites entry outcomes) := by
      cases succeeded : restoreEntryResult entry outcomes with
      | false => simp [restoreAutoLimited_of_failed found succeeded]
      | true =>
        rw [restoreAutoLimited_of_succeeded found succeeded]
        cases exclude <;> simp [forgetRestored]
    rw [kernel, inForce_writeAll_of_restoring
      (restoring_restoreEntryWrites entry outcomes)]
    refine ⟨inForce, fun clears => spared key entry found ?_⟩
    rw [← addressed]
    exact liftsWithin_restoreEntryWrites entry outcomes cap clears

theorem KeyFirst.inForce_staged (keyFirst : balancer.KeyFirst)
    {channel : Channel} {restoreType : RestoreType} {outcomes : RestoreOutcomes}
    {cap : Cap} (inForce : balancer.kernel.InForce cap)
    (spared : ∀ key entry,
      balancer.allLimits.firstAutoWithPart channel (restoreType = .partially) =
        some (key, entry) → cap.cgroup ∉ entry.cgroups) :
    (balancer.restored (.staged channel restoreType outcomes)).kernel.InForce
      cap := by
  simp only [restored, restoreChannel, undisturbed, Bool.false_eq_true,
    if_false]
  cases found : balancer.allLimits.firstAutoWithPart channel
      (restoreType = .partially) with
  | none => exact inForce
  | some app =>
    obtain ⟨key, entry⟩ := app
    have stored := (LimitRegistry.firstAutoWithPart_eq_some found).1
    simp only
    cases restoreType with
    | partially =>
      rw [restoreChannelFor_partially_kernel stored]
      cases called : balancer.partialRestoreCall key entry channel outcomes with
      | error error => exact inForce
      | ok call =>
        exact (inForce_writeAll_of_limiting
          (limiting_partialRestoreCall called).1 _ _).mpr
          (Or.inl inForce)
    | full =>
      rw [restoreChannelFor_full_kernel stored, inForce_writeAll_of_restoring
          (restoring_fullRestoreCall channel outcomes)]
      refine ⟨inForce, fun clears => spared key entry found ?_⟩
      rw [← (keyFirst.addressed stored).2.2]
      exact liftsWithin_fullRestoreCall key entry channel outcomes cap clears

theorem KeyFirst.inForce_restored (keyFirst : balancer.KeyFirst)
    {path : RestorePath} {cap : Cap} (inForce : balancer.kernel.InForce cap)
    (spared : ∀ key entry, balancer.RestoreTarget key entry path →
      cap.cgroup ∉ entry.cgroups) :
    (balancer.restored path).kernel.InForce cap := by
  cases path with
  | manual appId outcomes => exact keyFirst.inForce_manual inForce spared
  | reaper closed outcomes =>
    exact keyFirst.inForce_reaper inForce fun key entry stored isClosed =>
      spared key entry ⟨stored, isClosed⟩
  | user appId exclude outcomes now =>
    exact keyFirst.inForce_user inForce spared
  | staged channel restoreType outcomes =>
    exact keyFirst.inForce_staged inForce spared

end KeyFirst

end Balancer

/-! ## Every history -/

namespace LimitSystem

open Balancer

/-- No entry under another key lists a cgroup of what is stored: for an apply,
once the disk cap that yields to it has been lifted. -/
def OwnsAlone (system : LimitSystem) : LimitOperation → Prop
  | .applyLimits target appId limitRates _ isDiskIoStressed _ outcomes =>
    system.balancer.RecordsAuto target appId limitRates isDiskIoStressed
        outcomes →
      ∀ other held, other ≠ appId →
        (system.balancer.yieldIoCap appId isDiskIoStressed
          outcomes).allLimits.apps.get? other = some held →
        ∀ cgroup ∈ appId :: target.extraCgroups, cgroup ∉ held.cgroups
  | .limit request outcomes =>
    ∀ plan, system.balancer.installPlan request outcomes = .ok plan →
      (plan.accepted system.balancer.isRunning outcomes).any = true →
      ∀ other held, other ≠ plan.primary →
        system.balancer.allLimits.apps.get? other = some held →
        ∀ cgroup ∈ plan.cgroups, cgroup ∉ held.cgroups
  | _ => True

/-- What holds of every state reached: cgroups have one owner, and entries list
their key first. -/
structure SoleOwners (balancer : Balancer) : Prop where
  separated : Holdings.Separated (fun _ _ => True) balancer.holdings
  keyFirst : balancer.KeyFirst

section SoleOwners

variable {system : LimitSystem}

theorem fits_handoff
    (separated : Holdings.Separated (fun _ _ => True) system.balancer.holdings)
    {key : CgroupId} {entry old : LimitedApp}
    (flips : system.balancer.FlipsAuto key entry old) :
    Holdings.Fits (fun _ _ => True) system.balancer.holdings key
      (.manual, cgroupSet entry.cgroups) := by
  intro other held different holds _
  rw [flips.cgroups]
  exact separated.fits (holdings_of_some flips.stored) other held different
    holds trivial

theorem storesFitting_of_ownsAlone
    (separated : Holdings.Separated (fun _ _ => True) system.balancer.holdings)
    {operation : LimitOperation} (alone : system.OwnsAlone operation) :
    system.StoresFitting (fun _ _ => True) operation := by
  cases operation with
  | applyLimits target appId limitRates isControlled isDiskIoStressed
      pressureLevel outcomes =>
      intro records
      rw [fits_iff]
      intro other held different stored _
      exact alone records other held different stored
  | limit request outcomes =>
    intro plan planned recorded
    rw [fits_iff]
    intro other held different stored _
    exact alone plan planned recorded other held different stored
  | lockToManual appId currentControlled now =>
    intro key entry target
    obtain ⟨old, flips⟩ := lockTarget_eq_some target
    exact fits_handoff separated flips
  | adopt effectiveAppId newAppId newAppName priority now =>
    intro key entry target
    obtain ⟨old, flips⟩ := adoptTarget_eq_some target
    exact fits_handoff separated flips
  | _ => trivial

theorem keyFirst_handOverTarget (keyFirst : system.balancer.KeyFirst)
    {target : Option (CgroupId × LimitedApp)}
    (flips : ∀ key entry, target = some (key, entry) →
      ∃ old, system.balancer.FlipsAuto key entry old)
    (now : ℚ) :
    (system.balancer.handOverTarget target now).KeyFirst := by
  cases target with
  | none => exact keyFirst
  | some app =>
    obtain ⟨key, entry⟩ := app
    obtain ⟨old, flipsOld⟩ := flips key entry rfl
    refine keyFirst.stores (stores_handOver key entry now) ?_
    have head := keyFirst key old flipsOld.stored
    rwa [← flipsOld.cgroups] at head

theorem keyFirst_step (keyFirst : system.balancer.KeyFirst)
    (operation : LimitOperation) :
    (system.step operation).balancer.KeyFirst := by
  cases operation with
  | applyLimits target appId limitRates isControlled isDiskIoStressed
      pressureLevel outcomes =>
      by_cases records : system.balancer.RecordsAuto target appId limitRates
          isDiskIoStressed outcomes
      · have yielded := keyFirst.narrows
          (narrows_yieldIoCap appId isDiskIoStressed outcomes)
        exact yielded.stores (stores_applyResourceLimits records)
          (head?_cgroups_upsertedEntry yielded rfl)
      · exact keyFirst.narrows (narrows_applyResourceLimits records)
  | limit request outcomes =>
    simp only [step]
    cases planned : system.balancer.installPlan request outcomes with
    | error reply => rwa [installResourceLimit_refused planned]
    | ok plan =>
      cases recorded :
          (plan.accepted system.balancer.isRunning outcomes).any with
      | false =>
        exact keyFirst.narrows (narrows_of_same
          (installResourceLimit_get?_of_unrecorded planned recorded))
      | true =>
        exact keyFirst.stores (stores_installResourceLimit planned recorded) rfl
  | deferredIo position outcome =>
    simp only [step]
    cases system.pending[position]? with
    | none => exact keyFirst
    | some deferred =>
      exact keyFirst.narrows (narrows_applyDeferredIoCap deferred outcome)
  | freeze appId freeze outcomes =>
    exact keyFirst.narrows (narrows_setFreeze appId freeze outcomes)
  | restore path =>
    exact keyFirst.narrows (narrows_restored system.balancer path)
  | lockToManual appId currentControlled now =>
    simp only [step, lockToManual_eq]
    exact keyFirst_handOverTarget keyFirst (fun _ _ => lockTarget_eq_some) now
  | adopt effectiveAppId newAppId newAppName priority now =>
    simp only [step, adoptAutoLimit_eq]
    exact keyFirst_handOverTarget keyFirst (fun _ _ => adoptTarget_eq_some) now
  | removeExclusion ident =>
    exact keyFirst.narrows
      (narrows_removeAutoLimitExclusion system.balancer ident)
  | shutdown outcomes =>
    exact keyFirst.narrows (narrows_shutdown system.balancer outcomes)

theorem SoleOwners.step (owners : SoleOwners system.balancer)
    {operation : LimitOperation} (alone : system.OwnsAlone operation) :
    SoleOwners (system.step operation).balancer where
  separated :=
    (separated_step_iff (fun _ _ _ => trivial) owners.separated operation).mpr
      (storesFitting_of_ownsAlone owners.separated alone)
  keyFirst := keyFirst_step owners.keyFirst operation

/-- A service that has just started has no entries. -/
theorem soleOwners_initial : SoleOwners initial.balancer where
  separated := Holdings.separated_nothing
  keyFirst := by
    intro key entry stored
    cases stored

/-- In a history whose applies and installs store cgroups no other entry lists,
no two entries list a common cgroup, and no restore lifts a cap that an entry
it does not restore claims. -/
theorem one_entry_per_cgroup {operations : List LimitOperation}
    (keeping : Runs.EveryStep step OwnsAlone initial operations) :
    let balancer := (Runs.run step initial operations).balancer
    (∀ key other entry held, key ≠ other →
      balancer.allLimits.apps.get? key = some entry →
      balancer.allLimits.apps.get? other = some held →
      ∀ cgroup ∈ entry.cgroups, cgroup ∉ held.cgroups) ∧
    ∀ path other held, balancer.allLimits.apps.get? other = some held →
      ¬ balancer.RestoreTarget other held path →
      ∀ cap, held.Lists cap → balancer.kernel.InForce cap →
        (balancer.restored path).kernel.InForce cap := by
  have owners : SoleOwners (Runs.run step initial operations).balancer :=
    Runs.invariant_run (fun system => SoleOwners system.balancer)
      (fun _ _ before alone => before.step alone) soleOwners_initial keeping
  have apart := separated_iff.mp owners.separated
  refine ⟨?_, ?_⟩
  · intro key other entry held different stored storedOther
    exact apart key other entry held different stored storedOther trivial
  · intro path other held stored untouched cap lists inForce
    apply owners.keyFirst.inForce_restored inForce
    intro key entry target listed
    have storedEntry := target.stored
    by_cases same : key = other
    · subst same
      rw [storedEntry] at stored
      cases stored
      exact untouched target
    · exact apart key other entry held same storedEntry stored trivial
        cap.cgroup listed lists.2

end SoleOwners

/-- The app is limited in `b.scope`, then in `a.scope` and `b.scope`: the second
limit is keyed by `a.scope` and both entries list `b.scope`. -/
theorem growth_splits_ownership :
    ∃ key other entry held, key ≠ other ∧
      (Runs.run step initial [limitCpu "b.scope" [],
        limitCpu "a.scope" ["b.scope"]]).balancer.allLimits.apps.get? key =
          some entry ∧
      (Runs.run step initial [limitCpu "b.scope" [],
        limitCpu "a.scope" ["b.scope"]]).balancer.allLimits.apps.get? other =
          some held ∧
      "b.scope" ∈ entry.cgroups ∧ "b.scope" ∈ held.cgroups := by
  have listed : ∀ key ∈ ["a.scope", "b.scope"],
      ((Runs.run step initial [limitCpu "b.scope" [],
        limitCpu "a.scope" ["b.scope"]]).balancer.allLimits.apps.get? key).any
          (fun entry => entry.cgroups.contains "b.scope") = true := by
    decide +kernel
  have found : ∀ key ∈ ["a.scope", "b.scope"], ∃ entry,
      (Runs.run step initial [limitCpu "b.scope" [],
        limitCpu "a.scope" ["b.scope"]]).balancer.allLimits.apps.get? key =
          some entry ∧ "b.scope" ∈ entry.cgroups := by
    intro key member
    obtain ⟨entry, stored, contained⟩ :=
      (Option.any_eq_true _ _).mp (listed key member)
    exact ⟨entry, stored, List.contains_iff_mem.mp contained⟩
  obtain ⟨entry, stored, member⟩ := found "a.scope" (by decide)
  obtain ⟨held, storedOther, memberOther⟩ := found "b.scope" (by decide)
  exact ⟨"a.scope", "b.scope", entry, held, by decide, stored, storedOther,
    member, memberOther⟩

/-- Limited twice under the same first cgroup, the app has one entry. -/
theorem one_entry_after_growth :
    ¬ ∃ key other entry held, key ≠ other ∧
      (Runs.run step initial [limitCpu "a.scope" [],
        limitCpu "a.scope" ["b.scope"]]).balancer.allLimits.apps.get? key =
          some entry ∧
      (Runs.run step initial [limitCpu "a.scope" [],
        limitCpu "a.scope" ["b.scope"]]).balancer.allLimits.apps.get? other =
          some held ∧
      ∃ cgroup ∈ entry.cgroups, cgroup ∈ held.cgroups := by
  have keys : ∀ app ∈ ((initial.step
      (limitCpu "a.scope" [])).balancer.yieldIoCap "a.scope" false
        (.accepting [] 0)).allLimits.apps.entries, app.1 = "a.scope" := by
    decide +kernel
  have keeping : Runs.EveryStep step OwnsAlone initial
      [limitCpu "a.scope" [], limitCpu "a.scope" ["b.scope"]] := by
    refine ⟨?_, ?_, trivial⟩
    · intro _ other held _ stored
      cases stored
    · intro _ other held different stored
      exact absurd (keys _ ((OrderedDict.get?_eq_some_iff _ _ _).mp stored))
        different
  rintro ⟨key, other, entry, held, different, stored, storedOther, cgroup,
    listed, listedOther⟩
  exact (one_entry_per_cgroup keeping).1 key other entry held different stored
    storedOther cgroup listed listedOther

end LimitSystem

end SmarTune
