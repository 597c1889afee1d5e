import SmarTune.Balancer.Ownership

/-!
# The exclusions over a history

Every manual entry is matched by an exclusion, and an exclusion the user made by
a restore stays, as long as no operation drops a record that is still needed:
by writing another one under its key, or by removing it for sharing a cgroup.
-/

namespace SmarTune

/-! ## Records and the ids they match -/

/-- The record matches an id, as `is_excluded` compares ids. -/
def Exclusion.Matches (record : Exclusion) (ident : String) : Prop :=
  ident = record.appId ∨ ident ∈ record.cgroups

/-- The exclusions of a registry, by key. -/
abbrev Exclusions := OrderedDict String Exclusion

namespace LimitRegistry

/-- Some exclusion matches the id. -/
def Exempts (registry : LimitRegistry) (ident : String) : Prop :=
  registry.autoLimitExclusions.Holds fun record => record.Matches ident

end LimitRegistry

/-- The ids an entry answers to besides its key. -/
def LimitedApp.idents (entry : LimitedApp) : List String :=
  entry.publicAppId :: entry.cgroups

def LimitedApp.exclusionKey (entry : LimitedApp) : String :=
  (LimitRegistry.exclusionKey entry.isControlled entry.publicAppId
    (entry.cgroups.headD entry.publicAppId)).2

/-- The exclusion `add_exclusion` records of an entry. -/
def LimitedApp.exclusion (entry : LimitedApp) (reason : ExclusionReason)
    (now : ℚ) : Exclusion where
  key := entry.exclusionKey
  kind := (LimitRegistry.exclusionKey entry.isControlled entry.publicAppId
    (entry.cgroups.headD entry.publicAppId)).1
  reason := reason
  appId := entry.publicAppId
  appName := entry.appName
  priority := entry.priority
  cgroups := entry.cgroups
  excludedAt := now

@[simp] theorem LimitedApp.exclusion_matches_iff (entry : LimitedApp)
    (reason : ExclusionReason) (now : ℚ) (ident : String) :
    (entry.exclusion reason now).Matches ident ↔ ident ∈ entry.idents := by
  simp [Exclusion.Matches, exclusion, idents]

theorem addExclusion_exclusions (registry : LimitRegistry) (entry : LimitedApp)
    (reason : ExclusionReason) (now : ℚ) :
    (registry.addExclusion entry reason now).autoLimitExclusions =
      registry.autoLimitExclusions.set entry.exclusionKey
        (entry.exclusion reason now) := rfl

/-- The key of the record `remove_exclusion` drops. -/
def droppedKey (exclusions : Exclusions) (ident : String) : Option String :=
  if (exclusions.get? ident).isSome then some ident
  else (exclusions.entries.find? fun record =>
    ident = record.2.appId || record.2.cgroups.contains ident).map Prod.fst

/-- The exclusions `remove_exclusion` leaves. -/
def dropExclusion (exclusions : Exclusions) (ident : String) : Exclusions :=
  match droppedKey exclusions ident with
  | some key => exclusions.erase key
  | none => exclusions

theorem removeExclusion_exclusions (registry : LimitRegistry) (ident : String) :
    (registry.removeExclusion ident).autoLimitExclusions =
      dropExclusion registry.autoLimitExclusions ident := by
  simp only [LimitRegistry.removeExclusion, dropExclusion, droppedKey]
  cases found : registry.autoLimitExclusions.get? ident with
  | some record => simp
  | none =>
    simp only [Option.isSome_none, Bool.false_eq_true, if_false]
    cases registry.autoLimitExclusions.entries.find? fun record =>
        ident = record.2.appId || record.2.cgroups.contains ident with
    | none => rfl
    | some record => rfl

/-! ## What the operations do to the exclusions -/

namespace Balancer

/-- The exclusions of the registry. -/
def exclusions (balancer : Balancer) : Exclusions :=
  balancer.allLimits.autoLimitExclusions

section Frame

variable (balancer : Balancer) (key : CgroupId) (entry : LimitedApp)

@[simp] theorem writes_exclusions (writes : List KernelWrite) :
    (balancer.writes writes).exclusions = balancer.exclusions := rfl

@[simp] theorem withApps_exclusions (apps : OrderedDict CgroupId LimitedApp) :
    (balancer.withApps apps).exclusions = balancer.exclusions := rfl

@[simp] theorem emit_exclusions (action : ControlAction) (parts : LimitParts)
    (resourceParts : ResourceParts) (appId appName : String)
    (protectionId : Option ProtectionId) (controlMode : Source) :
    (balancer.emit action parts resourceParts appId appName protectionId
      controlMode).exclusions = balancer.exclusions := by
  simp [exclusions]

@[simp] theorem popEntry_exclusions :
    (balancer.popEntry key).exclusions = balancer.exclusions := rfl

@[simp] theorem popSwept_exclusions :
    (balancer.popSwept key).exclusions = balancer.exclusions := rfl

@[simp] theorem popManual_exclusions :
    (balancer.popManual key).exclusions =
      dropExclusion balancer.exclusions key :=
  removeExclusion_exclusions ..

@[simp] theorem popClosed_exclusions :
    (balancer.popClosed key).exclusions =
      dropExclusion balancer.exclusions key :=
  removeExclusion_exclusions (balancer.popEntry key).allLimits key

@[simp] theorem modifyEntry_exclusions (change : LimitedApp → LimitedApp) :
    (balancer.modifyEntry key change).exclusions = balancer.exclusions := by
  unfold modifyEntry
  split <;> rfl

@[simp] theorem clearPart_exclusions (channel : Channel) :
    (balancer.clearPart key channel).exclusions = balancer.exclusions := by
  unfold clearPart
  split <;> rfl

@[simp] theorem moveToEnd_exclusions (result : Bool) :
    (balancer.moveToEnd key result).2.exclusions = balancer.exclusions := by
  unfold moveToEnd
  split <;> rfl

@[simp] theorem emitChannel_exclusions (action : ControlAction)
    (channel : Channel) :
    (balancer.emitChannel action channel key entry).exclusions =
      balancer.exclusions := emit_exclusions ..

theorem restoreChannelFor_full_exclusions
    (stored : balancer.allLimits.apps.get? key = some entry) (channel : Channel)
    (outcomes : RestoreOutcomes) :
    (balancer.restoreChannelFor key entry channel .full outcomes
      none).2.exclusions = balancer.exclusions := by
  have cleared :
      ((if balancer.lifts key entry channel outcomes
        then balancer.clearPart key channel else balancer).writes
          (balancer.fullRestoreCall key entry channel outcomes).2).exclusions =
      balancer.exclusions := by
    split <;> simp
  simp only [restoreChannelFor, popAt_none, restoreResources_full stored]
  rw [← cleared]
  generalize Balancer.writes _ _ = after
  cases (balancer.fullRestoreCall key entry channel outcomes).1
  · simp
  · simp only [Bool.not_true, Bool.false_eq_true, if_false]
    split <;> simp

/-- Nor does a partial one. -/
theorem restoreChannelFor_partially_exclusions
    (stored : balancer.allLimits.apps.get? key = some entry) (channel : Channel)
    (outcomes : RestoreOutcomes) :
    (balancer.restoreChannelFor key entry channel .partially outcomes
      none).2.exclusions = balancer.exclusions := by
  simp only [restoreChannelFor, popAt_none, restoreResources_partially stored]
  cases balancer.partialRestoreCall key entry channel outcomes with
  | error error => rfl
  | ok call => cases accepted : call.1 <;> simp [accepted]

theorem restoreChannelFor_exclusions
    (stored : balancer.allLimits.apps.get? key = some entry) (channel : Channel)
    (restoreType : RestoreType) (outcomes : RestoreOutcomes) :
    (balancer.restoreChannelFor key entry channel restoreType outcomes
      none).2.exclusions = balancer.exclusions := by
  cases restoreType with
  | partially => exact restoreChannelFor_partially_exclusions _ _ _ stored _ _
  | full => exact restoreChannelFor_full_exclusions _ _ _ stored _ _

@[simp] theorem restoreEntry_exclusions (outcomes : EntryOutcomes) :
    (balancer.restoreEntry entry outcomes).2.exclusions =
      balancer.exclusions := by
  simp [exclusions]

end Frame

section Operations

variable (balancer : Balancer)

theorem yieldIoCap_exclusions (appId : CgroupId) (isDiskIoStressed : Bool)
    (outcomes : ApplyOutcomes) :
    (balancer.yieldIoCap appId isDiskIoStressed outcomes).exclusions =
      balancer.exclusions := by
  unfold yieldIoCap
  split
  · rfl
  · rw [clearIoCapBeforeSysLimit_eq]
    cases yields : balancer.yieldTarget appId with
    | none => rfl
    | some app =>
      obtain ⟨key, entry⟩ := app
      exact restoreChannelFor_exclusions _ _ _ (yieldTarget_eq_some yields).1
        _ _ _

theorem applyResourceLimits_exclusions (target : Candidate) (appId : CgroupId)
    (limitRates : LimitRates) (isControlled isDiskIoStressed : Bool)
    (pressureLevel : String) (outcomes : ApplyOutcomes) :
    (balancer.applyResourceLimits target appId limitRates isControlled
      isDiskIoStressed pressureLevel outcomes).exclusions =
      balancer.exclusions := by
  unfold applyResourceLimits
  split
  · rfl
  · simp only
    split <;> simp [upsertAutoLimited, yieldIoCap_exclusions]

theorem applyDeferredIoCap_exclusions (deferred : DeferredIo)
    (outcome : Nat → IoCallOutcome) :
    (balancer.applyDeferredIoCap deferred outcome).exclusions =
      balancer.exclusions := by
  unfold applyDeferredIoCap
  split
  · rfl
  · simp only [recordDeferredIo]
    split <;> simp

theorem setFreeze_exclusions (appId : String) (freeze : Bool)
    (outcomes : SetFreezeOutcomes) :
    (balancer.setFreeze appId freeze outcomes).2.exclusions =
      balancer.exclusions := by
  unfold setFreeze
  split
  · rfl
  · simp only
    split
    · rfl
    split
    · split <;> rfl
    · simp

theorem installResourceLimit_exclusions {request : LimitRequest}
    {outcomes : InstallOutcomes} {plan : InstallPlan}
    (planned : balancer.installPlan request outcomes = .ok plan) :
    (balancer.installResourceLimit request outcomes).2.2.exclusions =
      if (plan.accepted balancer.isRunning outcomes).any then
        balancer.exclusions.set
          (plan.entry request (plan.accepted balancer.isRunning outcomes)
            outcomes.now).exclusionKey
          ((plan.entry request (plan.accepted balancer.isRunning outcomes)
            outcomes.now).exclusion .manualLimit outcomes.now)
      else balancer.exclusions := by
  simp only [installResourceLimit, planned, InstallPlan.accepted]
  split
  · next recorded =>
    simp only [recorded, if_true, registerManual, emit_exclusions]
    exact addExclusion_exclusions ..
  · next unrecorded =>
    simp [unrecorded]

theorem handOver_exclusions (key : CgroupId) (entry : LimitedApp) (now : ℚ) :
    (balancer.handOver key entry now).exclusions =
      balancer.exclusions.set (handedOver key entry now).exclusionKey
        ((handedOver key entry now).exclusion .manualLimit now) := by
  have emitted := balancer.emit_exclusions .recovered entry.limitParts
    entry.resourceParts entry.publicAppId entry.appName entry.protectionId
    .auto
  simp only [handOver, emit_exclusions]
  rw [exclusions, addExclusion_exclusions, ← emitted]
  rfl

theorem forgetRestored_exclusions (key : CgroupId) (entry : LimitedApp)
    (exclude : Bool) (now : ℚ) :
    (balancer.forgetRestored key entry exclude now).exclusions =
      if exclude then
        balancer.exclusions.set entry.exclusionKey
          (entry.exclusion .userRestore now)
      else balancer.exclusions := by
  cases exclude <;> rfl

theorem setRestoreResource_exclusions {appId : String} {key : CgroupId}
    {entry : LimitedApp}
    (found : balancer.allLimits.byPublicId appId .manual = some (key, entry))
    (outcomes : ManualRestoreOutcomes) :
    (balancer.setRestoreResource appId outcomes).2.exclusions =
      dropExclusion balancer.exclusions key := by
  simp [setRestoreResource, found]

/-- The keys of the entries that a reaper pass forgets. -/
def closedKeys (closed : CgroupId → Bool) : List CgroupId :=
  (balancer.allLimits.apps.entries.filter fun app => closed app.1).map Prod.fst

theorem reapClosedApps_exclusions (closed : CgroupId → Bool)
    (outcomes : CgroupId → EntryOutcomes) :
    (balancer.reapClosedApps closed outcomes).exclusions =
      Runs.run dropExclusion balancer.exclusions
        (balancer.closedKeys closed) := by
  have restored : ∀ (gone : List (CgroupId × LimitedApp)) (after : Balancer),
      (gone.foldl (fun balancer app =>
        (balancer.restoreEntry app.2 (outcomes app.1)).2) after).exclusions =
        after.exclusions := by
    intro gone
    induction gone with
    | nil => exact fun _ => rfl
    | cons app gone ih =>
      intro after
      rw [List.foldl_cons, ih, restoreEntry_exclusions]
  have popped : ∀ (gone : List (CgroupId × LimitedApp)) (before : Balancer),
      (gone.foldl (fun balancer app => balancer.popClosed app.1)
        before).exclusions =
        Runs.run dropExclusion before.exclusions (gone.map Prod.fst) := by
    intro gone
    induction gone with
    | nil => exact fun _ => rfl
    | cons app gone ih =>
      intro before
      rw [List.foldl_cons, ih, popClosed_exclusions]
      rfl
  rw [reapClosedApps, restored, popAllClosed, popped, closedKeys]

theorem shutdown_exclusions (outcomes : CgroupId → EntryOutcomes) :
    (balancer.restoreAllLimitedAppsResources outcomes).exclusions =
      balancer.exclusions := by
  unfold restoreAllLimitedAppsResources
  generalize balancer.allLimits.apps.keys = keys
  induction keys generalizing balancer with
  | nil => rfl
  | cons key keys ih =>
    rw [List.foldl_cons, ih]
    unfold sweepEntry
    split <;> simp

end Operations

end Balancer

/-! ## What must stay -/

/-- Every id of a manual entry is matched by an exclusion. -/
def Balancer.ManualExempted (balancer : Balancer) : Prop :=
  ∀ key entry, balancer.allLimits.apps.get? key = some entry →
    entry.source = .manual →
    ∀ ident ∈ entry.idents, balancer.allLimits.Exempts ident

/-- The exclusions a user made by a restore stay, but for those of the listed
apps. -/
def KeepsUserRestores (before after : Exclusions)
    (ended : String → Prop) : Prop :=
  ∀ key record, record.reason = .userRestore → ¬ ended record.appId →
    before.get? key = some record → after.get? key = some record

namespace LimitSystem

/-- The operation may end an exclusion of the app: it removes an exclusion, or
an entry of the app is found closed. -/
def EndsExclusion (system : LimitSystem)
    (appId : String) : LimitOperation → Prop
  | .removeExclusion _ => True
  | .restore (.reaper closed _) =>
    ∃ key entry, system.balancer.allLimits.apps.get? key = some entry ∧
      closed key = true ∧ entry.publicAppId = appId
  | _ => False

end LimitSystem

namespace Balancer

/-- The exclusion written for an entry takes the place of no exclusion that a
user's restore made, nor of the only one that matches an id of a manual entry
under another key, unless it matches the id as well. -/
structure RecordsFreely (balancer : Balancer) (key : CgroupId)
    (entry : LimitedApp) : Prop where
  noUserRestore : ∀ record,
    balancer.exclusions.get? entry.exclusionKey = some record →
    record.reason ≠ .userRestore
  spares : ∀ other manual, other ≠ key →
    balancer.allLimits.apps.get? other = some manual →
    manual.source = .manual → ∀ ident ∈ manual.idents,
    balancer.exclusions.OnlyAt entry.exclusionKey
      (fun record => record.Matches ident) →
    ident ∈ entry.idents

/-- The exclusion removed for an identifier is none that a user's restore made,
but for the listed apps, nor the only one that matches an id of a manual entry
that stays. -/
structure DropsFreely (balancer : Balancer) (stays : CgroupId → Prop)
    (ended : String → Prop) (exclusions : Exclusions)
    (ident : String) : Prop where
  noUserRestore : ∀ key record, droppedKey exclusions ident = some key →
    exclusions.get? key = some record →
    record.reason = .userRestore → ended record.appId
  spares : ∀ key, droppedKey exclusions ident = some key →
    ∀ other manual, stays other →
    balancer.allLimits.apps.get? other = some manual →
    manual.source = .manual → ∀ needed ∈ manual.idents,
    ¬ exclusions.OnlyAt key (fun record => record.Matches needed)

end Balancer

namespace LimitSystem

open Balancer

/-- When an operation keeps the exclusions that are needed, read off the state
before it and the answers of the environment. -/
def KeepsExclusions (system : LimitSystem) : LimitOperation → Prop
  | .limit request outcomes =>
    ∀ plan, system.balancer.installPlan request outcomes = .ok plan →
      (plan.accepted system.balancer.isRunning outcomes).any = true →
      system.balancer.RecordsFreely plan.primary (plan.entry request
          (plan.accepted system.balancer.isRunning outcomes) outcomes.now)
  | .restore (.manual appId _) =>
    ∀ key entry, system.balancer.allLimits.byPublicId appId .manual =
        some (key, entry) →
      system.balancer.DropsFreely (· ≠ key) (fun _ => False)
        system.balancer.exclusions key
  | .restore (.reaper closed outcomes) =>
    Runs.EveryStep dropExclusion
      (system.balancer.DropsFreely (fun key => closed key = false)
        fun appId => system.EndsExclusion appId
          (.restore (.reaper closed outcomes)))
      system.balancer.exclusions (system.balancer.closedKeys closed)
  | .restore (.user appId true outcomes _) =>
    ∀ key entry, system.balancer.findAuto appId = some (key, entry) →
      restoreEntryResult entry outcomes = true →
      system.balancer.RecordsFreely key entry
  | .lockToManual appId currentControlled now =>
    ∀ key entry, system.balancer.lockTarget appId currentControlled =
        some (key, entry) →
      system.balancer.RecordsFreely key (handedOver key entry now)
  | .adopt effectiveAppId newAppId newAppName priority now =>
    ∀ key entry, system.balancer.adoptTarget effectiveAppId newAppId newAppName
        priority = some (key, entry) →
      system.balancer.RecordsFreely key (handedOver key entry now)
  | .removeExclusion ident =>
    system.balancer.DropsFreely (fun _ => True) (fun _ => True)
      system.balancer.exclusions ident
  | _ => True

end LimitSystem

/-! ## One operation -/

section Step

variable {before after : Balancer}

theorem KeepsUserRestores.of_same {exclusions left : Exclusions}
    (same : left = exclusions) (ended : String → Prop) :
    KeepsUserRestores exclusions left ended := by
  intro key record _ _ stored
  rw [same]
  exact stored

namespace Balancer

/-- Entries that only go, and exclusions left alone. -/
theorem ManualExempted.narrows (exempted : before.ManualExempted)
    (narrows : Narrows before after)
    (same : after.exclusions = before.exclusions) :
    after.ManualExempted := by
  intro key entry stored manual ident listed
  obtain ⟨old, storedOld, identity⟩ := narrows key entry stored
  simp only [LimitedApp.identity, LimitIdentity.mk.injEq] at identity
  have matched := exempted key old storedOld (identity.1 ▸ manual) ident
    (by rw [LimitedApp.idents, ← identity.2.1, ← identity.2.2.2.1]
        exact listed)
  rw [LimitRegistry.Exempts, show after.allLimits.autoLimitExclusions =
    before.allLimits.autoLimitExclusions from same]
  exact matched

theorem ManualExempted.stores_auto {key : CgroupId} {entry : LimitedApp}
    (exempted : before.ManualExempted) (stores : Stores before after key entry)
    (auto : entry.source = .auto)
    (same : after.exclusions = before.exclusions) :
    after.ManualExempted := by
  intro other stored found manual ident listed
  rw [stores other] at found
  split at found
  · rw [← Option.some.inj found, auto] at manual
    cases manual
  · rw [LimitRegistry.Exempts, show after.allLimits.autoLimitExclusions =
      before.allLimits.autoLimitExclusions from same]
    exact exempted other stored found manual ident listed

theorem RecordsFreely.exempted {key : CgroupId} {entry : LimitedApp}
    {reason : ExclusionReason} {now : ℚ}
    (freely : before.RecordsFreely key entry)
    (written : after.exclusions =
      before.exclusions.set entry.exclusionKey (entry.exclusion reason now))
    (lookup : ∀ other manual, after.allLimits.apps.get? other = some manual →
      manual.source = .manual →
      manual.idents = entry.idents ∨
        (other ≠ key ∧ before.allLimits.apps.get? other = some manual)) :
    after.ManualExempted := by
  intro other manual stored owned ident listed
  rw [LimitRegistry.Exempts, show after.allLimits.autoLimitExclusions =
    before.exclusions.set entry.exclusionKey (entry.exclusion reason now)
    from written, OrderedDict.holds_set_iff]
  simp only [LimitedApp.exclusion_matches_iff]
  rcases lookup other manual stored owned with same | ⟨different, kept⟩
  · exact Or.inl (same ▸ listed)
  · by_cases only : before.exclusions.OnlyAt entry.exclusionKey
        fun record => record.Matches ident
    · exact Or.inl
        (freely.spares other manual different kept owned ident listed only)
    · exact Or.inr only

theorem RecordsFreely.keepsUserRestores {key : CgroupId} {entry : LimitedApp}
    {reason : ExclusionReason} {now : ℚ}
    (freely : before.RecordsFreely key entry)
    (written : after.exclusions =
      before.exclusions.set entry.exclusionKey (entry.exclusion reason now))
    (ended : String → Prop) :
    KeepsUserRestores before.exclusions after.exclusions ended := by
  intro other record made _ stored
  rw [written, OrderedDict.get?_set_of_ne _ _ ?_]
  · exact stored
  · rintro rfl
    exact freely.noUserRestore record stored made

end Balancer

theorem holds_dropExclusion {exclusions : Exclusions} {ident : String}
    {property : Exclusion → Prop} (holds : exclusions.Holds property)
    (spares : ∀ key, droppedKey exclusions ident = some key →
      ¬ exclusions.OnlyAt key property) :
    (dropExclusion exclusions ident).Holds property := by
  unfold dropExclusion
  cases dropped : droppedKey exclusions ident with
  | none => exact holds
  | some key =>
    exact (OrderedDict.holds_erase_iff _ _ _).mpr (spares key dropped)

theorem get?_dropExclusion {exclusions : Exclusions} {ident key : String}
    {record : Exclusion} (stored : exclusions.get? key = some record)
    (other : droppedKey exclusions ident ≠ some key) :
    (dropExclusion exclusions ident).get? key = some record := by
  unfold dropExclusion
  cases dropped : droppedKey exclusions ident with
  | none => exact stored
  | some found =>
    simp only
    rw [OrderedDict.get?_erase_of_ne _ ?_]
    · exact stored
    · rintro rfl
      exact other dropped

theorem Balancer.DropsFreely.keepsUserRestores {stays : CgroupId → Prop}
    {ended : String → Prop} {exclusions : Exclusions} {ident : String}
    (freely : before.DropsFreely stays ended exclusions ident) :
    KeepsUserRestores exclusions (dropExclusion exclusions ident) ended := by
  intro key record made ongoing stored
  apply get?_dropExclusion stored
  intro dropped
  exact ongoing (freely.noUserRestore key record dropped stored made)

end Step

namespace LimitSystem

open Balancer

section Operation

variable {system : LimitSystem}

theorem exempted_handOverTarget {target : Option (CgroupId × LimitedApp)}
    {now : ℚ} (exempted : system.balancer.ManualExempted)
    (freely : ∀ key entry, target = some (key, entry) →
      system.balancer.RecordsFreely key (handedOver key entry now)) :
    (system.balancer.handOverTarget target now).ManualExempted := by
  cases target with
  | none => exact exempted
  | some app =>
    obtain ⟨key, entry⟩ := app
    apply (freely key entry rfl).exempted
      (handOver_exclusions system.balancer key entry now)
    intro other manual stored _
    have stores : Stores system.balancer
      (system.balancer.handOver key entry now) key
      (handedOver key entry now) := stores_handOver key entry now
    have looked := (stores other).symm.trans stored
    split at looked
    · exact Or.inl (by rw [Option.some.inj looked])
    · next different => exact Or.inr ⟨different, looked⟩

theorem userRestores_handOverTarget {target : Option (CgroupId × LimitedApp)}
    {now : ℚ}
    (freely : ∀ key entry, target = some (key, entry) →
      system.balancer.RecordsFreely key (handedOver key entry now))
    (ended : String → Prop) :
    KeepsUserRestores system.balancer.exclusions
      (system.balancer.handOverTarget target now).exclusions ended := by
  cases target with
  | none => exact .of_same rfl ended
  | some app =>
    obtain ⟨key, entry⟩ := app
    exact (freely key entry rfl).keepsUserRestores
      (handOver_exclusions system.balancer key entry now) ended

variable {closed : CgroupId → Bool} {outcomes : CgroupId → EntryOutcomes}
  {appId : String} {request : LimitRequest} {operation : LimitOperation}

/-- Every record of a sweep's dropping is spared where it is needed. -/
theorem exempted_reapClosedApps (exempted : system.balancer.ManualExempted)
    (keeps : system.KeepsExclusions (.restore (.reaper closed outcomes))) :
    (system.balancer.reapClosedApps closed outcomes).ManualExempted := by
  intro key entry stored manual ident listed
  rw [reapClosedApps_get?] at stored
  split at stored
  · cases stored
  next stays =>
  simp only [Bool.not_eq_true] at stays
  have held : (Runs.run dropExclusion system.balancer.exclusions
      (system.balancer.closedKeys closed)).Holds
        fun record => record.Matches ident := by
    apply Runs.invariant_run (fun exclusions : Exclusions =>
        exclusions.Holds fun record => record.Matches ident)
      ?_ (exempted key entry stored manual ident listed) keeps
    intro exclusions dropped holds freely
    apply holds_dropExclusion holds
    intro droppedKey found
    exact freely.spares droppedKey found key entry stays stored manual ident
      listed
  rw [← reapClosedApps_exclusions system.balancer closed outcomes] at held
  exact held

theorem userRestores_reapClosedApps
    (keeps : system.KeepsExclusions (.restore (.reaper closed outcomes))) :
    KeepsUserRestores system.balancer.exclusions
      (system.balancer.reapClosedApps closed outcomes).exclusions
      (fun appId => system.EndsExclusion appId
        (.restore (.reaper closed outcomes))) := by
  intro key record made ongoing stored
  rw [reapClosedApps_exclusions]
  apply Runs.invariant_run
    (fun exclusions : Exclusions => exclusions.get? key = some record)
    ?_ stored keeps
  intro exclusions dropped present freely
  exact freely.keepsUserRestores key record made ongoing present

theorem exempted_restoreAutoLimited {appId : String} {exclude : Bool}
    {outcomes : EntryOutcomes} {now : ℚ}
    (exempted : system.balancer.ManualExempted)
    (keeps : system.KeepsExclusions
      (.restore (.user appId exclude outcomes now))) :
    (system.balancer.restoreAutoLimited appId exclude outcomes
      now).2.ManualExempted := by
  have narrows := narrows_restored system.balancer
    (.user appId exclude outcomes now)
  rw [restored] at narrows
  cases found : system.balancer.findAuto appId with
  | none =>
    apply exempted.narrows narrows
    rw [restoreAutoLimited, found]
  | some app =>
    obtain ⟨key, entry⟩ := app
    cases succeeded : restoreEntryResult entry outcomes with
    | false =>
      apply exempted.narrows narrows
      rw [restoreAutoLimited_of_failed found succeeded, restoreEntry_exclusions]
    | true =>
      cases exclude with
      | false =>
        apply exempted.narrows narrows
        rw [restoreAutoLimited_of_succeeded found succeeded,
          forgetRestored_exclusions]
        simp
      | true =>
        rw [restoreAutoLimited_of_succeeded found succeeded]
        have written := forgetRestored_exclusions
          (system.balancer.restoreEntry entry outcomes).2 key entry true
          now
        rw [if_pos rfl, restoreEntry_exclusions] at written
        apply (keeps key entry found succeeded).exempted written
        intro other manual stored _
        have forgotten : ((system.balancer.restoreEntry entry
            outcomes).2.forgetRestored key entry true
            now).allLimits.apps.get? other =
            if other = key then none
            else system.balancer.allLimits.apps.get? other := by
          simp [forgetRestored]
        rw [forgotten] at stored
        split at stored
        · cases stored
        · next different => exact Or.inr ⟨different, stored⟩

theorem userRestores_restoreAutoLimited {appId : String} {exclude : Bool}
    {outcomes : EntryOutcomes} {now : ℚ}
    (keeps : system.KeepsExclusions
      (.restore (.user appId exclude outcomes now)))
    (ended : String → Prop) :
    KeepsUserRestores system.balancer.exclusions
      (system.balancer.restoreAutoLimited appId exclude outcomes
        now).2.exclusions ended := by
  cases found : system.balancer.findAuto appId with
  | none => exact .of_same (by rw [restoreAutoLimited, found]) ended
  | some app =>
    obtain ⟨key, entry⟩ := app
    cases succeeded : restoreEntryResult entry outcomes with
    | false =>
      rw [restoreAutoLimited_of_failed found succeeded, restoreEntry_exclusions]
      exact .of_same rfl ended
    | true =>
      rw [restoreAutoLimited_of_succeeded found succeeded]
      have written := forgetRestored_exclusions
        (system.balancer.restoreEntry entry outcomes).2 key entry exclude
        now
      rw [restoreEntry_exclusions] at written
      cases exclude with
      | false => exact .of_same written ended
      | true =>
        exact (keeps key entry found succeeded).keepsUserRestores written ended

theorem exempted_installResourceLimit {outcomes : InstallOutcomes}
    (exempted : system.balancer.ManualExempted)
    (keeps : system.KeepsExclusions (.limit request outcomes)) :
    (system.balancer.installResourceLimit request
      outcomes).2.2.ManualExempted := by
  cases planned : system.balancer.installPlan request outcomes with
  | error reply =>
    rw [installResourceLimit_refused planned]
    exact exempted
  | ok plan =>
    have written := installResourceLimit_exclusions system.balancer planned
    cases recorded :
        (plan.accepted system.balancer.isRunning outcomes).any with
    | false =>
      rw [recorded, if_neg Bool.false_ne_true] at written
      exact exempted.narrows (narrows_of_same
        (installResourceLimit_get?_of_unrecorded planned recorded)) written
    | true =>
      rw [recorded, if_pos rfl] at written
      apply (keeps plan planned recorded).exempted written
      intro other manual stored _
      rw [stores_installResourceLimit planned recorded other] at stored
      split at stored
      · exact Or.inl (by rw [Option.some.inj stored])
      · next different => exact Or.inr ⟨different, stored⟩

theorem userRestores_installResourceLimit {outcomes : InstallOutcomes}
    (keeps : system.KeepsExclusions (.limit request outcomes))
    (ended : String → Prop) :
    KeepsUserRestores system.balancer.exclusions
      (system.balancer.installResourceLimit request outcomes).2.2.exclusions
      ended := by
  cases planned : system.balancer.installPlan request outcomes with
  | error reply =>
    rw [installResourceLimit_refused planned]
    exact .of_same rfl ended
  | ok plan =>
    have written := installResourceLimit_exclusions system.balancer planned
    cases recorded :
        (plan.accepted system.balancer.isRunning outcomes).any with
    | false =>
      rw [recorded, if_neg Bool.false_ne_true] at written
      exact .of_same written ended
    | true =>
      rw [recorded, if_pos rfl] at written
      exact (keeps plan planned recorded).keepsUserRestores written ended

theorem exempted_setRestoreResource {outcomes : ManualRestoreOutcomes}
    (exempted : system.balancer.ManualExempted)
    (keeps : system.KeepsExclusions (.restore (.manual appId outcomes))) :
    (system.balancer.setRestoreResource appId outcomes).2.ManualExempted := by
  cases found : system.balancer.allLimits.byPublicId appId .manual with
  | none =>
    have unchanged : (system.balancer.setRestoreResource appId outcomes).2 =
      system.balancer := by rw [setRestoreResource, found]
    rw [unchanged]
    exact exempted
  | some app =>
    obtain ⟨key, entry⟩ := app
    intro other manual stored owned ident listed
    have popped : (system.balancer.setRestoreResource appId
        outcomes).2.allLimits.apps.get? other =
        if other = key then none
        else system.balancer.allLimits.apps.get? other := by
      simp [setRestoreResource, found]
    rw [popped] at stored
    split at stored
    · cases stored
    next different =>
    have held : (dropExclusion system.balancer.exclusions key).Holds
        fun record => record.Matches ident := holds_dropExclusion
      (exempted other manual stored owned ident listed)
      fun dropped located => (keeps key entry found).spares dropped located other
        manual different stored owned ident listed
    rw [← setRestoreResource_exclusions system.balancer found outcomes] at held
    exact held

theorem userRestores_setRestoreResource {outcomes : ManualRestoreOutcomes}
    (keeps : system.KeepsExclusions (.restore (.manual appId outcomes))) :
    KeepsUserRestores system.balancer.exclusions
      (system.balancer.setRestoreResource appId outcomes).2.exclusions
      (fun _ => False) := by
  cases found : system.balancer.allLimits.byPublicId appId .manual with
  | none => exact .of_same (by rw [setRestoreResource, found]) _
  | some app =>
    obtain ⟨key, entry⟩ := app
    rw [setRestoreResource_exclusions system.balancer found outcomes]
    exact (keeps key entry found).keepsUserRestores

theorem staged_exclusions (balancer : Balancer) (channel : Channel)
    (restoreType : RestoreType) (outcomes : RestoreOutcomes) :
    (balancer.restored (.staged channel restoreType outcomes)).exclusions =
      balancer.exclusions := by
  simp only [restored, restoreChannel, undisturbed, Bool.false_eq_true,
    if_false]
  cases found : balancer.allLimits.firstAutoWithPart channel
      (restoreType = .partially) with
  | none => rfl
  | some app =>
    obtain ⟨key, entry⟩ := app
    exact restoreChannelFor_exclusions _ _ _
      (LimitRegistry.firstAutoWithPart_eq_some found).1 _ _ _

/-- A removal by the user that drops freely. -/
theorem exempted_removeExclusion {ident : String}
    (exempted : system.balancer.ManualExempted)
    (keeps : system.KeepsExclusions (.removeExclusion ident)) :
    (system.balancer.removeAutoLimitExclusion ident).ManualExempted := by
  intro key entry stored manual needed listed
  rw [removeAutoLimitExclusion, LimitRegistry.removeExclusion_apps] at stored
  have held : (dropExclusion system.balancer.exclusions ident).Holds
      fun record => record.Matches needed := holds_dropExclusion
    (exempted key entry stored manual needed listed)
    fun dropped found =>
      keeps.spares dropped found key entry trivial stored manual needed listed
  rw [LimitRegistry.Exempts, removeAutoLimitExclusion,
    removeExclusion_exclusions]
  exact held

theorem exempted_step (exempted : system.balancer.ManualExempted)
    (keeps : system.KeepsExclusions operation) :
    (system.step operation).balancer.ManualExempted := by
  cases operation with
  | applyLimits target appId limitRates isControlled isDiskIoStressed
      pressureLevel outcomes =>
      have same := system.balancer.applyResourceLimits_exclusions target appId
        limitRates isControlled isDiskIoStressed pressureLevel outcomes
      by_cases records : system.balancer.RecordsAuto target appId limitRates
          isDiskIoStressed outcomes
      · have yielded : (system.balancer.yieldIoCap appId isDiskIoStressed
            outcomes).ManualExempted := exempted.narrows
          (narrows_yieldIoCap appId isDiskIoStressed outcomes)
          (system.balancer.yieldIoCap_exclusions appId isDiskIoStressed
            outcomes)
        apply yielded.stores_auto (stores_applyResourceLimits records)
        · exact upsertedEntry_source ..
        · exact same.trans (system.balancer.yieldIoCap_exclusions appId
            isDiskIoStressed outcomes).symm
      · exact exempted.narrows (narrows_applyResourceLimits records) same
  | limit request outcomes => exact exempted_installResourceLimit exempted keeps
  | deferredIo position outcome =>
    simp only [LimitSystem.step]
    cases system.pending[position]? with
    | none => exact exempted
    | some deferred =>
      exact exempted.narrows (narrows_applyDeferredIoCap deferred outcome)
        (system.balancer.applyDeferredIoCap_exclusions deferred outcome)
  | freeze appId freeze outcomes =>
    exact exempted.narrows (narrows_setFreeze appId freeze outcomes)
      (system.balancer.setFreeze_exclusions appId freeze outcomes)
  | restore path =>
    cases path with
    | manual appId outcomes => exact exempted_setRestoreResource exempted keeps
    | reaper closed outcomes => exact exempted_reapClosedApps exempted keeps
    | user appId exclude outcomes now =>
      exact exempted_restoreAutoLimited exempted keeps
    | staged channel restoreType outcomes =>
      exact exempted.narrows (narrows_restored system.balancer
        (.staged channel restoreType outcomes)) (staged_exclusions ..)
  | lockToManual appId currentControlled now =>
    rw [LimitSystem.step, lockToManual_eq]
    exact exempted_handOverTarget exempted keeps
  | adopt effectiveAppId newAppId newAppName priority now =>
    rw [LimitSystem.step, adoptAutoLimit_eq]
    exact exempted_handOverTarget exempted keeps
  | removeExclusion ident => exact exempted_removeExclusion exempted keeps
  | shutdown outcomes =>
    exact exempted.narrows (narrows_shutdown system.balancer outcomes)
      (shutdown_exclusions { system.balancer with isRunning := false } outcomes)

theorem userRestores_step (keeps : system.KeepsExclusions operation) :
    KeepsUserRestores system.balancer.exclusions
      (system.step operation).balancer.exclusions
      fun appId => system.EndsExclusion appId operation := by
  cases operation with
  | applyLimits target appId limitRates isControlled isDiskIoStressed
      pressureLevel outcomes =>
      exact .of_same (system.balancer.applyResourceLimits_exclusions target
        appId limitRates isControlled isDiskIoStressed pressureLevel
        outcomes) _
  | limit request outcomes => exact userRestores_installResourceLimit keeps _
  | deferredIo position outcome =>
    simp only [LimitSystem.step]
    cases system.pending[position]? with
    | none => exact .of_same rfl _
    | some deferred =>
      exact .of_same (system.balancer.applyDeferredIoCap_exclusions
        deferred outcome) _
  | freeze appId freeze outcomes =>
    exact .of_same (system.balancer.setFreeze_exclusions appId freeze
      outcomes) _
  | restore path =>
    cases path with
    | manual appId outcomes => exact userRestores_setRestoreResource keeps
    | reaper closed outcomes => exact userRestores_reapClosedApps keeps
    | user appId exclude outcomes now =>
      exact userRestores_restoreAutoLimited keeps _
    | staged channel restoreType outcomes =>
      exact .of_same (staged_exclusions ..) _
  | lockToManual appId currentControlled now =>
    rw [LimitSystem.step, lockToManual_eq]
    exact userRestores_handOverTarget keeps _
  | adopt effectiveAppId newAppId newAppName priority now =>
    rw [LimitSystem.step, adoptAutoLimit_eq]
    exact userRestores_handOverTarget keeps _
  | removeExclusion ident => exact fun _ _ _ ongoing => absurd trivial ongoing
  | shutdown outcomes =>
    exact .of_same (shutdown_exclusions
      { system.balancer with isRunning := false } outcomes) _

end Operation

/-! ## Every history -/

theorem exempted_initial : initial.balancer.ManualExempted := by
  intro key entry stored
  cases stored

/-- After every history whose operations drop no exclusion that is needed, each
manual entry is exempted under its app id and its cgroups, and an exclusion that
a user's restore made stays until an exclusion is removed or its app closes. -/
theorem exclusions_kept {operations later : List LimitOperation}
    (keeping : Runs.EveryStep step KeepsExclusions initial
      (operations ++ later)) :
    (Runs.run step initial operations).balancer.ManualExempted ∧
    ∀ key record, record.reason = .userRestore →
      (Runs.run step initial operations).balancer.exclusions.get? key =
        some record →
      Runs.EveryStep step
        (fun system operation => ¬ system.EndsExclusion record.appId operation)
        (Runs.run step initial operations) later →
      (Runs.run step initial (operations ++ later)).balancer.exclusions.get?
        key = some record := by
  obtain ⟨first, second⟩ := (Runs.everyStep_append _ _ _).mp keeping
  refine ⟨Runs.invariant_run (fun system => system.balancer.ManualExempted)
    (fun _ _ exempted keeps => exempted_step exempted keeps) exempted_initial
    first, ?_⟩
  intro key record made stored ongoing
  rw [Runs.run_append]
  apply Runs.invariant_run
    (fun system => system.balancer.exclusions.get? key = some record)
    ?_ stored ((Runs.everyStep_and _ _).mpr ⟨second, ongoing⟩)
  intro system operation present both
  exact userRestores_step both.1 key record made both.2 present

/-- The user restores the auto limit of the app, every write accepted. -/
def restoreByUser : LimitOperation :=
  .restore (.user "app" true
    { cgroupExists := fun _ => true
      adjust := fun _ => .accepting
      io := fun _ => .accepting []
      thaw := fun _ => .accepting } 1)

/-- Another app is limited by hand in the first of two cgroups. -/
def limitNeighbour : LimitOperation :=
  .limit ⟨"other", "Other", some "low", none, ["one.scope"]⟩
    ManualSystem.busyInTwoCgroups

/-- The other app is restored by hand, every write accepted. -/
def restoreNeighbour : LimitOperation :=
  .restore (.manual "other"
    ⟨fun _ => .accepting, fun _ => .accepting [], fun _ => .accepting⟩)

/-- The manual restore of an app that shares the scope removes the exclusion
the user made before. -/
theorem neighbour_restore_drops_exclusion :
    ¬ ∀ key record, record.reason = .userRestore → (Runs.run step initial
        [limitCpu "one.scope" [], restoreByUser]).balancer.exclusions.get?
          key = some record →
      Runs.EveryStep step
        (fun system operation => ¬ system.EndsExclusion record.appId operation)
        (Runs.run step initial [limitCpu "one.scope" [], restoreByUser])
        [limitNeighbour, restoreNeighbour] →
      (Runs.run step initial ([limitCpu "one.scope" [], restoreByUser] ++
        [limitNeighbour, restoreNeighbour])).balancer.exclusions.get? key =
          some record := by
  intro kept
  have made : ((Runs.run step initial
      [limitCpu "one.scope" [], restoreByUser]).balancer.exclusions.get?
        "app:app").map (·.reason) = some .userRestore := by decide +kernel
  have gone : ((Runs.run step initial ([limitCpu "one.scope" [],
      restoreByUser] ++ [limitNeighbour,
        restoreNeighbour])).balancer.exclusions.get? "app:app").isNone =
      true := by decide +kernel
  obtain ⟨record, stored, reason⟩ := Option.map_eq_some_iff.mp made
  have stays := kept "app:app" record reason stored
    ⟨fun ends => ends, fun ends => ends, trivial⟩
  rw [stays] at gone
  cases gone

/-- An exclusion the user made outlives the next auto limit. -/
theorem exclusion_outlives_auto_limit :
    ((Runs.run step initial ([limitCpu "one.scope" [], restoreByUser] ++
      [limitCpu "two.scope" []])).balancer.exclusions.get? "app:app").isSome =
      true := by
  have made : ((Runs.run step initial
      [limitCpu "one.scope" [], restoreByUser]).balancer.exclusions.get?
        "app:app").map (·.reason) = some .userRestore := by decide +kernel
  have auto : ∀ app ∈ (initial.step
      (limitCpu "one.scope" [])).balancer.allLimits.apps.entries,
      app.2.source = .auto := by decide +kernel
  have noneYet : (initial.step
      (limitCpu "one.scope" [])).balancer.exclusions.entries = [] := by
    decide +kernel
  have keeping : Runs.EveryStep step KeepsExclusions initial
      ([limitCpu "one.scope" [], restoreByUser] ++
        [limitCpu "two.scope" []]) := by
    refine ⟨trivial, ?_, trivial, trivial⟩
    intro key entry _ _
    constructor
    · intro record stored
      have listed := (OrderedDict.get?_eq_some_iff _ _ _).mp stored
      rw [noneYet] at listed
      cases listed
    · intro other manual _ stored owned
      have listed := (OrderedDict.get?_eq_some_iff _ _ _).mp stored
      rw [auto _ listed] at owned
      cases owned
  obtain ⟨record, stored, reason⟩ := Option.map_eq_some_iff.mp made
  have stays := (exclusions_kept keeping).2 "app:app" record reason stored
    ⟨fun ends => ends, trivial⟩
  rw [stays]
  rfl

end LimitSystem

end SmarTune
