import SmarTune.Balancer.Retention

/-!
# Histories of limits

A history is a list of operations, each run to its end before the next one
starts, together with the answers of the environment.  An operation narrows
the registry (its entries keep their identity or go), and an apply, an install
or a handoff may then store one entry.
-/

namespace SmarTune

/-- The balancer and the disk caps held back until a reclaim is done. -/
structure LimitSystem where
  balancer : Balancer
  pending : List DeferredIo

/-- The operations on limits. -/
inductive LimitOperation
  | applyLimits (target : Candidate) (appId : CgroupId)
      (limitRates : LimitRates)
      (isControlled isDiskIoStressed : Bool)
      (pressureLevel : String)
      (outcomes : Balancer.ApplyOutcomes)
  | limit (request : LimitRequest) (outcomes : InstallOutcomes)
  /-- The reclaim of a held-back disk cap is done. -/
  | deferredIo (position : Nat) (outcome : Nat → IoCallOutcome)
  | freeze (appId : String) (freeze : Bool) (outcomes : SetFreezeOutcomes)
  | restore (path : RestorePath)
  | lockToManual (appId : String) (currentControlled : Bool) (now : ℚ)
  | adopt (effectiveAppId : CgroupId) (newAppId newAppName priority : String)
      (now : ℚ)
  | removeExclusion (ident : String)
  | shutdown (outcomes : CgroupId → Balancer.EntryOutcomes)

namespace LimitSystem

/-- A service that has just started. -/
def initial : LimitSystem := ⟨.initial, []⟩

def step (system : LimitSystem) : LimitOperation → LimitSystem
  | .applyLimits target appId limitRates isControlled isDiskIoStressed
      pressureLevel outcomes =>
      { system with
        balancer := system.balancer.applyResourceLimits target appId limitRates
          isControlled isDiskIoStressed pressureLevel outcomes }
  | .limit request outcomes =>
    let result := system.balancer.installResourceLimit request outcomes
    ⟨result.2.2, system.pending ++ result.2.1.toList⟩
  | .deferredIo position outcome =>
    match system.pending[position]? with
    | none => system
    | some deferred =>
      ⟨system.balancer.applyDeferredIoCap deferred outcome,
        system.pending.eraseIdx position⟩
  | .freeze appId freeze outcomes =>
    { system with
      balancer := (system.balancer.setFreeze appId freeze outcomes).2 }
  | .restore path => { system with balancer := system.balancer.restored path }
  | .lockToManual appId currentControlled now =>
    { system with
      balancer :=
        (system.balancer.lockToManual appId currentControlled now).2 }
  | .adopt effectiveAppId newAppId newAppName priority now =>
    { system with
      balancer := (system.balancer.adoptAutoLimit effectiveAppId newAppId
        newAppName priority now).2 }
  | .removeExclusion ident =>
    { system with
      balancer := system.balancer.removeAutoLimitExclusion ident }
  | .shutdown outcomes =>
    { system with
      balancer := { system.balancer with
        isRunning := false }.restoreAllLimitedAppsResources outcomes }

end LimitSystem

/-- What an entry keeps from the operation that stored it. -/
structure LimitIdentity where
  source : Source
  publicAppId : String
  isControlled : Bool
  cgroups : List CgroupId
  protectionId : Option ProtectionId
  deriving DecidableEq

def LimitedApp.identity (entry : LimitedApp) : LimitIdentity :=
  ⟨entry.source, entry.publicAppId, entry.isControlled, entry.cgroups,
    entry.protectionId⟩

namespace Balancer

/-- Every entry was there before, under the same key and identity. -/
def Narrows (before after : Balancer) : Prop :=
  ∀ key entry, after.allLimits.apps.get? key = some entry →
    ∃ old, before.allLimits.apps.get? key = some old ∧
      entry.identity = old.identity

/-- The registry stores an entry and is otherwise unchanged. -/
def Stores (before after : Balancer) (key : CgroupId) (entry : LimitedApp) :
    Prop :=
  ∀ other, after.allLimits.apps.get? other =
    if other = key then some entry else before.allLimits.apps.get? other

section Narrows

variable {before middle after : Balancer}

theorem narrows_of_same
    (same : ∀ key, after.allLimits.apps.get? key =
      before.allLimits.apps.get? key) :
    Narrows before after := by
  intro key entry stored
  exact ⟨entry, same key ▸ stored, rfl⟩

theorem Narrows.trans (first : Narrows before middle)
    (second : Narrows middle after) :
    Narrows before after := by
  intro key entry stored
  obtain ⟨between, storedBetween, same⟩ := second key entry stored
  obtain ⟨old, storedOld, sameOld⟩ := first key between storedBetween
  exact ⟨old, storedOld, same.trans sameOld⟩

theorem narrows_of_change {key : CgroupId} {entry : LimitedApp}
    {left : Option LimitedApp}
    (stored : before.allLimits.apps.get? key = some entry)
    (lookup : ∀ other, after.allLimits.apps.get? other =
      if other = key then left else before.allLimits.apps.get? other)
    (kept : ∀ new, left = some new → new.identity = entry.identity) :
    Narrows before after := by
  intro other new storedNew
  rw [lookup] at storedNew
  split at storedNew
  · next same => exact ⟨entry, same ▸ stored, kept new storedNew⟩
  · exact ⟨new, storedNew, rfl⟩

/-- Forgetting an entry narrows the registry. -/
theorem narrows_of_forgotten (key : CgroupId)
    (lookup : ∀ other, after.allLimits.apps.get? other =
      if other = key then none else before.allLimits.apps.get? other) :
    Narrows before after := by
  intro other entry stored
  rw [lookup] at stored
  split at stored
  · cases stored
  · exact ⟨entry, stored, rfl⟩

end Narrows

/-! ## Staged restores -/

section Staged

variable {balancer : Balancer} {key : CgroupId} {entry : LimitedApp}

theorem afterFullRestore_identity {channel : Channel}
    {outcomes : RestoreOutcomes} {left : LimitedApp}
    (leaves : balancer.afterFullRestore key entry channel outcomes =
      some left) :
    left.identity = entry.identity := by
  obtain ⟨limitParts, partialParts, rfl⟩ := afterFullRestore_eq_some leaves
  rfl

theorem afterPartialRestore_identity (channel : Channel)
    (outcomes : RestoreOutcomes) :
    (balancer.afterPartialRestore key entry channel outcomes).identity =
      entry.identity := by
  unfold afterPartialRestore
  split <;> rfl

theorem narrows_restoreChannelFor
    (stored : balancer.allLimits.apps.get? key = some entry) (channel : Channel)
    (restoreType : RestoreType) (outcomes : RestoreOutcomes) :
    Narrows balancer (balancer.restoreChannelFor key entry channel restoreType
      outcomes none).2 := by
  cases restoreType with
  | partially =>
    refine narrows_of_change stored
      (restoreChannelFor_partially_get? stored channel outcomes) ?_
    intro new leaves
    obtain rfl := Option.some.inj leaves
    exact afterPartialRestore_identity channel outcomes
  | full =>
    exact narrows_of_change stored
      (restoreChannelFor_full_get? stored channel outcomes)
      fun _ leaves => afterFullRestore_identity leaves

theorem narrows_yieldIoCap (appId : CgroupId) (isDiskIoStressed : Bool)
    (outcomes : ApplyOutcomes) :
    Narrows balancer (balancer.yieldIoCap appId isDiskIoStressed outcomes) := by
  unfold yieldIoCap
  split
  · exact narrows_of_same fun _ => rfl
  · rw [clearIoCapBeforeSysLimit_eq]
    cases yields : balancer.yieldTarget appId with
    | none => exact narrows_of_same fun _ => rfl
    | some app =>
      obtain ⟨key, entry⟩ := app
      exact narrows_restoreChannelFor (yieldTarget_eq_some yields).1
        .diskIo .full outcomes.yieldIo

end Staged

/-! ## Restores -/

theorem narrows_restored (balancer : Balancer) (path : RestorePath) :
    Narrows balancer (balancer.restored path) := by
  cases path with
  | manual appId outcomes =>
    simp only [restored, setRestoreResource]
    cases balancer.allLimits.byPublicId appId .manual with
    | none => exact narrows_of_same fun _ => rfl
    | some app =>
      obtain ⟨key, entry⟩ := app
      apply narrows_of_forgotten key
      intro other
      simp
  | reaper closed outcomes =>
    intro key entry stored
    simp only [restored, reapClosedApps_get?] at stored
    split at stored
    · cases stored
    · exact ⟨entry, stored, rfl⟩
  | user appId exclude outcomes now =>
    rw [restored]
    cases found : balancer.findAuto appId with
    | none =>
      rw [restoreAutoLimited, found]
      exact narrows_of_same fun _ => rfl
    | some app =>
      obtain ⟨key, entry⟩ := app
      cases succeeded : restoreEntryResult entry outcomes with
      | false =>
        rw [restoreAutoLimited_of_failed found succeeded]
        exact narrows_of_same fun _ => by simp
      | true =>
        rw [restoreAutoLimited_of_succeeded found succeeded]
        apply narrows_of_forgotten key
        intro other
        cases exclude <;> simp [forgetRestored]
  | staged channel restoreType outcomes =>
    simp only [restored, restoreChannel, undisturbed, Bool.false_eq_true,
      if_false]
    cases found : balancer.allLimits.firstAutoWithPart channel
        (restoreType = .partially) with
    | none => exact narrows_of_same fun _ => rfl
    | some app =>
      obtain ⟨key, entry⟩ := app
      exact narrows_restoreChannelFor
        (LimitRegistry.firstAutoWithPart_eq_some found).1 channel
        restoreType outcomes

/-! ## The shutdown sweep and the removal of an exclusion -/

section Sweep

variable (balancer : Balancer) (outcomes : CgroupId → EntryOutcomes)

@[simp] theorem sweepEntry_get? (key other : CgroupId) :
    (sweepEntry outcomes balancer key).allLimits.apps.get? other =
      if other = key then none else balancer.allLimits.apps.get? other := by
  unfold sweepEntry
  split <;> simp

theorem foldl_sweepEntry_get? (keys : List CgroupId) (other : CgroupId) :
    (keys.foldl (sweepEntry outcomes) balancer).allLimits.apps.get? other =
      if other ∈ keys then none else balancer.allLimits.apps.get? other := by
  induction keys generalizing balancer with
  | nil => simp
  | cons key keys ih =>
    rw [List.foldl_cons, ih, sweepEntry_get?]
    by_cases later : other ∈ keys <;> by_cases same : other = key <;>
      simp [later, same]

/-- The sweep leaves no entry. -/
@[simp] theorem restoreAllLimitedAppsResources_get? (other : CgroupId) :
    (balancer.restoreAllLimitedAppsResources
      outcomes).allLimits.apps.get? other = none := by
  rw [restoreAllLimitedAppsResources, foldl_sweepEntry_get?]
  split
  · rfl
  · next unlisted =>
    rw [OrderedDict.get?_eq_none_iff]
    intro value present
    exact unlisted (List.mem_map_of_mem present)

theorem narrows_shutdown :
    Narrows balancer
      ({ balancer with isRunning := false }.restoreAllLimitedAppsResources
        outcomes) := by
  intro key entry stored
  rw [restoreAllLimitedAppsResources_get?] at stored
  cases stored

theorem narrows_removeAutoLimitExclusion (ident : String) :
    Narrows balancer (balancer.removeAutoLimitExclusion ident) :=
  narrows_of_same fun _ => by simp [removeAutoLimitExclusion]

end Sweep

/-! ## Freezes and deferred disk caps -/

section Flags

variable {balancer : Balancer}

theorem narrows_modifyEntry (key : CgroupId) {change : LimitedApp → LimitedApp}
    (kept : ∀ entry, (change entry).identity = entry.identity) :
    Narrows balancer (balancer.modifyEntry key change) := by
  cases stored : balancer.allLimits.apps.get? key with
  | none =>
    rw [modifyEntry, stored]
    exact narrows_of_same fun _ => rfl
  | some entry =>
    refine narrows_of_change stored (modifyEntry_get? balancer key change) ?_
    rintro _ left
    rw [stored, Option.map_some, Option.some.injEq] at left
    rw [← left]
    exact kept entry

theorem narrows_setFreeze (appId : String) (freeze : Bool)
    (outcomes : SetFreezeOutcomes) :
    Narrows balancer (balancer.setFreeze appId freeze outcomes).2 := by
  unfold setFreeze
  cases balancer.allLimits.byPublicId appId .manual with
  | none => exact narrows_of_same fun _ => rfl
  | some app =>
    obtain ⟨key, entry⟩ := app
    simp only
    split
    · exact narrows_of_same fun _ => rfl
    split
    · split <;> exact narrows_of_same fun _ => rfl
    · exact narrows_modifyEntry key fun _ => rfl

theorem narrows_applyDeferredIoCap (deferred : DeferredIo)
    (outcome : Nat → IoCallOutcome) :
    Narrows balancer (balancer.applyDeferredIoCap deferred outcome) := by
  cases stored : balancer.allLimits.apps.get? deferred.key with
  | none =>
    rw [applyDeferredIoCap, stored]
    exact narrows_of_same fun _ => rfl
  | some entry =>
    simp only [applyDeferredIoCap, stored]
    refine narrows_of_change stored (recordDeferredIo_get?
      (balancer.writes (deferredIoCall deferred outcome).2) stored _) ?_
    intro new left
    rw [← Option.some.inj left]
    rfl

end Flags

/-! ## Operations that store an entry -/

section Apply

variable {balancer : Balancer} {target : Candidate} {appId : CgroupId}
  {limitRates : LimitRates} {isControlled isDiskIoStressed : Bool}
  {pressureLevel : String} {outcomes : ApplyOutcomes}

/-- An apply records its candidate: no manual limit is in the way and the
primary's call is accepted. -/
def RecordsAuto (balancer : Balancer) (target : Candidate) (appId : CgroupId)
    (limitRates : LimitRates) (isDiskIoStressed : Bool)
    (outcomes : ApplyOutcomes) : Prop :=
  balancer.manualLimited target appId = false ∧
    (applyChannel balancer.isRunning target appId limitRates isDiskIoStressed
      outcomes).1 = true

@[simp] theorem yieldIoCap_isRunning :
    (balancer.yieldIoCap appId isDiskIoStressed outcomes).isRunning =
      balancer.isRunning := by
  unfold yieldIoCap
  split
  · rfl
  · rw [clearIoCapBeforeSysLimit_eq]
    split
    · rfl
    · exact restoreChannelFor_isRunning ..

theorem applyResourceLimits_of_manual
    (owned : balancer.manualLimited target appId = true) :
    balancer.applyResourceLimits target appId limitRates isControlled
      isDiskIoStressed pressureLevel outcomes = balancer :=
  if_pos owned

theorem stores_applyResourceLimits
    (records : balancer.RecordsAuto target appId limitRates isDiskIoStressed
      outcomes) :
    Stores (balancer.yieldIoCap appId isDiskIoStressed outcomes)
      (balancer.applyResourceLimits target appId limitRates isControlled
        isDiskIoStressed pressureLevel outcomes) appId
      ((balancer.yieldIoCap appId isDiskIoStressed outcomes).upsertedEntry
        appId (autoLimitOf target appId limitRates isControlled
          isDiskIoStressed pressureLevel outcomes) outcomes.now) := by
  intro other
  rw [applyResourceLimits, if_neg (by simp [records.1])]
  simp only [yieldIoCap_isRunning, records.2, if_true, upsertAutoLimited_get?,
    writes_allLimits]
  rfl

theorem narrows_applyResourceLimits
    (unrecorded : ¬ balancer.RecordsAuto target appId limitRates
      isDiskIoStressed outcomes) :
    Narrows balancer
      (balancer.applyResourceLimits target appId limitRates isControlled
        isDiskIoStressed pressureLevel outcomes) := by
  cases owned : balancer.manualLimited target appId with
  | true =>
    rw [applyResourceLimits_of_manual owned]
    exact narrows_of_same fun _ => rfl
  | false =>
    have refused : (applyChannel balancer.isRunning target appId limitRates
        isDiskIoStressed outcomes).1 = false := by
      by_contra accepted
      exact unrecorded ⟨owned, by simpa using accepted⟩
    refine (narrows_yieldIoCap appId isDiskIoStressed outcomes).trans
      (narrows_of_same fun _ => ?_)
    rw [applyResourceLimits, if_neg (by simp [owned])]
    simp only [yieldIoCap_isRunning, refused, Bool.false_eq_true, if_false,
      writes_allLimits]

end Apply

section Install

variable {balancer : Balancer} {request : LimitRequest}
  {outcomes : InstallOutcomes} {plan : InstallPlan}

theorem stores_installResourceLimit
    (planned : balancer.installPlan request outcomes = .ok plan)
    (recorded : (plan.accepted balancer.isRunning outcomes).any = true) :
    Stores balancer (balancer.installResourceLimit request outcomes).2.2
      plan.primary (plan.entry request
        (plan.accepted balancer.isRunning outcomes) outcomes.now) := by
  intro other
  rw [installResourceLimit_apps planned, if_pos recorded, OrderedDict.get?_set]

/-- Any other plan leaves the entries alone. -/
theorem installResourceLimit_get?_of_unrecorded
    (planned : balancer.installPlan request outcomes = .ok plan)
    (unrecorded : (plan.accepted balancer.isRunning outcomes).any = false)
    (other : CgroupId) :
    (balancer.installResourceLimit request outcomes).2.2.allLimits.apps.get?
      other = balancer.allLimits.apps.get? other := by
  rw [installResourceLimit_apps planned, if_neg (by simp [unrecorded])]

end Install

section Handoff

variable {balancer : Balancer}

/-- The entry a handoff flips, after its re-tag, and its key. -/
def lockTarget (balancer : Balancer) (appId : String)
    (currentControlled : Bool) : Option (CgroupId × LimitedApp) :=
  match balancer.findAuto appId with
  | none => none
  | some (key, entry) =>
    if entry.isControlled then some (key, entry)
    else if currentControlled then
      some (key, { entry with isControlled := true, publicAppId := appId })
    else none

/-- The entry an adoption flips, under its new identity, and its key. -/
def adoptTarget (balancer : Balancer) (effectiveAppId : CgroupId)
    (newAppId newAppName priority : String) :
    Option (CgroupId × LimitedApp) :=
  match balancer.findAdopted effectiveAppId with
  | none => none
  | some (key, entry) =>
    if entry.source = .auto then
      some (key, adopted entry newAppId newAppName priority)
    else none

/-- A handoff flips its target, if it has one. -/
def handOverTarget (balancer : Balancer)
    (target : Option (CgroupId × LimitedApp)) (now : ℚ) : Balancer :=
  match target with
  | none => balancer
  | some (key, entry) => balancer.handOver key entry now

theorem lockToManual_eq (appId : String) (currentControlled : Bool) (now : ℚ) :
    (balancer.lockToManual appId currentControlled now).2 =
      balancer.handOverTarget (balancer.lockTarget appId currentControlled)
        now := by
  unfold lockToManual lockTarget
  cases balancer.findAuto appId with
  | none => rfl
  | some app =>
    obtain ⟨key, entry⟩ := app
    simp only
    split
    · rfl
    · split <;> rfl

theorem adoptAutoLimit_eq (effectiveAppId : CgroupId)
    (newAppId newAppName priority : String) (now : ℚ) :
    (balancer.adoptAutoLimit effectiveAppId newAppId newAppName priority
      now).2 =
      balancer.handOverTarget
        (balancer.adoptTarget effectiveAppId newAppId newAppName priority)
        now := by
  unfold adoptAutoLimit adoptTarget
  cases balancer.findAdopted effectiveAppId with
  | none => rfl
  | some app =>
    obtain ⟨key, entry⟩ := app
    simp only
    split <;> rfl

/-- The flipped entry is an auto entry of the registry, up to its tags. -/
structure FlipsAuto (balancer : Balancer) (key : CgroupId)
    (entry old : LimitedApp) : Prop where
  stored : balancer.allLimits.apps.get? key = some old
  auto : old.source = .auto
  source : entry.source = .auto
  cgroups : entry.cgroups = old.cgroups
  limitParts : entry.limitParts = old.limitParts
  protectionId : entry.protectionId = old.protectionId

theorem lockTarget_eq_some {appId : String} {currentControlled : Bool}
    {key : CgroupId} {entry : LimitedApp}
    (target : balancer.lockTarget appId currentControlled = some (key, entry)) :
    ∃ old, balancer.FlipsAuto key entry old := by
  unfold lockTarget at target
  cases found : balancer.findAuto appId with
  | none => simp [found] at target
  | some app =>
    obtain ⟨foundKey, old⟩ := app
    obtain ⟨stored, auto⟩ := findAuto_eq_some found
    simp only [found] at target
    split at target
    · cases target
      exact ⟨_, stored, auto, auto, rfl, rfl, rfl⟩
    split at target
    · cases target
      exact ⟨old, stored, auto, auto, rfl, rfl, rfl⟩
    · cases target

theorem findAdopted_eq_some {effectiveAppId key : CgroupId} {entry : LimitedApp}
    (found : balancer.findAdopted effectiveAppId = some (key, entry)) :
    balancer.allLimits.apps.get? key = some entry := by
  rcases Option.or_eq_some_iff.mp found with direct | ⟨_, answered⟩
  · obtain ⟨old, stored, equal⟩ := Option.map_eq_some_iff.mp direct
    cases equal
    exact stored
  · exact (LimitRegistry.byAnyId_eq_some answered).1

theorem adoptTarget_eq_some {effectiveAppId : CgroupId}
    {newAppId newAppName priority : String} {key : CgroupId}
    {entry : LimitedApp}
    (target : balancer.adoptTarget effectiveAppId newAppId newAppName
      priority = some (key, entry)) :
    ∃ old, balancer.FlipsAuto key entry old := by
  unfold adoptTarget at target
  cases found : balancer.findAdopted effectiveAppId with
  | none => simp [found] at target
  | some app =>
    obtain ⟨foundKey, old⟩ := app
    simp only [found] at target
    split at target
    · next auto =>
      cases target
      exact ⟨_, findAdopted_eq_some found, auto, auto, rfl, rfl, rfl⟩
    · cases target

theorem stores_handOver (key : CgroupId) (entry : LimitedApp) (now : ℚ) :
    Stores balancer (balancer.handOver key entry now) key
      (handedOver key entry now) := by
  intro other
  simp [handOver, OrderedDict.get?_set]

end Handoff

end Balancer

end SmarTune
