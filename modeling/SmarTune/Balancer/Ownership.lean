import SmarTune.Library.Holdings
import SmarTune.Balancer.History

/-!
# Who owns a cgroup

An entry holds the cgroups it lists, for its source.  Applies and installs look
for entries of the other source that answer to a cgroup before they write, but
entries of one source may come to share a cgroup: an entry is looked up by the
first cgroup its app had when it was limited.  A handoff then carries a shared
cgroup over to the other source.
-/

namespace SmarTune

namespace Balancer

def cgroupSet (cgroups : List CgroupId) : Set CgroupId :=
  {cgroup | cgroup ∈ cgroups}

def holdings (balancer : Balancer) : Holdings CgroupId Source CgroupId :=
  fun key => (balancer.allLimits.apps.get? key).map fun entry =>
    (entry.source, cgroupSet entry.cgroups)

section Holdings

variable {before after balancer : Balancer} {key : CgroupId}
  {entry : LimitedApp} {rival : Source → Source → Prop}

theorem holdings_of_some
    (stored : balancer.allLimits.apps.get? key = some entry) :
    balancer.holdings key = some (entry.source, cgroupSet entry.cgroups) := by
  rw [holdings, stored]
  rfl

theorem Narrows.holdings (narrows : Narrows before after) :
    Holdings.Narrows before.holdings after.holdings := by
  intro key holding held
  obtain ⟨entry, stored, rfl⟩ := Option.map_eq_some_iff.mp held
  obtain ⟨old, storedOld, same⟩ := narrows key entry stored
  have source : entry.source = old.source := congrArg (·.source) same
  have cgroups : entry.cgroups = old.cgroups := congrArg (·.cgroups) same
  rw [holdings_of_some storedOld, source, cgroups]

theorem Stores.holdings (stores : Stores before after key entry) :
    after.holdings = Function.update before.holdings key
      (some (entry.source, cgroupSet entry.cgroups)) := by
  funext other
  unfold Balancer.holdings
  rw [stores other]
  by_cases same : other = key
  · subst same
    rw [if_pos rfl, Function.update_self]
    rfl
  · rw [if_neg same, Function.update_of_ne same]

/-- Rival entries list disjoint cgroups, in terms of the registry. -/
theorem separated_iff :
    Holdings.Separated rival balancer.holdings ↔
      ∀ key other entry otherEntry, key ≠ other →
        balancer.allLimits.apps.get? key = some entry →
        balancer.allLimits.apps.get? other = some otherEntry →
        rival entry.source otherEntry.source →
        ∀ cgroup ∈ entry.cgroups, cgroup ∉ otherEntry.cgroups := by
  constructor
  · intro separated key other entry otherEntry different stored storedOther
      rivals
    exact separated key other _ _ different (holdings_of_some stored)
      (holdings_of_some storedOther) rivals
  · intro apart left right first second different heldLeft heldRight rivals
    obtain ⟨entry, stored, rfl⟩ := Option.map_eq_some_iff.mp heldLeft
    obtain ⟨other, storedOther, rfl⟩ := Option.map_eq_some_iff.mp heldRight
    exact apart left right entry other different stored storedOther rivals

theorem fits_iff {source : Source} {cgroups : List CgroupId} :
    Holdings.Fits rival balancer.holdings key (source, cgroupSet cgroups) ↔
      ∀ other held, other ≠ key →
        balancer.allLimits.apps.get? other = some held →
        rival source held.source →
        ∀ cgroup ∈ cgroups, cgroup ∉ held.cgroups := by
  constructor
  · intro fits other held different stored rivals
    exact fits other _ different (holdings_of_some stored) rivals
  · intro apart other holding different holds rivals
    obtain ⟨held, stored, rfl⟩ := Option.map_eq_some_iff.mp holds
    exact apart other held different stored rivals

end Holdings

/-! ## What an operation stores -/

section Stored

variable {balancer : Balancer}

theorem upsertedEntry_source (appId : CgroupId) (limit : AutoLimit) (now : ℚ) :
    (balancer.upsertedEntry appId limit now).source = .auto := by
  unfold upsertedEntry
  split <;> rfl

variable {appId cgroup : CgroupId} {limit : AutoLimit} {now : ℚ}

/-- A recorded limit lists the cgroups of its predecessor and its own. -/
theorem mem_cgroups_upsertedEntry :
    cgroup ∈ (balancer.upsertedEntry appId limit now).cgroups ↔
      (∃ previous, balancer.autoEntry appId = some previous ∧
        cgroup ∈ previous.cgroups) ∨ cgroup ∈ limit.cgroups := by
  unfold upsertedEntry
  cases balancer.autoEntry appId with
  | none => simp [AutoLimit.fresh, List.mem_eraseDups]
  | some previous => simp [AutoLimit.merged, List.mem_eraseDups]

theorem autoEntry_eq_some {entry : LimitedApp}
    (found : balancer.autoEntry appId = some entry) :
    balancer.allLimits.apps.get? appId = some entry ∧ entry.source = .auto := by
  simpa [autoEntry, Option.filter_eq_some_iff] using found

theorem fits_upsertedEntry_iff {rival : Source → Source → Prop}
    (separated : Holdings.Separated rival balancer.holdings) :
    Holdings.Fits rival balancer.holdings appId
        ((balancer.upsertedEntry appId limit now).source,
          cgroupSet (balancer.upsertedEntry appId limit now).cgroups) ↔
      Holdings.Fits rival balancer.holdings appId
        (.auto, cgroupSet limit.cgroups) := by
  rw [upsertedEntry_source]
  cases previous : balancer.autoEntry appId with
  | none =>
    have same : cgroupSet (balancer.upsertedEntry appId limit now).cgroups =
        cgroupSet limit.cgroups := by
      ext cgroup
      simp [cgroupSet, mem_cgroups_upsertedEntry, previous]
    rw [same]
  | some entry =>
    obtain ⟨stored, auto⟩ := autoEntry_eq_some previous
    have union : cgroupSet (balancer.upsertedEntry appId limit now).cgroups =
        cgroupSet entry.cgroups ∪ cgroupSet limit.cgroups := by
      ext cgroup
      simp [cgroupSet, mem_cgroups_upsertedEntry, previous]
    have own := separated.fits (holdings_of_some stored)
    rw [auto] at own
    rw [union, Holdings.fits_union_iff, and_iff_right own]

theorem not_auto_of_installPlan {request : LimitRequest}
    {outcomes : InstallOutcomes} {plan : InstallPlan}
    (planned : balancer.installPlan request outcomes = .ok plan)
    (listed : cgroup ∈ plan.cgroups) :
    balancer.allLimits.byAnyId cgroup .auto = none := by
  unfold installPlan at planned
  simp only at planned
  split at planned
  · cases planned
  split at planned
  · cases planned
  split at planned
  · cases planned
  next primary extras selected =>
  split at planned
  · cases planned
  next free =>
  have cgroups : plan.cgroups = primary :: extras := by
    repeat' split at planned
    all_goals cases planned <;> rfl
  by_contra owned
  exact free (List.any_eq_true.mpr
    ⟨cgroup, cgroups ▸ listed, Option.isSome_iff_ne_none.mpr owned⟩)

end Stored

end Balancer

namespace LimitSystem

open Balancer

/-! ## One step -/

/-- What an operation stores fits among the entries it is stored to. -/
def StoresFitting (rival : Source → Source → Prop)
    (system : LimitSystem) : LimitOperation → Prop
  | .applyLimits target appId limitRates _ isDiskIoStressed _ outcomes =>
    system.balancer.RecordsAuto target appId limitRates isDiskIoStressed
        outcomes →
      Holdings.Fits rival
        (system.balancer.yieldIoCap appId isDiskIoStressed outcomes).holdings
        appId (.auto, cgroupSet (appId :: target.extraCgroups))
  | .limit request outcomes =>
    ∀ plan, system.balancer.installPlan request outcomes = .ok plan →
      (plan.accepted system.balancer.isRunning outcomes).any = true →
      Holdings.Fits rival system.balancer.holdings plan.primary
        (.manual, cgroupSet plan.cgroups)
  | .lockToManual appId currentControlled _ =>
    ∀ key entry, system.balancer.lockTarget appId currentControlled =
        some (key, entry) →
      Holdings.Fits rival system.balancer.holdings key
        (.manual, cgroupSet entry.cgroups)
  | .adopt effectiveAppId newAppId newAppName priority _ =>
    ∀ key entry, system.balancer.adoptTarget effectiveAppId newAppId
        newAppName priority = some (key, entry) →
      Holdings.Fits rival system.balancer.holdings key
        (.manual, cgroupSet entry.cgroups)
  | .deferredIo _ _ => True
  | .freeze _ _ _ => True
  | .restore _ => True
  | .removeExclusion _ => True
  | .shutdown _ => True

section Step

variable {rival : Source → Source → Prop} {system : LimitSystem}

/-- An operation that only narrows the registry keeps rivals apart. -/
theorem separated_of_narrows {after : Balancer}
    (separated : Holdings.Separated rival system.balancer.holdings)
    (narrows : Narrows system.balancer after) :
    Holdings.Separated rival after.holdings ↔ True :=
  iff_true_intro (separated.narrows narrows.holdings)

theorem separated_handOverTarget_iff
    (symmetric : ∀ first second, rival first second → rival second first)
    (separated : Holdings.Separated rival system.balancer.holdings)
    (target : Option (CgroupId × LimitedApp)) (now : ℚ) :
    Holdings.Separated rival
        (system.balancer.handOverTarget target now).holdings ↔
      ∀ key entry, target = some (key, entry) →
        Holdings.Fits rival system.balancer.holdings key
          (.manual, cgroupSet entry.cgroups) := by
  cases target with
  | none => simpa [handOverTarget] using separated
  | some app =>
    obtain ⟨key, entry⟩ := app
    simp only [handOverTarget, Option.some.injEq, Prod.mk.injEq]
    rw [(stores_handOver key entry now).holdings,
      Holdings.separated_update_iff symmetric separated]
    constructor
    · rintro fits _ _ ⟨rfl, rfl⟩
      exact fits
    · intro fits
      exact fits key entry ⟨rfl, rfl⟩

/-- A step keeps rival entries apart exactly when what it stores fits. -/
theorem separated_step_iff
    (symmetric : ∀ first second, rival first second → rival second first)
    (separated : Holdings.Separated rival system.balancer.holdings)
    (operation : LimitOperation) :
    Holdings.Separated rival (system.step operation).balancer.holdings ↔
      system.StoresFitting rival operation := by
  cases operation with
  | applyLimits target appId limitRates isControlled isDiskIoStressed
      pressureLevel outcomes =>
      simp only [step, StoresFitting]
      by_cases records : system.balancer.RecordsAuto target appId limitRates
          isDiskIoStressed outcomes
      · have yielded := separated.narrows
          (narrows_yieldIoCap appId isDiskIoStressed outcomes).holdings
        rw [(stores_applyResourceLimits records).holdings,
          Holdings.separated_update_iff symmetric yielded,
          fits_upsertedEntry_iff yielded]
        simp only [records, true_implies]
        rfl
      · rw [separated_of_narrows separated
          (narrows_applyResourceLimits records)]
        simp only [records, false_implies]
  | limit request outcomes =>
    simp only [step, StoresFitting]
    cases planned : system.balancer.installPlan request outcomes with
    | error reply =>
      rw [installResourceLimit_refused planned]
      simpa using separated
    | ok plan =>
      simp only [Except.ok.injEq, forall_eq']
      cases recorded :
          (plan.accepted system.balancer.isRunning outcomes).any with
      | false =>
        rw [separated_of_narrows separated (narrows_of_same
          (installResourceLimit_get?_of_unrecorded planned recorded))]
        simp
      | true =>
        rw [(stores_installResourceLimit planned recorded).holdings,
          Holdings.separated_update_iff symmetric separated]
        simp only [true_implies]
        rfl
  | deferredIo position outcome =>
    simp only [step, StoresFitting]
    cases system.pending[position]? with
    | none => exact iff_true_intro separated
    | some deferred =>
      exact separated_of_narrows separated
        (narrows_applyDeferredIoCap deferred outcome)
  | freeze appId freeze outcomes =>
    exact separated_of_narrows separated
      (narrows_setFreeze appId freeze outcomes)
  | restore path =>
    exact separated_of_narrows separated (narrows_restored system.balancer path)
  | lockToManual appId currentControlled now =>
    simp only [step, StoresFitting, lockToManual_eq]
    exact separated_handOverTarget_iff symmetric separated _ now
  | adopt effectiveAppId newAppId newAppName priority now =>
    simp only [step, StoresFitting, adoptAutoLimit_eq]
    exact separated_handOverTarget_iff symmetric separated _ now
  | removeExclusion ident =>
    exact separated_of_narrows separated
      (narrows_removeAutoLimitExclusion system.balancer ident)
  | shutdown outcomes =>
    exact separated_of_narrows separated 
      (narrows_shutdown system.balancer outcomes)

end Step

end LimitSystem

/-! ## One source for each cgroup -/

namespace Balancer

def ListedBy (balancer : Balancer) (source : Source)
    (cgroup : CgroupId) : Prop :=
  ∃ key entry, balancer.allLimits.apps.get? key = some entry ∧
    entry.source = source ∧ cgroup ∈ entry.cgroups

def SoleAuto (balancer : Balancer) (key : CgroupId)
    (entry : LimitedApp) : Prop :=
  ∀ other held, other ≠ key →
    balancer.allLimits.apps.get? other = some held → held.source = .auto →
    ∀ cgroup ∈ entry.cgroups, cgroup ∉ held.cgroups

section Guards

variable {balancer : Balancer}

theorem ListedBy.found {source : Source} {cgroup : CgroupId}
    (listed : balancer.ListedBy source cgroup) :
    (balancer.allLimits.byAnyId cgroup source).isSome = true := by
  obtain ⟨key, entry, stored, owned, member⟩ := listed
  rw [Option.isSome_iff_ne_none]
  intro missing
  have unanswered := LimitRegistry.byAnyId_eq_none_iff.mp missing key entry
    stored owned
  simp [LimitedApp.answersTo, member] at unanswered

theorem applyResourceLimits_of_listed {target : Candidate} {appId : CgroupId}
    (touches : ∃ cgroup ∈ appId :: target.extraCgroups,
      balancer.ListedBy .manual cgroup)
    (limitRates : LimitRates)
    (isControlled isDiskIoStressed : Bool)
    (pressureLevel : String)
    (outcomes : ApplyOutcomes) :
    balancer.applyResourceLimits target appId limitRates isControlled
      isDiskIoStressed pressureLevel outcomes = balancer := by
  apply applyResourceLimits_of_manual
  obtain ⟨cgroup, member, listed⟩ := touches
  exact List.any_eq_true.mpr ⟨cgroup, member, listed.found⟩

/-- The cgroups a request selects are among those of its app. -/
theorem selectedCgroups_nil_ne_nil {paths targetCgroups : List String}
    {cgroup : CgroupId}
    (selected : cgroup ∈ selectedCgroups paths targetCgroups) :
    selectedCgroups paths [] ≠ [] := by
  refine List.ne_nil_of_mem (?_ : cgroup ∈ _)
  unfold selectedCgroups at selected ⊢
  rw [if_pos rfl]
  split at selected
  · exact selected
  · exact (List.mem_filter.mp selected).1

theorem installResourceLimit_of_listed {request : LimitRequest}
    {outcomes : InstallOutcomes} {usage : UsageSample}
    (sampled : outcomes.usage = some usage)
    (touches : ∃ cgroup ∈ selectedCgroups usage.cgroupPaths
      request.targetCgroups, balancer.ListedBy .auto cgroup) :
    balancer.installResourceLimit request outcomes =
      (.skipped, none, balancer) := by
  obtain ⟨cgroup, selected, listed⟩ := touches
  apply installResourceLimit_refused
  unfold installPlan
  simp only [sampled, selectedCgroups_nil_ne_nil selected, if_false]
  cases cgroups : selectedCgroups usage.cgroupPaths request.targetCgroups with
  | nil => rfl
  | cons primary extras =>
    rw [cgroups] at selected
    simp only
    rw [if_pos (List.any_eq_true.mpr ⟨cgroup, selected, listed.found⟩)]

end Guards

end Balancer

namespace LimitSystem

open Balancer

/-- A handoff takes an entry whose cgroups no other auto entry lists. -/
def HandsOverAlone (system : LimitSystem) : LimitOperation → Prop
  | .lockToManual appId currentControlled _ =>
    ∀ key entry, system.balancer.lockTarget appId currentControlled =
        some (key, entry) →
      system.balancer.SoleAuto key entry
  | .adopt effectiveAppId newAppId newAppName priority _ =>
    ∀ key entry, system.balancer.adoptTarget effectiveAppId newAppId
        newAppName priority = some (key, entry) →
      system.balancer.SoleAuto key entry
  | _ => True

section OneSource

variable {system : LimitSystem}

theorem fits_manual_iff {key : CgroupId} {entry : LimitedApp} :
    Holdings.Fits (· ≠ ·) system.balancer.holdings key
        (.manual, cgroupSet entry.cgroups) ↔
      system.balancer.SoleAuto key entry := by
  rw [fits_iff]
  apply forall_congr'
  intro other
  apply forall_congr'
  intro held
  cases held.source <;> simp

theorem fits_applyLimits {target : Candidate} {appId : CgroupId}
    {limitRates : LimitRates} {isDiskIoStressed : Bool}
    {outcomes : ApplyOutcomes}
    (records : system.balancer.RecordsAuto target appId limitRates
      isDiskIoStressed outcomes) :
    Holdings.Fits (· ≠ ·)
      (system.balancer.yieldIoCap appId isDiskIoStressed outcomes).holdings
      appId (.auto, cgroupSet (appId :: target.extraCgroups)) := by
  refine Holdings.Fits.narrows ?_
    (narrows_yieldIoCap appId isDiskIoStressed outcomes).holdings
  rw [fits_iff]
  intro other held _ stored rivals cgroup member listed
  have manual : held.source = .manual := by
    cases source : held.source
    · exact absurd source.symm rivals
    · rfl
  have touched : system.balancer.manualLimited target appId = true :=
    List.any_eq_true.mpr
      ⟨cgroup, member, ListedBy.found ⟨other, held, stored, manual, listed⟩⟩
  rw [records.1] at touched
  cases touched

theorem fits_limit {request : LimitRequest} {outcomes : InstallOutcomes}
    {plan : InstallPlan}
    (planned : system.balancer.installPlan request outcomes = .ok plan) :
    Holdings.Fits (· ≠ ·) system.balancer.holdings plan.primary
      (.manual, cgroupSet plan.cgroups) := by
  rw [fits_iff]
  intro other held _ stored rivals cgroup member listed
  have auto : held.source = .auto := by
    cases source : held.source
    · rfl
    · exact absurd source.symm rivals
  have found := ListedBy.found ⟨other, held, stored, auto, listed⟩
  rw [not_auto_of_installPlan planned member] at found
  cases found

/-- Only a handoff can bring a cgroup under both sources. -/
theorem storesFitting_iff (operation : LimitOperation) :
    system.StoresFitting (· ≠ ·) operation ↔
      system.HandsOverAlone operation := by
  cases operation with
  | applyLimits => exact iff_of_true fits_applyLimits trivial
  | limit => exact iff_of_true (fun _ planned _ => fits_limit planned) trivial
  | lockToManual => simp only [StoresFitting, HandsOverAlone, fits_manual_iff]
  | adopt => simp only [StoresFitting, HandsOverAlone, fits_manual_iff]
  | _ => exact Iff.rfl

/-- In a history whose handoffs take entries no other auto entry overlaps, no
cgroup is listed for both sources, and an apply or a manual limit that would
touch the other source's cgroups does nothing. -/
theorem one_source_per_cgroup {operations : List LimitOperation}
    (keeping : Runs.EveryStep step HandsOverAlone initial operations) :
    let balancer := (Runs.run step initial operations).balancer
    (∀ cgroup, ¬ (balancer.ListedBy .auto cgroup ∧
      balancer.ListedBy .manual cgroup)) ∧
    (∀ target appId limitRates isControlled isDiskIoStressed pressureLevel
        outcomes,
      (∃ cgroup ∈ appId :: target.extraCgroups,
        balancer.ListedBy .manual cgroup) →
      balancer.applyResourceLimits target appId limitRates isControlled
        isDiskIoStressed pressureLevel outcomes = balancer) ∧
    ∀ request outcomes usage, outcomes.usage = some usage →
      (∃ cgroup ∈ selectedCgroups usage.cgroupPaths request.targetCgroups,
        balancer.ListedBy .auto cgroup) →
      balancer.installResourceLimit request outcomes =
        (.skipped, none, balancer) := by
  have separated : Holdings.Separated (· ≠ ·)
      (Runs.run step initial operations).balancer.holdings :=
    Runs.invariant_run
      (fun system => Holdings.Separated (· ≠ ·) system.balancer.holdings)
      (fun system operation before alone =>
        (separated_step_iff (fun _ _ => Ne.symm) before operation).mpr
          ((storesFitting_iff operation).mpr alone))
      Holdings.separated_nothing keeping
  refine ⟨?_, ?_, ?_⟩
  · rintro cgroup ⟨⟨key, entry, stored, auto, listed⟩,
      other, held, storedOther, manual, listedOther⟩
    have rivals : entry.source ≠ held.source := by
      rw [auto, manual]
      decide
    have different : key ≠ other := by
      rintro rfl
      rw [stored] at storedOther
      cases storedOther
      exact rivals rfl
    exact separated_iff.mp separated key other entry held different stored
      storedOther rivals cgroup listed listedOther
  · intro target appId limitRates isControlled isDiskIoStressed pressureLevel
      outcomes touches
    exact applyResourceLimits_of_listed touches _ _ _ _ _
  · intro request outcomes usage sampled touches
    exact installResourceLimit_of_listed sampled touches

end OneSource

/-- An auto limit halves the CPU of an app's cgroups, every write accepted. -/
def limitCpu (appId : CgroupId) (extraCgroups : List CgroupId) :
    LimitOperation :=
  .applyLimits { publicAppId := some "app", extraCgroups := extraCgroups }
    appId ⟨some (some (1 / 2)), none, none⟩ true false "critical"
    (.accepting [] 0)

/-- The app is limited in `b.scope`, then in `a.scope` and `b.scope`, and locked
to manual: the first entry is handed over, the second still lists `b.scope`. -/
theorem handoff_splits_cgroup :
    let balancer := (Runs.run step initial
      [limitCpu "b.scope" [], limitCpu "a.scope" ["b.scope"],
        .lockToManual "app" true 0]).balancer
    balancer.ListedBy .auto "b.scope" ∧ balancer.ListedBy .manual "b.scope" := by
  have listed : ∀ source : Source, ∃ app ∈ (Runs.run step initial
        [limitCpu "b.scope" [], limitCpu "a.scope" ["b.scope"],
          .lockToManual "app" true 0]).balancer.allLimits.apps.entries,
        app.2.source = source ∧ "b.scope" ∈ app.2.cgroups := by
    intro source
    cases source <;> decide +kernel
  have stored : ∀ source : Source, (Runs.run step initial
      [limitCpu "b.scope" [], limitCpu "a.scope" ["b.scope"],
        .lockToManual "app" true 0]).balancer.ListedBy source "b.scope" := by
    intro source
    obtain ⟨⟨key, entry⟩, member, owned, inCgroups⟩ := listed source
    exact ⟨key, entry, (OrderedDict.get?_eq_some_iff _ _ _).mpr member, owned,
      inCgroups⟩
  exact ⟨stored .auto, stored .manual⟩

/-- Limited once and locked to manual, the app's cgroup has one source. -/
theorem one_source_after_handoff :
    ¬ ((Runs.run step initial [limitCpu "a.scope" [],
        .lockToManual "app" true 0]).balancer.ListedBy .auto "a.scope" ∧
      (Runs.run step initial [limitCpu "a.scope" [],
        .lockToManual "app" true 0]).balancer.ListedBy .manual "a.scope") := by
  have keys : ∀ app ∈ (initial.step
      (limitCpu "a.scope" [])).balancer.allLimits.apps.entries,
      app.1 = "a.scope" := by decide +kernel
  have keeping : Runs.EveryStep step HandsOverAlone initial
      [limitCpu "a.scope" [], .lockToManual "app" true 0] := by
    refine ⟨trivial, ?_, trivial⟩
    intro key entry target other held different stored
    obtain ⟨old, flips⟩ := lockTarget_eq_some target
    have keyEq := keys _ ((OrderedDict.get?_eq_some_iff _ _ _).mp flips.stored)
    have otherEq := keys _ ((OrderedDict.get?_eq_some_iff _ _ _).mp stored)
    exact absurd (otherEq.trans keyEq.symm) different
  exact (one_source_per_cgroup keeping).1 "a.scope"

end LimitSystem

end SmarTune
