import SmarTune.Balancer.ManualShares

/-!
# The peak latch

A manual limit is sized from the largest usage seen so far, so that measuring
an app while it is limited does not tighten the next limit.  The total and the
weights are latched one by one: a cgroup's part of the budget still shrinks
when the weight of another one grows faster than the total.
-/

namespace SmarTune

/-- A cleared exclusion leaves the peaks alone. -/
@[simp] theorem LimitRegistry.removeExclusion_manualLimitBaseline
    (limits : LimitRegistry) (ident : String) :
    (limits.removeExclusion ident).manualLimitBaseline =
      limits.manualLimitBaseline := by
  simp only [removeExclusion]
  split
  · rfl
  · split <;> rfl

namespace Balancer

/-! ## Which steps move a latched peak -/

section Peaks

variable (balancer : Balancer)

@[simp] theorem registerManual_manualLimitBaseline (request : LimitRequest)
    (plan : InstallPlan) (limitParts failed : LimitParts) (now : ℚ) :
    (balancer.registerManual request plan limitParts failed
        now).allLimits.manualLimitBaseline =
      balancer.allLimits.manualLimitBaseline.set plan.primary plan.peaks := by
  simp [registerManual, LimitRegistry.addExclusion]

variable {balancer}

/-- An install latches its peaks exactly when it records its entry. -/
theorem installResourceLimit_manualLimitBaseline {request : LimitRequest}
    {outcomes : InstallOutcomes} {plan : InstallPlan}
    (planned : balancer.installPlan request outcomes = .ok plan) :
    (balancer.installResourceLimit request
        outcomes).2.2.allLimits.manualLimitBaseline =
      if (plan.accepted balancer.isRunning outcomes).any then
        balancer.allLimits.manualLimitBaseline.set plan.primary plan.peaks
      else balancer.allLimits.manualLimitBaseline := by
  simp only [installResourceLimit, planned, InstallPlan.accepted]
  split
  · next stored => simp [stored]
  · next nothing => simp [nothing]

@[simp] theorem recordDeferredIo_manualLimitBaseline (deferred : DeferredIo)
    (accepted : Bool) :
    (balancer.recordDeferredIo deferred
        accepted).allLimits.manualLimitBaseline =
      balancer.allLimits.manualLimitBaseline := by
  unfold recordDeferredIo
  split
  · rfl
  · simp [withApps]

@[simp] theorem applyDeferredIoCap_manualLimitBaseline (deferred : DeferredIo)
    (outcome : Nat → IoCallOutcome) :
    (balancer.applyDeferredIoCap deferred
        outcome).allLimits.manualLimitBaseline =
      balancer.allLimits.manualLimitBaseline := by
  unfold applyDeferredIoCap
  split
  · rfl
  · simp

@[simp] theorem modifyEntry_manualLimitBaseline (key : CgroupId)
    (change : LimitedApp → LimitedApp) :
    (balancer.modifyEntry key change).allLimits.manualLimitBaseline =
      balancer.allLimits.manualLimitBaseline := by
  unfold modifyEntry
  split <;> simp [withApps]

@[simp] theorem setFreeze_manualLimitBaseline (appId : String) (freeze : Bool)
    (outcomes : SetFreezeOutcomes) :
    (balancer.setFreeze appId freeze outcomes).2.allLimits.manualLimitBaseline =
      balancer.allLimits.manualLimitBaseline := by
  unfold setFreeze
  split
  · rfl
  next key entry _ =>
  split
  · rfl
  · cases done :
        (freezeEach freeze (entry.cgroupsOrKey key) outcomes.freeze).1 with
    | true => simp [done]
    | false => cases freeze <;> simp [done]

@[simp] theorem setRestoreResource_manualLimitBaseline (appId : String)
    (outcomes : ManualRestoreOutcomes) :
    (balancer.setRestoreResource appId
        outcomes).2.allLimits.manualLimitBaseline =
      balancer.allLimits.manualLimitBaseline := by
  unfold setRestoreResource
  split
  · rfl
  · simp [popManual, popEntry, withApps]

end Peaks

end Balancer

theorem ManualStep.keeps_manualLimitBaseline {step : ManualStep}
    (noInstall : ∀ request outcomes, step ≠ .limit request outcomes)
    (system : ManualSystem) :
    (system.step step).balancer.allLimits.manualLimitBaseline =
      system.balancer.allLimits.manualLimitBaseline := by
  cases step with
  | limit request outcomes => exact absurd rfl (noInstall request outcomes)
  | deferredIo position outcome =>
    simp only [ManualSystem.step]
    split
    · rfl
    · simp
  | freeze appId freeze outcomes => simp [ManualSystem.step]
  | restore appId outcomes => simp [ManualSystem.step]

/-- A step leaves the peak of a cgroup alone or latches that of an install it
records under it. -/
theorem ManualSystem.peak_step (system : ManualSystem) (step : ManualStep)
    (primary : CgroupId) :
    (system.step step).balancer.allLimits.manualLimitBaseline.get? primary =
        system.balancer.allLimits.manualLimitBaseline.get? primary ∨
      ∃ request outcomes plan, step = .limit request outcomes ∧
        system.balancer.installPlan request outcomes = .ok plan ∧
        plan.primary = primary ∧
        (plan.accepted system.balancer.isRunning outcomes).any = true ∧
        (system.step step).balancer.allLimits.manualLimitBaseline.get?
          primary = some plan.peaks := by
  by_cases installs : ∃ request outcomes, step = .limit request outcomes
  · obtain ⟨request, outcomes, rfl⟩ := installs
    cases planned : system.balancer.installPlan request outcomes with
    | error reply =>
      left
      simp [ManualSystem.step, Balancer.installResourceLimit_refused planned]
    | ok plan =>
      have latched :=
        Balancer.installResourceLimit_manualLimitBaseline planned
      simp only [ManualSystem.step, latched]
      split
      · next recorded =>
        by_cases same : plan.primary = primary
        · right
          refine ⟨request, outcomes, plan, rfl, planned, same, recorded, ?_⟩
          rw [← same, OrderedDict.get?_set_self]
        · left
          exact OrderedDict.get?_set_of_ne _ _ (Ne.symm same)
      · exact Or.inl rfl
  · left
    rw [ManualStep.keeps_manualLimitBaseline fun request outcomes same =>
      installs ⟨request, outcomes, same⟩]

/-! ## Limits of the same cgroups at the same rates -/

section Cycles

variable
  (primary : CgroupId)
  (extras : List CgroupId)
  (cpuRate memRate : Option ℚ)

/-- The part of the latched memory a cgroup is meant for. -/
def memPart (peaks : Baseline) (rate : ℚ) (cgroup : CgroupId) : ℚ :=
  budgetPart peaks.memTotal rate (primary :: extras) peaks.perCgroupMem cgroup

/-- The part of the latched CPU usage a cgroup is meant for. -/
def cpuPart (peaks : Baseline) (rate : ℚ) (cgroup : CgroupId) : ℚ :=
  budgetPart peaks.cpuUsage rate (primary :: extras) peaks.perCgroupCpuDelta
    cgroup

/-- A plan limits just these cgroups, at these rates. -/
def InstallPlan.IsCycle (plan : InstallPlan) : Prop :=
  plan.cgroups = primary :: extras ∧ plan.limitRates.cpu = cpuRate ∧
    plan.limitRates.mem = memRate

instance (plan : InstallPlan) :
    Decidable (plan.IsCycle primary extras cpuRate memRate) :=
  inferInstanceAs (Decidable (_ ∧ _ ∧ _))

/-- What a step writes as a limit of these cgroups at these rates. -/
def ManualSystem.cycleWrites (system : ManualSystem) :
    ManualStep → List KernelWrite
  | .limit request outcomes =>
    match system.balancer.installPlan request outcomes with
    | .ok plan =>
      if plan.IsCycle primary extras cpuRate memRate then
        plan.allWrites system.balancer.isRunning outcomes
      else []
    | .error _ => []
  | _ => []

def NotBelow (earlier later : List KernelWrite) : Prop :=
  ∀ cgroup old new, .quota cgroup old ∈ earlier → .quota cgroup new ∈ later →
    (∀ before after, old.memHigh = some before → new.memHigh = some after →
      before ≤ after) ∧
    ∀ before after, old.cpuQuota = some before → new.cpuQuota = some after →
      before ≤ after

/-- No cgroup's whole share shrinks from one peak to the other. -/
structure SharesGrow (stored peaks : Baseline) : Prop where
  mem : ∀ rate, memRate = some rate → ∀ cgroup ∈ primary :: extras,
    Shares.Fits (memPart primary extras stored rate cgroup)
      (memPart primary extras peaks rate cgroup)
  cpu : ∀ rate, cpuRate = some rate → ∀ cgroup ∈ primary :: extras,
    Shares.Fits (cpuPart primary extras stored rate cgroup)
      (cpuPart primary extras peaks rate cgroup)

/-- What an install must do for the latch to hold: the new peaks shrink no
cgroup's share, and a limit that lands on some cgroup is recorded. -/
structure KeepsLatch (balancer : Balancer) (plan : InstallPlan)
    (outcomes : InstallOutcomes) : Prop where
  grows : plan.IsCycle primary extras cpuRate memRate ∨
      (plan.accepted balancer.isRunning outcomes).any = true →
    ∀ stored,
    balancer.allLimits.manualLimitBaseline.get? primary = some stored →
    SharesGrow primary extras cpuRate memRate stored plan.peaks
  recorded : plan.IsCycle primary extras cpuRate memRate →
    ∀ position < plan.cgroups.length,
      (outcomes.adjust position).setProperty = true →
      (plan.accepted balancer.isRunning outcomes).any = true

/-- Installs under the primary cgroup keep the latch. -/
def ManualSystem.Latches (system : ManualSystem) : ManualStep → Prop
  | .limit request outcomes =>
    ∀ plan, system.balancer.installPlan request outcomes = .ok plan →
      plan.primary = primary →
      KeepsLatch primary extras cpuRate memRate system.balancer plan outcomes
  | _ => True

/-- The caps of these writes are at most the shares of the stored peak. -/
def ManualSystem.Bounds (system : ManualSystem)
    (writes : List KernelWrite) : Prop :=
  ∀ cgroup cap, .quota cgroup cap ∈ writes → cgroup ∈ primary :: extras ∧
    ∃ stored, system.balancer.allLimits.manualLimitBaseline.get? primary =
        some stored ∧
      (∀ megabytes, cap.memHigh = some megabytes → ∃ rate, memRate = some rate ∧
        megabytes ≤ Shares.whole (memPart primary extras stored rate cgroup)) ∧
      ∀ quota, cap.cpuQuota = some quota → ∃ rate, cpuRate = some rate ∧
        quota ≤ Shares.whole (cpuPart primary extras stored rate cgroup)

section Latch

variable {primary : CgroupId} {extras : List CgroupId}
  {cpuRate memRate : Option ℚ}

theorem InstallPlan.IsCycle.shares {balancer : Balancer}
    {request : LimitRequest} {outcomes : InstallOutcomes} {plan : InstallPlan}
    (cycle : plan.IsCycle primary extras cpuRate memRate)
    (planned : balancer.installPlan request outcomes = .ok plan)
    {cgroup : CgroupId} {cap : QuotaCap}
    (written : .quota cgroup cap ∈ plan.allWrites balancer.isRunning outcomes) :
    cgroup ∈ primary :: extras ∧
      (∀ megabytes, cap.memHigh = some megabytes → ∃ rate,
        memRate = some rate ∧ megabytes =
          Shares.whole (memPart primary extras plan.peaks rate cgroup)) ∧
      ∀ quota, cap.cpuQuota = some quota → ∃ rate, cpuRate = some rate ∧ quota =
          Shares.whole (cpuPart primary extras plan.peaks rate cgroup) := by
  obtain ⟨cgroups, cpu, mem⟩ := cycle
  obtain ⟨_, _, _, _, _, cpuQuota, memHigh⟩ := Balancer.installPlan_inv planned
  obtain ⟨_, _, ⟨position, located, _⟩, rfl⟩ :=
    InstallPlan.quota_mem_allWrites_iff.mp written
  refine ⟨cgroups ▸ List.mem_of_getElem? located, ?_, ?_⟩
  · intro megabytes high
    have handed := (Option.filter_eq_some_iff.mp high).1
    rw [memHigh, distribute_sizedLimit, mem, cgroups] at handed
    split at handed
    · obtain ⟨rate, configured, rfl⟩ := Option.map_eq_some_iff.mp handed
      exact ⟨rate, configured, rfl⟩
    · cases handed
  · intro quota share
    have handed := (Option.filter_eq_some_iff.mp share).1
    rw [cpuQuota, distribute_sizedLimit, cpu, cgroups] at handed
    split at handed
    · obtain ⟨rate, configured, rfl⟩ := Option.map_eq_some_iff.mp handed
      exact ⟨rate, configured, rfl⟩
    · cases handed

theorem ManualSystem.mem_cycleWrites_iff {system : ManualSystem}
    {step : ManualStep} {write : KernelWrite} :
    write ∈ system.cycleWrites primary extras cpuRate memRate step ↔
      ∃ request outcomes plan, step = .limit request outcomes ∧
        system.balancer.installPlan request outcomes = .ok plan ∧
        plan.IsCycle primary extras cpuRate memRate ∧
        write ∈ plan.allWrites system.balancer.isRunning outcomes := by
  cases step with
  | limit request outcomes =>
    simp only [ManualSystem.cycleWrites]
    cases planned : system.balancer.installPlan request outcomes with
    | error reply => simp [planned]
    | ok plan =>
      by_cases cycle : plan.IsCycle primary extras cpuRate memRate <;>
        simp [cycle, planned]
  | deferredIo position outcome => simp [ManualSystem.cycleWrites]
  | freeze appId freeze outcomes => simp [ManualSystem.cycleWrites]
  | restore appId outcomes => simp [ManualSystem.cycleWrites]

theorem InstallPlan.IsCycle.primary_eq {plan : InstallPlan}
    (cycle : plan.IsCycle primary extras cpuRate memRate) :
    plan.primary = primary :=
  (List.cons.inj cycle.1).1

theorem ManualSystem.Bounds.latch {system : ManualSystem}
    {writes : List KernelWrite}
    (bounds : system.Bounds primary extras cpuRate memRate writes)
    {peaks : Baseline}
    (grows : ∀ stored,
      system.balancer.allLimits.manualLimitBaseline.get? primary = some stored →
      SharesGrow primary extras cpuRate memRate stored peaks)
    {cgroup : CgroupId}
    {cap : QuotaCap}
    (written : .quota cgroup cap ∈ writes) :
    (∀ megabytes, cap.memHigh = some megabytes → ∃ rate, memRate = some rate ∧
        megabytes ≤ Shares.whole (memPart primary extras peaks rate cgroup)) ∧
      ∀ quota, cap.cpuQuota = some quota → ∃ rate, cpuRate = some rate ∧
        quota ≤ Shares.whole (cpuPart primary extras peaks rate cgroup) := by
  obtain ⟨listed, stored, latched, mem, cpu⟩ := bounds cgroup cap written
  have shares := grows stored latched
  constructor
  · intro megabytes high
    obtain ⟨rate, configured, below⟩ := mem megabytes high
    exact ⟨rate, configured, below.trans ((Shares.whole_le_whole_iff _ _).mpr
      (shares.mem rate configured cgroup listed))⟩
  · intro quota share
    obtain ⟨rate, configured, below⟩ := cpu quota share
    exact ⟨rate, configured, below.trans ((Shares.whole_le_whole_iff _ _).mpr
      (shares.cpu rate configured cgroup listed))⟩

theorem ManualSystem.Bounds.step {system : ManualSystem}
    {writes : List KernelWrite}
    (bounds : system.Bounds primary extras cpuRate memRate writes)
    {step : ManualStep}
    (latches : system.Latches primary extras cpuRate memRate step) :
    (system.step step).Bounds primary extras cpuRate memRate writes := by
  intro cgroup cap written
  obtain ⟨listed, stored, latched, mem, cpu⟩ := bounds cgroup cap written
  rcases system.peak_step step primary with same |
    ⟨request, outcomes, plan, rfl, planned, under, recorded, moved⟩
  · exact ⟨listed, stored, same.trans latched, mem, cpu⟩
  · have grown := bounds.latch
      ((latches plan planned under).grows (Or.inr recorded)) written
    exact ⟨listed, plan.peaks, moved, grown⟩

theorem ManualSystem.bounds_cycleWrites {system : ManualSystem}
    {step : ManualStep}
    (latches : system.Latches primary extras cpuRate memRate step) :
    (system.step step).Bounds primary extras cpuRate memRate
      (system.cycleWrites primary extras cpuRate memRate step) := by
  intro cgroup cap written
  obtain ⟨request, outcomes, plan, rfl, planned, cycle, lands⟩ :=
    ManualSystem.mem_cycleWrites_iff.mp written
  obtain ⟨listed, mem, cpu⟩ := cycle.shares planned lands
  obtain ⟨_, _, ⟨position, located, accepted⟩, _⟩ :=
    InstallPlan.quota_mem_allWrites_iff.mp lands
  have recorded := (latches plan planned cycle.primary_eq).recorded cycle
    position (List.getElem?_eq_some_iff.mp located).1 accepted
  have latched :=
    Balancer.installResourceLimit_manualLimitBaseline planned
  rw [if_pos recorded, cycle.primary_eq] at latched
  refine ⟨listed, plan.peaks, ?_, ?_, ?_⟩
  · simp only [ManualSystem.step, latched, OrderedDict.get?_set_self]
  · intro megabytes high
    obtain ⟨rate, configured, same⟩ := mem megabytes high
    exact ⟨rate, configured, same.le⟩
  · intro quota share
    obtain ⟨rate, configured, same⟩ := cpu quota share
    exact ⟨rate, configured, same.le⟩

theorem ManualSystem.Bounds.notBelow {system : ManualSystem}
    {writes : List KernelWrite}
    (bounds : system.Bounds primary extras cpuRate memRate writes)
    {step : ManualStep}
    (latches : system.Latches primary extras cpuRate memRate step) :
    NotBelow writes
      (system.cycleWrites primary extras cpuRate memRate step) := by
  intro cgroup old new earlier later
  obtain ⟨request, outcomes, plan, rfl, planned, cycle, lands⟩ :=
    ManualSystem.mem_cycleWrites_iff.mp later
  have grown := bounds.latch
    ((latches plan planned cycle.primary_eq).grows (Or.inl cycle)) earlier
  obtain ⟨_, mem, cpu⟩ := cycle.shares planned lands
  constructor
  · intro before after had has
    obtain ⟨rate, configured, below⟩ := grown.1 before had
    obtain ⟨other, same, rfl⟩ := mem after has
    obtain rfl := Option.some.inj (configured.symm.trans same)
    exact below
  · intro before after had has
    obtain ⟨rate, configured, below⟩ := grown.2 before had
    obtain ⟨other, same, rfl⟩ := cpu after has
    obtain rfl := Option.some.inj (configured.symm.trans same)
    exact below

end Latch

end Cycles

namespace ManualSystem

/-- A limit of both instances while they hold so much. -/
def limitHolding (first second : ℚ) : ManualStep :=
  .limit (Balancer.limitInstances [])
    (Balancer.holdingInTwoCgroups first second)

/-- The manual restore of the app, every write accepted. -/
def restoreApp : ManualStep :=
  .restore "app"
    { adjust := fun _ => .accepting
      io := fun _ => .accepting []
      thaw := fun _ => .accepting }

/-- The plan of a limit of both instances at a peak of 500 MB each. -/
def heldPlan : InstallPlan where
  limitRates := ⟨some none, some (some (3 / 10)), some none⟩
  primary := "one.scope"
  extras := ["two.scope"]
  pids := [100, 200]
  cpuQuota := none
  memHigh := some 300
  ioRate := none
  peaks := ⟨0, 1000, 0, 0, 0, 0, [("one.scope", 500 * 1024 ^ 2),
    ("two.scope", 500 * 1024 ^ 2)], []⟩

/-- The app was limited at that peak and restored. -/
def onceLimited : ManualSystem :=
  Runs.run step initial [limitHolding 500 500, restoreApp]

end ManualSystem

end SmarTune
