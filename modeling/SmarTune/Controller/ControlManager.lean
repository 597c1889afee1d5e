import SmarTune.Controller.Kernel

/-!
# CPU, memory and freezer writes

`adjust_resources` sets the CPU governor and the unit's properties and reports
both together, so a cap can land although the call reports a failure.  One
`systemctl set-property` carries `CPUQuota=` and `MemoryHigh=` at once: a value
that is absent or out of range clears its property.
-/

namespace SmarTune

/-- The adjustment policies the limit paths ask for. -/
inductive AdjustPolicy
  | low
  | medium
  | critical
  deriving DecidableEq, Repr

/-- What the environment answers to one `adjust_resources` call. -/
structure AdjustOutcome where
  /-- The governor could be set. -/
  governor : Bool
  /-- `systemctl set-property` was accepted within its three attempts. -/
  setProperty : Bool
  deriving DecidableEq, Repr

/-- Both writes are accepted. -/
def AdjustOutcome.accepting : AdjustOutcome := ⟨true, true⟩

/-- `_set_resource_quota`: validate the values and set both properties. -/
def setResourceQuota (cgroup : CgroupId) (cpuQuota memHigh : Option Int)
    (isRestore : Bool) (outcome : AdjustOutcome) : Bool × List KernelWrite :=
  let cpuQuota := cpuQuota.filter fun quota => 1 ≤ quota ∧ quota ≤ 100
  let memHigh := memHigh.filter fun megabytes => 0 < megabytes
  if !isRestore && cpuQuota.isNone && memHigh.isNone then
    (true, [])
  else if outcome.setProperty then
    (true, [.quota cgroup
      (if isRestore then .unlimited else ⟨cpuQuota, memHigh⟩)])
  else
    (false, [])

/-- `adjust_resources`: governor and properties; both are always attempted. -/
def adjustResources (cgroup : CgroupId) (policy : AdjustPolicy)
    (cpuQuota memHigh : Option Int)
    (outcome : AdjustOutcome) : Bool × List KernelWrite :=
  match policy with
  | .low =>
    let result := setResourceQuota cgroup none none true outcome
    (outcome.governor && result.1, result.2)
  | .medium | .critical =>
    let result := setResourceQuota cgroup cpuQuota memHigh false outcome
    (outcome.governor && result.1, result.2)

/-- The restore policy writes exactly when the properties are accepted. -/
theorem adjustResources_low (cgroup : CgroupId) (cpuQuota memHigh : Option Int)
    (outcome : AdjustOutcome) :
    adjustResources cgroup .low cpuQuota memHigh outcome =
      (outcome.governor && outcome.setProperty,
        if outcome.setProperty then [.quota cgroup .unlimited] else []) := by
  cases accepted : outcome.setProperty <;>
    simp [adjustResources, setResourceQuota, accepted]

/-- The properties a limiting policy sets: the values that pass the checks,
unless none does. -/
theorem quota_mem_adjustResources_iff {cgroup other : CgroupId}
    {cpuQuota memHigh : Option Int} {outcome : AdjustOutcome} {cap : QuotaCap} :
    .quota other cap ∈
        (adjustResources cgroup .critical cpuQuota memHigh outcome).2 ↔
      other = cgroup ∧ outcome.setProperty = true ∧ cap ≠ .unlimited ∧
        cap = ⟨cpuQuota.filter fun quota => 1 ≤ quota ∧ quota ≤ 100,
          memHigh.filter fun megabytes => 0 < megabytes⟩ := by
  simp only [adjustResources, setResourceQuota]
  generalize (cpuQuota.filter fun quota => 1 ≤ quota ∧ quota ≤ 100) = share
  generalize (memHigh.filter fun megabytes => 0 < megabytes) = bound
  split
  · next absent =>
    have unlimited : (⟨share, bound⟩ : QuotaCap) = .unlimited := by
      simpa [QuotaCap.unlimited] using absent
    simp [unlimited]
  · next present =>
    have limited : (⟨share, bound⟩ : QuotaCap) ≠ .unlimited := by
      simpa [QuotaCap.unlimited] using present
    cases outcome.setProperty with
    | false => simp
    | true =>
      simp only [if_true, List.mem_singleton, KernelWrite.quota.injEq,
        Bool.false_eq_true, if_false, true_and]
      constructor
      · rintro ⟨rfl, rfl⟩
        exact ⟨rfl, limited, rfl⟩
      · rintro ⟨rfl, _, rfl⟩
        exact ⟨rfl, rfl⟩

/-- A limiting policy lifts nothing and only touches its own cgroup. -/
theorem adjustResources_critical_writes {cgroup : CgroupId}
    {cpuQuota memHigh : Option Int} {outcome : AdjustOutcome}
    {write : KernelWrite}
    (member : write ∈
      (adjustResources cgroup .critical cpuQuota memHigh outcome).2) :
    ∃ cap, cap ≠ .unlimited ∧ write = .quota cgroup cap := by
  simp only [adjustResources, setResourceQuota] at member
  split at member
  · simp at member
  · next present =>
    split at member
    · simp only [Bool.false_eq_true, if_false, List.mem_singleton] at member
      refine ⟨_, ?_, member⟩
      intro unlimited
      simp only [QuotaCap.unlimited, QuotaCap.mk.injEq] at unlimited
      exact present (by rw [unlimited.1, unlimited.2]; rfl)
    · simp at member

theorem adjustResources_medium (cgroup : CgroupId)
    (cpuQuota memHigh : Option Int) (outcome : AdjustOutcome) :
    adjustResources cgroup .medium cpuQuota memHigh outcome =
      adjustResources cgroup .critical cpuQuota memHigh outcome := rfl

/-- What the environment answers to one `freeze_cgroup` call. -/
structure FreezeOutcome where
  /-- The cgroup directory exists. -/
  exists_ : Bool
  /-- `cgroup.freeze` accepted the write. -/
  written : Bool
  /-- `cgroup.events` confirmed the state before the timeout. -/
  confirmed : Bool
  deriving DecidableEq, Repr

/-- The cgroup is there and follows. -/
def FreezeOutcome.accepting : FreezeOutcome := ⟨true, true, true⟩

/-- `freeze_cgroup` up to its crash record: write `cgroup.freeze` and wait for
the confirmation; thawing a cgroup that is gone succeeds. -/
def freezeCgroup (cgroup : CgroupId) (frozen : Bool)
    (outcome : FreezeOutcome) : Bool × List KernelWrite :=
  if !outcome.exists_ then
    (!frozen, [])
  else if outcome.written then
    (outcome.confirmed, [.freeze cgroup frozen])
  else
    (false, [])

/-- Freezing installs and lifts no cap. -/
theorem freezeCgroup_writes {cgroup : CgroupId} {frozen : Bool}
    {outcome : FreezeOutcome} {write : KernelWrite}
    (member : write ∈ (freezeCgroup cgroup frozen outcome).2) :
    write = .freeze cgroup frozen := by
  unfold freezeCgroup at member
  split at member
  · simp at member
  · split at member
    · simpa using member
    · simp at member

end SmarTune
