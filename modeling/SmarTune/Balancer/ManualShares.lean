import SmarTune.Library.WholeShares
import SmarTune.Balancer.Ownership

/-!
# Shares of a manual limit

A manual limit is sized from the usage of the whole app, whatever instances it
is for, and split over the selected cgroups only.  The part of the budget each
of them is meant for decides what is written to it.
-/

namespace SmarTune

/-- The share written for a quantity: Python's `max(1, int(…))`. -/
theorem max_one_pyInt (value : ℚ) : max 1 (pyInt value) = Shares.whole value := by
  rw [Shares.whole]
  rcases le_total 0 value with nonneg | nonpos
  · rw [pyInt_of_nonneg nonneg]
  · have truncated := pyInt_nonpos nonpos
    have floored : ⌊value⌋ ≤ 0 := by
      simpa using Int.floor_mono nonpos
    omega

/-! ## The part of a budget meant for one cgroup -/

/-- What `rate` of the usage amounts to for one of the cgroups: all of it for
the only cgroup, else its weight's part of the whole budget. -/
def budgetPart (usage rate : ℚ) (cgroups : List CgroupId)
    (table : List (CgroupId × ℚ)) (cgroup : CgroupId) : ℚ :=
  if cgroups.length ≤ 1 then usage * rate
  else
    let budget : ℚ := Shares.whole (usage * rate)
    let weights := (cgroups.map (perCgroup table)).sum
    if weights ≤ 0 then budget / cgroups.length
    else budget * perCgroup table cgroup / weights

theorem distribute_sizedLimit (usage : ℚ) (rate : Option ℚ)
    (cgroups : List CgroupId) (table : List (CgroupId × ℚ))
    (cgroup : CgroupId) :
    distribute (sizedLimit usage rate) cgroups table cgroup =
      if truthy rate && decide (0 < usage) then
        rate.map fun rate =>
          Shares.whole (budgetPart usage rate cgroups table cgroup)
      else none := by
  cases sized : truthy rate && decide (0 < usage) with
  | false => simp [distribute, splitProportionally, sizedLimit, sized]
  | true =>
    cases rate with
    | none => cases sized
    | some rate =>
      have positive := Shares.one_le_whole (usage * rate)
      simp only [sizedLimit, sized, if_true, Option.map_some,
        max_one_pyInt, distribute, budgetPart]
      split
      · rfl
      · next several =>
        rw [splitProportionally, if_neg (by omega)]
        split
        · have whole := max_eq_right (by omega : 1 ≤ (cgroups.length : ℤ))
          have floored := Rat.floor_intCast_div_natCast
            (Shares.whole (usage * rate)) cgroups.length
          simp only
          rw [whole, Int.fdiv_eq_ediv_of_nonneg _ (by omega), ← floored]
          rfl
        · simp only
          rw [max_one_pyInt]

/-! ## What an install writes to one cgroup -/

/-- The CPU usage a limit is sized from: a negligible one counts as none. -/
def Baseline.cpuUsage (peaks : Baseline) : ℚ :=
  if 2 ≤ peaks.cpuPercent then peaks.cpuPercent else 0

namespace Balancer

variable {balancer : Balancer} {request : LimitRequest}
  {outcomes : InstallOutcomes} {plan : InstallPlan}

/-- The choices a plan is made of. -/
theorem installPlan_inv
    (planned : balancer.installPlan request outcomes = .ok plan) :
    ∃ usage, outcomes.usage = some usage ∧
      selectedCgroups usage.cgroupPaths request.targetCgroups = plan.cgroups ∧
      plan.limitRates = getLimitedRates outcomes.policy
        (orUndefined request.priority) request.limitOverrides ∧
      plan.peaks = usage.peaks.latch
        (balancer.allLimits.manualLimitBaseline.get? plan.primary) ∧
      plan.cpuQuota = sizedLimit plan.peaks.cpuUsage plan.limitRates.cpu ∧
      plan.memHigh = sizedLimit plan.peaks.memTotal plan.limitRates.mem := by
  unfold installPlan at planned
  cases sampled : outcomes.usage with
  | none =>
    rw [sampled] at planned
    cases planned
  | some usage =>
    simp only [sampled] at planned
    split at planned
    · cases planned
    split at planned
    · cases planned
    next primary extras selected =>
    rw [← Baseline.cpuUsage] at planned
    split at planned
    · cases planned
    -- Whether a disk cap is called for does not touch the other two.
    split at planned <;> split at planned <;> cases planned
    · exact ⟨usage, rfl, selected, rfl, rfl, rfl, rfl⟩
    · exact ⟨usage, rfl, selected, rfl, rfl, rfl, rfl⟩

end Balancer

namespace InstallPlan

variable {plan : InstallPlan} {isRunning : Bool} {outcomes : InstallOutcomes}

theorem quota_mem_allWrites_iff {cgroup : CgroupId} {cap : QuotaCap} :
    .quota cgroup cap ∈ plan.allWrites isRunning outcomes ↔
      plan.attemptsCpuMem isRunning = true ∧ cap ≠ .unlimited ∧
      (∃ position, plan.cgroups[position]? = some cgroup ∧
        (outcomes.adjust position).setProperty = true) ∧
      cap = ⟨(distribute plan.cpuQuota plan.cgroups plan.peaks.perCgroupCpuDelta
            cgroup).filter fun quota => 1 ≤ quota ∧ quota ≤ 100,
          (distribute plan.memHigh plan.cgroups plan.peaks.perCgroupMem
            cgroup).filter fun megabytes => 0 < megabytes⟩ := by
  have notIo : .quota cgroup cap ∉ (plan.io isRunning
      (plan.cpuMem isRunning outcomes).1 outcomes).2 := by
    intro member
    unfold io at member
    split at member
    · cases member
    · split at member
      · obtain ⟨_, _, _, _, _, _, disk⟩ := throttleEach_writes member
        cases disk
      · cases member
  rw [allWrites, List.mem_append, or_iff_left notIo, cpuMem]
  split
  · next attempted =>
    rw [mem_fanOut_writes, and_iff_right attempted]
    simp only [adjustEach, quota_mem_adjustResources_iff]
    constructor
    · rintro ⟨position, _, located, rfl, accepted, limited, same⟩
      exact ⟨limited, ⟨position, located, accepted⟩, same⟩
    · rintro ⟨limited, ⟨position, located, accepted⟩, same⟩
      exact ⟨position, cgroup, located, rfl, accepted, limited, same⟩
  · next quiet => simp [quiet]

end InstallPlan

/-- A share handed out passes the memory check. -/
theorem filter_memHigh_whole (part : ℚ) :
    ((some (Shares.whole part)).filter fun megabytes : Int =>
      0 < megabytes) = some (Shares.whole part) := by
  have positive : 0 < Shares.whole part := by
    have := Shares.one_le_whole part
    omega
  simp [Option.filter, positive]

/-! ## Shares of a cgroup's own working set -/

namespace Balancer

variable
  (balancer : Balancer)
  (request : LimitRequest)
  (outcomes : InstallOutcomes)
  (own : Baseline → CgroupId → ℚ)

/-- Every `memory.high` an install writes is at most the configured share of
the cgroup's own working set, but 1 MB at least.  `own` says how that working
set, in MB, is read off the latched usage. -/
def LimitsOwnShares : Prop :=
  ∀ plan, balancer.installPlan request outcomes = .ok plan →
    ∀ rate, plan.limitRates.mem = some rate →
    ∀ cgroup cap, ∀ megabytes : Int,
      .quota cgroup cap ∈ plan.allWrites balancer.isRunning outcomes →
      cap.memHigh = some megabytes →
      (megabytes : ℚ) ≤ max 1 (rate * own plan.peaks cgroup)

/-- An install is asked to limit the memory of these cgroups: they are the
selected ones, no auto entry answers to them, and the latched peak is theirs
to share. -/
structure LimitsMemory (cgroups : List CgroupId) (peaks : Baseline)
    (rate : ℚ) : Prop where
  running : balancer.isRunning = true
  sampled : ∃ usage primary extras, outcomes.usage = some usage ∧
    selectedCgroups usage.cgroupPaths request.targetCgroups = cgroups ∧
    cgroups = primary :: extras ∧
    peaks = usage.peaks.latch
      (balancer.allLimits.manualLimitBaseline.get? primary)
  free : ∀ cgroup ∈ cgroups, balancer.allLimits.byAnyId cgroup .auto = none
  configured : (getLimitedRates outcomes.policy (orUndefined request.priority)
    request.limitOverrides).mem = some rate
  limiting : rate ≠ 0
  used : 0 < peaks.memTotal

/-- Whatever whole share of 2 MB or more the budget has room for at a cgroup,
the cgroup's own working set has room for. -/
def PartsFitOwn : Prop :=
  ∀ cgroups peaks rate,
    balancer.LimitsMemory request outcomes cgroups peaks rate →
    ∀ position cgroup, cgroups[position]? = some cgroup →
      (outcomes.adjust position).setProperty = true →
      Shares.Fits
        (budgetPart peaks.memTotal rate cgroups peaks.perCgroupMem cgroup)
        (rate * own peaks cgroup)

variable {balancer request outcomes}

variable {rate : ℚ} {plan : InstallPlan}

theorem LimitsMemory.planned {cgroups : List CgroupId} {peaks : Baseline}
    (limits : balancer.LimitsMemory request outcomes cgroups peaks rate) :
    ∃ plan, balancer.installPlan request outcomes = .ok plan ∧
      plan.cgroups = cgroups ∧ plan.peaks = peaks ∧
      plan.limitRates.mem = some rate := by
  obtain ⟨usage, primary, extras, sampled, selected, rfl, rfl⟩ :=
    limits.sampled
  have some_ := selectedCgroups_nil_ne_nil (selected ▸ List.mem_cons_self)
  have free : ¬ ((primary :: extras).any fun cgroup =>
      (balancer.allLimits.byAnyId cgroup .auto).isSome) = true := by
    simp only [List.any_eq_true, not_exists, not_and]
    intro cgroup listed
    simp [limits.free cgroup listed]
  have sized : (sizedLimit (usage.peaks.latch
      (balancer.allLimits.manualLimitBaseline.get? primary)).memTotal
      (getLimitedRates outcomes.policy (orUndefined request.priority)
        request.limitOverrides).mem).isNone = false := by
    simp [sizedLimit, limits.configured, truthy, limits.limiting, limits.used]
  simp only [installPlan, sampled, if_neg some_, selected, if_neg free, sized,
    Bool.and_false, Bool.false_and, Bool.false_eq_true, if_false]
  exact ⟨_, rfl, rfl, rfl, limits.configured⟩

theorem memShare_of_planned
    (planned : balancer.installPlan request outcomes = .ok plan)
    (configured : plan.limitRates.mem = some rate) (cgroup : CgroupId) :
    (distribute plan.memHigh plan.cgroups plan.peaks.perCgroupMem
        cgroup).filter (fun megabytes => 0 < megabytes) =
      if rate ≠ 0 ∧ 0 < plan.peaks.memTotal then
        some (Shares.whole (budgetPart plan.peaks.memTotal rate plan.cgroups
          plan.peaks.perCgroupMem cgroup))
      else none := by
  obtain ⟨_, _, _, _, _, _, memHigh⟩ := installPlan_inv planned
  rw [memHigh, distribute_sizedLimit, configured]
  by_cases sized : rate ≠ 0 ∧ 0 < plan.peaks.memTotal
  · rw [if_pos sized, if_pos (by simpa [truthy] using sized)]
    exact filter_memHigh_whole _
  · rw [if_neg sized, if_neg (by simpa [truthy] using sized)]
    rfl

theorem limitsMemory_of_planned
    (planned : balancer.installPlan request outcomes = .ok plan)
    (running : balancer.isRunning = true)
    (configured : plan.limitRates.mem = some rate)
    (sized : rate ≠ 0 ∧ 0 < plan.peaks.memTotal) :
    balancer.LimitsMemory request outcomes plan.cgroups plan.peaks rate := by
  obtain ⟨usage, sampled, selected, rates, peaks, _⟩ := installPlan_inv planned
  exact
    { running := running
      sampled :=
        ⟨usage, plan.primary, plan.extras, sampled, selected, rfl, peaks⟩
      free := fun _ listed => not_auto_of_installPlan planned listed
      configured := rates ▸ configured
      limiting := sized.1
      used := sized.2 }

/-- A cgroup's row of the latched table, in MB. -/
def residentMb (peaks : Baseline) (cgroup : CgroupId) : ℚ :=
  perCgroup peaks.perCgroupMem cgroup / 1024 ^ 2

/-- A policy that caps memory at three tenths and limits nothing else. -/
def memoryPolicy : LimitPolicy where
  cpu := ⟨false, fun _ => none⟩
  memory := ⟨true, fun _ => some (3 / 10)⟩
  diskIo := ⟨false, fun _ => none⟩

/-- An app holding so many MB in each of its two cgroups, every write
accepted. -/
def holdingInTwoCgroups (first second : ℚ) : InstallOutcomes where
  policy := some memoryPolicy
  usage := some
    { cgroupPaths := ["/app.slice/one.scope", "/app.slice/two.scope"]
      pids := [(100, "one.scope"), (200, "two.scope")]
      cpuPercent := 0
      memCurrent := first + second
      memSwapCurrent := 0
      ioReadMb := 0
      ioWriteMb := 0
      ioReadIops := 0
      ioWriteIops := 0
      perCgroupMem := [("one.scope", first * 1024 ^ 2),
        ("two.scope", second * 1024 ^ 2)]
      perCgroupCpuDelta := [] }
  adjust := fun _ => .accepting
  io := fun _ => .accepting []
  now := 0

/-- A request for the selected instances of the app. -/
def limitInstances (targetCgroups : List String) : LimitRequest :=
  ⟨"app", "App", some "low", none, targetCgroups⟩

end Balancer

end SmarTune
