import SmarTune.Balancer.Apply
import SmarTune.Balancer.RestoreErrors

/-!
# Relaxing a CPU/memory cap

An auto cap is sized from the app's working set and split over its cgroups.
The partial restore recomputes the doubled rates against the whole machine and
sends them to every cgroup, where a figure out of range counts as no limit.
-/

namespace SmarTune

/-! ## Writing one cap to several cgroups -/

theorem Kernel.quota_writeAll {writes : List KernelWrite} {cap : QuotaCap}
    (uniform : ∀ write ∈ writes, ∃ cgroup, write = .quota cgroup cap)
    (kernel : Kernel) (cgroup : CgroupId) :
    (kernel.writeAll writes).quota cgroup =
      if .quota cgroup cap ∈ writes then cap else kernel.quota cgroup := by
  induction writes generalizing kernel with
  | nil => simp
  | cons write writes ih =>
    obtain ⟨target, rfl⟩ := uniform write List.mem_cons_self
    rw [Kernel.writeAll_cons, ih fun other member =>
      uniform other (List.mem_cons_of_mem _ member)]
    by_cases later : .quota cgroup cap ∈ writes
    · simp [later]
    · by_cases same : cgroup = target
      · simp [Kernel.write, same]
      · simp [Kernel.write, later, same]

/-! ## One resource relaxed -/

/-- A limit grew to at most twice its value, or there is still none. -/
def RelaxesTo : Option Int → Option Int → Prop
  | none, new => new = none
  | some old, new => ∃ value, new = some value ∧ old ≤ value ∧ value ≤ 2 * old

/-- Both limits grew to at most twice their values, or there are none. -/
structure QuotaCap.RelaxesTo (old new : QuotaCap) : Prop where
  cpuQuota : SmarTune.RelaxesTo old.cpuQuota new.cpuQuota
  memHigh : SmarTune.RelaxesTo old.memHigh new.memHigh

/-- The doubled figure truncates to a value between a limit and twice it. -/
def Relaxable : Option Int → Option ℚ → Prop
  | none, doubled => doubled = none
  | some old, doubled => ∃ value, doubled = some value ∧
      (old : ℚ) ≤ value ∧ value < 2 * old + 1

/-- A positive limit relaxes to the truncation of a figure exactly when the
figure lies between it and twice it. -/
theorem relaxesTo_map_pyInt_iff {old : Option Int}
    (positive : ∀ value, old = some value → 1 ≤ value) (doubled : Option ℚ) :
    RelaxesTo old (doubled.map pyInt) ↔ Relaxable old doubled := by
  cases old with
  | none => simp [RelaxesTo, Relaxable]
  | some limit =>
    have atLeastOne := positive limit rfl
    cases doubled with
    | none => simp [RelaxesTo, Relaxable]
    | some figure =>
      have above := le_pyInt_iff atLeastOne figure
      have below := pyInt_lt_iff (by omega : 1 ≤ 2 * limit + 1) figure
      push_cast at below
      simp only [RelaxesTo, Relaxable, Option.map_some, Option.some.injEq,
        exists_eq_left', above, ← below]
      rw [Int.lt_add_one_iff]

theorem relaxesTo_refl {limit : Option Int}
    (positive : ∀ value, limit = some value → 1 ≤ value) :
    RelaxesTo limit limit := by
  cases limit with
  | none => rfl
  | some value =>
    have := positive value rfl
    exact ⟨value, rfl, le_rfl, by omega⟩

/-! ## The doubled figures -/

def doubled (base : ℚ) (rate : Option (Option ℚ)) : Option ℚ :=
  rate.join.map fun rate => base * rate * 2

/-- Twice the CPU share, if it is a percentage. -/
def LimitRates.doubledCpu (rates : LimitRates) : Option ℚ :=
  (doubled 100 rates.cpuRate).filter fun figure => 1 ≤ figure ∧ figure < 101

/-- Twice the share of the machine's memory, if it is 1 MB or more. -/
def LimitRates.doubledMem (rates : LimitRates) (totalMemory : Int) : Option ℚ :=
  (doubled totalMemory rates.memRate).filter fun figure => 1 ≤ figure

theorem doubledRate_eq {base : ℚ} {rate : Option (Option ℚ)}
    (present : rate ≠ some none) :
    doubledRate base rate = .ok ((doubled base rate).map pyInt) := by
  rcases rate with _ | _ | rate
  · rfl
  · exact absurd rfl present
  · rfl

/-- The CPU check of `_set_resource_quota` on a truncated figure. -/
theorem filter_cpu_map_pyInt (figure : Option ℚ) :
    (figure.map pyInt).filter (fun quota => 1 ≤ quota ∧ quota ≤ 100) =
      (figure.filter fun figure => 1 ≤ figure ∧ figure < 101).map pyInt := by
  cases figure with
  | none => rfl
  | some figure =>
    have low := le_pyInt_iff le_rfl figure
    have high := pyInt_lt_iff (by decide : (1 : Int) ≤ 101) figure
    have same : (1 ≤ pyInt figure ∧ pyInt figure ≤ 100) ↔
        1 ≤ figure ∧ figure < 101 := by
      push_cast at low high
      rw [← low, ← high, Int.lt_iff_add_one_le]
      omega
    by_cases inRange : 1 ≤ figure ∧ figure < 101
    · simp [Option.filter, inRange, same.mpr inRange]
    · simp [Option.filter, inRange, mt same.mp inRange]

/-- The memory check of `_set_resource_quota` on a truncated figure. -/
theorem filter_mem_map_pyInt (figure : Option ℚ) :
    (figure.map pyInt).filter (fun megabytes => 0 < megabytes) =
      (figure.filter fun figure => 1 ≤ figure).map pyInt := by
  cases figure with
  | none => rfl
  | some figure =>
    have low := le_pyInt_iff le_rfl figure
    have same : 0 < pyInt figure ↔ 1 ≤ figure := by
      push_cast at low
      rw [← low, Int.lt_iff_add_one_le]
      omega
    by_cases inRange : 1 ≤ figure
    · simp [Option.filter, inRange, same.mpr inRange]
    · simp [Option.filter, inRange, mt same.mp inRange]

/-! ## The cap a partial restore writes -/

namespace Balancer

/-- The cap a partial restore writes to every cgroup. -/
def doubledCap (rates : LimitRates) (totalMemory : Int) : QuotaCap where
  cpuQuota := rates.doubledCpu.map pyInt
  memHigh := (rates.doubledMem totalMemory).map pyInt

/-- A partial restore has a rate for every key and a figure to write. -/
structure RewritesCap (balancer : Balancer) (rates : LimitRates)
    (totalMemory : Int) : Prop where
  running : balancer.isRunning = true
  multiplies : rates.holdsNone .sys = false
  inRange : rates.doubledCpu ≠ none ∨ rates.doubledMem totalMemory ≠ none

/-- The properties of a cgroup are accepted somewhere in a fan-out. -/
def AcceptedAt (outcome : Nat → AdjustOutcome) (cgroups : List CgroupId)
    (cgroup : CgroupId) : Prop :=
  ∃ position, cgroups[position]? = some cgroup ∧
    (outcome position).setProperty = true

theorem doubledCap_ne_unlimited_iff {rates : LimitRates} {totalMemory : Int} :
    doubledCap rates totalMemory ≠ .unlimited ↔
      rates.doubledCpu ≠ none ∨ rates.doubledMem totalMemory ≠ none := by
  simp only [doubledCap, QuotaCap.unlimited, ne_eq, QuotaCap.mk.injEq,
    Option.map_eq_none_iff]
  tauto

variable {balancer : Balancer} {key : CgroupId} {entry : LimitedApp}
  {outcomes : RestoreOutcomes}

theorem partialRestoreCall_of_holdsNone (running : balancer.isRunning = true)
    (holds : entry.limitRates.holdsNone .sys = true) :
    balancer.partialRestoreCall key entry .sys outcomes =
      .error .typeError := by
  rcases cpu : entry.limitRates.cpuRate with _ | _ | cpuRate <;>
    rcases mem : entry.limitRates.memRate with _ | _ | memRate <;>
    simp_all [partialRestoreCall, doubledRate, LimitRates.holdsNone]

theorem partialRestoreCall_sys (running : balancer.isRunning = true)
    (multiplies : entry.limitRates.holdsNone .sys = false) :
    balancer.partialRestoreCall key entry .sys outcomes =
      .ok (fanOut (adjustEach .medium
        (fun _ => (doubled 100 entry.limitRates.cpuRate).map pyInt)
        (fun _ => (doubled outcomes.totalMemory entry.limitRates.memRate).map
          pyInt)
        outcomes.adjust) (key :: entry.cgroups.drop 1)) := by
  obtain ⟨cpu, mem⟩ : entry.limitRates.cpuRate ≠ some none ∧
      entry.limitRates.memRate ≠ some none := by
    simpa [LimitRates.holdsNone] using multiplies
  simp only [partialRestoreCall, running, Bool.not_true, Bool.false_eq_true,
    if_false, doubledRate_eq cpu, doubledRate_eq mem]

theorem partialRestore_kernel
    (stored : balancer.allLimits.apps.get? key = some entry) :
    ∃ writes, (balancer.restoreChannelFor key entry .sys .partially outcomes
        none).2.kernel = balancer.kernel.writeAll writes ∧
      ∀ write, write ∈ writes ↔
        balancer.RewritesCap entry.limitRates outcomes.totalMemory ∧
        ∃ cgroup, AcceptedAt outcomes.adjust (key :: entry.cgroups.drop 1)
            cgroup ∧
          write = .quota cgroup
            (doubledCap entry.limitRates outcomes.totalMemory) := by
  rw [restoreChannelFor_partially_kernel stored]
  cases running : balancer.isRunning with
  | false =>
    refine ⟨[], by simp [partialRestoreCall, running], fun write => ?_⟩
    simp only [List.not_mem_nil, false_iff, not_and]
    intro rewrites
    exact absurd (running.symm.trans rewrites.running) (by decide)
  | true =>
    cases holds : entry.limitRates.holdsNone .sys with
    | true =>
      rw [partialRestoreCall_of_holdsNone running holds]
      refine ⟨[], rfl, fun write => ?_⟩
      simp only [List.not_mem_nil, false_iff, not_and]
      intro rewrites
      exact absurd (holds.symm.trans rewrites.multiplies) (by decide)
    | false =>
      rw [partialRestoreCall_sys running holds]
      refine ⟨_, rfl, fun write => ?_⟩
      constructor
      · intro member
        obtain ⟨position, cgroup, located, written⟩ :=
          mem_fanOut_writes.mp member
        obtain ⟨_, _, cap, _, rfl⟩ := adjustEach_writes (by decide) member
        rw [adjustEach, adjustResources_medium,
          quota_mem_adjustResources_iff, filter_cpu_map_pyInt,
          filter_mem_map_pyInt] at written
        obtain ⟨rfl, accepted, limited, rfl⟩ := written
        exact ⟨⟨running, holds, doubledCap_ne_unlimited_iff.mp limited⟩,
          _, ⟨position, located, accepted⟩, rfl⟩
      · rintro ⟨rewrites, cgroup, ⟨position, located, accepted⟩, rfl⟩
        refine mem_fanOut_writes.mpr ⟨position, cgroup, located, ?_⟩
        rw [adjustEach, adjustResources_medium,
          quota_mem_adjustResources_iff, filter_cpu_map_pyInt,
          filter_mem_map_pyInt]
        exact ⟨rfl, accepted,
          doubledCap_ne_unlimited_iff.mpr rewrites.inRange, rfl⟩

theorem partialRestore_quota_of_accepted
    (stored : balancer.allLimits.apps.get? key = some entry)
    (rewrites : balancer.RewritesCap entry.limitRates outcomes.totalMemory)
    {cgroup : CgroupId}
    (accepted : AcceptedAt outcomes.adjust (key :: entry.cgroups.drop 1)
      cgroup) :
    (balancer.restoreChannelFor key entry .sys .partially outcomes
        none).2.kernel.quota cgroup =
      doubledCap entry.limitRates outcomes.totalMemory := by
  obtain ⟨writes, kernel, mem⟩ := partialRestore_kernel stored
  have uniform : ∀ write ∈ writes, ∃ other, write = .quota other
      (doubledCap entry.limitRates outcomes.totalMemory) := by
    intro write member
    obtain ⟨_, other, _, same⟩ := (mem write).mp member
    exact ⟨other, same⟩
  rw [kernel, Kernel.quota_writeAll uniform,
    if_pos ((mem _).mpr ⟨rewrites, cgroup, accepted, rfl⟩)]

theorem partialRestore_quota_of_not
    (stored : balancer.allLimits.apps.get? key = some entry) {cgroup : CgroupId}
    (spared :
      ¬ (balancer.RewritesCap entry.limitRates outcomes.totalMemory ∧
        AcceptedAt outcomes.adjust (key :: entry.cgroups.drop 1) cgroup)) :
    (balancer.restoreChannelFor key entry .sys .partially outcomes
        none).2.kernel.quota cgroup = balancer.kernel.quota cgroup := by
  obtain ⟨writes, kernel, mem⟩ := partialRestore_kernel stored
  have uniform : ∀ write ∈ writes, ∃ other, write = .quota other
      (doubledCap entry.limitRates outcomes.totalMemory) := by
    intro write member
    obtain ⟨_, other, _, same⟩ := (mem write).mp member
    exact ⟨other, same⟩
  rw [kernel, Kernel.quota_writeAll uniform, if_neg]
  intro member
  obtain ⟨rewrites, other, accepted, same⟩ := (mem _).mp member
  obtain rfl := (KernelWrite.quota.inj same).1
  exact spared ⟨rewrites, accepted⟩

/-! ## The original cap -/

def autoCap (target : Candidate) (key : CgroupId) (limitRates : LimitRates)
    (outcomes : ApplyOutcomes) (cgroup : CgroupId) : QuotaCap where
  cpuQuota := (distribute (autoCpuQuota limitRates)
    (key :: target.extraCgroups) target.perCgroupCpu cgroup).filter fun quota =>
      1 ≤ quota ∧ quota ≤ 100
  memHigh := (distribute (autoMemHighMb (key :: target.extraCgroups)
    target.perCgroupMemRss outcomes limitRates.mem)
    (key :: target.extraCgroups) target.perCgroupMemRss cgroup).filter
      fun megabytes => 0 < megabytes

theorem autoCap_cpuQuota_pos {target : Candidate} {limitRates : LimitRates}
    {cap : ApplyOutcomes} {cgroup : CgroupId} (value : Int)
    (capped : (autoCap target key limitRates cap cgroup).cpuQuota =
      some value) :
    1 ≤ value := by
  have inRange := (Option.filter_eq_some_iff.mp capped).2
  exact (of_decide_eq_true inRange).1

theorem autoCap_memHigh_pos {target : Candidate} {limitRates : LimitRates}
    {cap : ApplyOutcomes} {cgroup : CgroupId} (value : Int)
    (capped : (autoCap target key limitRates cap cgroup).memHigh = some value) :
    1 ≤ value := by
  have inRange := (Option.filter_eq_some_iff.mp capped).2
  exact Int.add_one_le_of_lt (of_decide_eq_true inRange)

theorem quota_mem_applyCpuMem_iff {target : Candidate} {limitRates : LimitRates}
    {cap : ApplyOutcomes} {cgroup : CgroupId} {quota : QuotaCap} :
    .quota cgroup quota ∈ (applyCpuMem true target key limitRates cap).2 ↔
      AcceptedAt cap.adjust (key :: target.extraCgroups) cgroup ∧
        quota ≠ .unlimited ∧
        quota = autoCap target key limitRates cap cgroup := by
  unfold applyCpuMem
  simp only [Bool.and_true]
  split
  · simp only [mem_fanOut_writes, adjustEach, quota_mem_adjustResources_iff]
    constructor
    · rintro ⟨position, _, located, rfl, accepted, limited, same⟩
      exact ⟨⟨position, located, accepted⟩, limited, same⟩
    · rintro ⟨⟨position, located, accepted⟩, limited, same⟩
      exact ⟨position, cgroup, located, rfl, accepted, limited, same⟩
  · next nothing =>
    simp only [Bool.or_eq_true, not_or, Bool.not_eq_true,
      Option.isSome_eq_false_iff, Option.isNone_iff_eq_none] at nothing
    simp only [List.not_mem_nil, false_iff, not_and]
    intro _ limited same
    apply limited
    rw [same, autoCap, nothing.1, nothing.2]
    simp [distribute, splitProportionally, QuotaCap.unlimited]

/-! ## Within twice the original cap -/

variable
  (balancer key)
  (target : Candidate)
  (limitRates : LimitRates)
  (cap : ApplyOutcomes)
  (outcomes)

/-- A partial restore leaves every cgroup that is still at its original auto
cap with limits between the original ones and twice them.  The entry's rates
may be those of a later cap. -/
def RelaxesOriginalCap : Prop :=
  ∀ entry, balancer.allLimits.apps.get? key = some entry → ∀ cgroup original,
      .quota cgroup original ∈ (applyCpuMem true target key limitRates cap).2 →
      balancer.kernel.quota cgroup = original →
      original.RelaxesTo ((balancer.restoreChannelFor key entry .sys .partially
        outcomes none).2.kernel.quota cgroup)

/-- Wherever a partial restore rewrites an original cap, twice the machine's
CPU share and twice the machine's memory share lie between its limits and
twice them. -/
def DoublesOriginalCap : Prop :=
  ∀ entry, balancer.allLimits.apps.get? key = some entry →
    balancer.RewritesCap entry.limitRates outcomes.totalMemory →
    ∀ cgroup, AcceptedAt outcomes.adjust (key :: entry.cgroups.drop 1) cgroup →
      AcceptedAt cap.adjust (key :: target.extraCgroups) cgroup →
      let original := autoCap target key limitRates cap cgroup
      original ≠ .unlimited → balancer.kernel.quota cgroup = original →
      Relaxable original.cpuQuota entry.limitRates.doubledCpu ∧
        Relaxable original.memHigh
          (entry.limitRates.doubledMem outcomes.totalMemory)

/-- An app in one cgroup, its sampled memory 1000 MB. -/
def sampledApp : Candidate where
  recordId := some "app.scope"
  recordName := some "app"
  cgroup := some "/user/app.scope"
  perCgroupMemRss := [("app.scope", 1000 * 1024 ^ 2)]

/-- Three fifths of the CPU and a fifth of the memory. -/
def largeShares : LimitRates :=
  ⟨some (some (3 / 5)), some (some (1 / 5)), some none⟩

/-- The app is capped at these rates. -/
def cappedApp : Balancer :=
  initial.applyResourceLimits sampledApp "app.scope" largeShares false false
    "critical" (.accepting [] 0)

/-- The entry the cap recorded. -/
def cappedEntry : LimitedApp :=
  (cappedApp.allLimits.apps.get? "app.scope").get (by decide +kernel)

/-- On the machine the app was capped on, every write is accepted. -/
def acceptingRestore : RestoreOutcomes where
  totalMemory := 16000
  mediaScale := fun _ => 1
  listing := .accepting []
  adjust := fun _ => .accepting
  io := fun _ => .accepting []

end Balancer

end SmarTune
