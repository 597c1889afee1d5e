import SmarTune.Balancer.ManualShares
import SmarTune.Controller.ChunkedReclaim
import Mathlib.Algebra.BigOperators.Ring.List
import Mathlib.Algebra.Order.BigOperators.Group.List

/-!
# One round of proactive reclaim

The round's budget is the gain applied to the usage of the ready apps, weighted
by how recently each was limited, and at most the deficit.  It is split by the
same weights, so the part of an app grows with its place in the limit order.
-/

namespace SmarTune

/-- The reclaim fields of a `LimitedApp`. -/
structure ReclaimFields where
  lastReclaimAt : ℚ := 0
  reclaimBackoff : ℚ := 0
  lastCpuUsec : Option Int := none
  lastCpuSampleAt : ℚ := 0
  reclaimInflight : Bool := false

/-- The time since the last CPU sample; none was taken at time zero. -/
def ReclaimFields.elapsed (fields : ReclaimFields) (now : ℚ) : ℚ :=
  if fields.lastCpuSampleAt = 0 then 0 else now - fields.lastCpuSampleAt

/-- A limited app reclaim may pull from, with its place in the limit order. -/
structure ReclaimCandidate where
  key : CgroupId
  entry : LimitedApp
  order : Nat

/-- A candidate that passed every gate, with its usage. -/
structure ReadyApp where
  key : CgroupId
  cgroup : CgroupId
  current : Int
  order : Nat
  deriving DecidableEq

def ReadyApp.weight (app : ReadyApp) : ℚ := (app.current * app.order : Int)

/-- One call of `reclaim_memory_async`. -/
structure ReclaimAsk where
  key : CgroupId
  cgroup : CgroupId
  bytes : Int
  deriving DecidableEq

/-- What a round reads besides the registry. -/
structure ReclaimInputs where
  config : ReclaimConfig
  growth : GrowthConfig
  swap : SwapController
  snapshot : MemorySnapshot
  psiMemory : ℚ
  now : ℚ
  readings : CgroupId → CgroupReadings

namespace ReclaimInputs

variable (inputs : ReclaimInputs)

/-- The bytes missing to the target. -/
def deficit : Int :=
  (inputs.config.systemMemoryDeficit inputs.swap inputs.growth inputs.now
    inputs.snapshot).1

/-- The anonymous memory that could move to swap. -/
def movableAnon : Nat :=
  (inputs.config.systemMemoryDeficit inputs.swap inputs.growth inputs.now
    inputs.snapshot).2

/-- The share of a candidate's usage this round may ask for. -/
def gain : ℚ := inputs.config.reclaimGain inputs.psiMemory

/-- The gates of one candidate: its fields after the round looked at it, and
the candidate with its usage when it is ready. -/
def examine (candidate : ReclaimCandidate)
    (fields : ReclaimFields) : ReclaimFields × Option ReadyApp :=
  if inputs.now - fields.lastReclaimAt <
      inputs.config.cooldownSec + fields.reclaimBackoff then (fields, none)
  else if candidate.entry.limitParts.ioLimited then (fields, none)
  else
    let cgroup := candidate.entry.cgroups.headD candidate.key
    let readings := inputs.readings cgroup
    let busy := readings.cpuBusyFraction fields.lastCpuUsec
      (fields.elapsed inputs.now)
    let sampled := { fields with
      lastCpuUsec := busy.2
      lastCpuSampleAt := inputs.now }
    let current := readings.memoryCurrent.getD 0
    if readings.shouldReclaim inputs.config busy.1 && decide (0 < current) then
      (sampled, some ⟨candidate.key, cgroup, current, candidate.order⟩)
    else (sampled, none)

end ReclaimInputs

/-! ## The split -/

def totalWeight (ready : List ReadyApp) : ℚ := (ready.map ReadyApp.weight).sum

def roundBudget (deficit : Int) (gain : ℚ) (ready : List ReadyApp) : Int :=
  min deficit (pyInt (totalWeight ready * gain))

def reclaimAsks (deficit : Int) (gain : ℚ)
    (ready : List ReadyApp) : List ReclaimAsk :=
  if roundBudget deficit gain ready ≤ 0 then []
  else
    let shares := splitProportionally (some (roundBudget deficit gain ready))
      (ready.map (·.key))
      (perCgroup (ready.map fun app => (app.key, app.weight)))
    ready.filterMap fun app =>
      let share := (shares app.key).getD 0
      if share ≤ 0 then none else some ⟨app.key, app.cgroup, share⟩

namespace Balancer

variable
  (balancer : Balancer)
  (fields : CgroupId → ReclaimFields)
  (inputs : ReclaimInputs)

/-- `_reclaim_candidates`: capped, not critical, no reclaim under way. -/
def reclaimCandidates : List ReclaimCandidate :=
  (balancer.allLimits.apps.entries.zipIdx.map fun item =>
      (⟨item.1.1, item.1.2, item.2 + 1⟩ : ReclaimCandidate)).filter
    fun candidate =>
      candidate.entry.limitParts.cpuMemLimited &&
        decide (candidate.entry.priority ≠ "critical") &&
        !(fields candidate.key).reclaimInflight

/-- The candidates that pass every gate. -/
def readyApps : List ReadyApp :=
  (balancer.reclaimCandidates fields).filterMap fun candidate =>
    (inputs.examine candidate (fields candidate.key)).2

/-- `_tick_memory_reclaim`: the reclaim fields afterwards and the calls made. -/
def tickMemoryReclaim : (CgroupId → ReclaimFields) × List ReclaimAsk :=
  let candidates := balancer.reclaimCandidates fields
  if !inputs.config.enabled then (fields, [])
  else if inputs.deficit ≤ 0 then (fields, [])
  else if candidates.isEmpty then (fields, [])
  else if inputs.movableAnon = 0 then (fields, [])
  else
    let asks := reclaimAsks inputs.deficit inputs.gain
      (balancer.readyApps fields inputs)
    (fun key =>
      let examined :=
        match candidates.find? (·.key = key) with
        | some candidate => (inputs.examine candidate (fields key)).1
        | none => fields key
      if asks.any (·.key = key) then
        { examined with reclaimInflight := true, lastReclaimAt := inputs.now }
      else examined,
    asks)

end Balancer

/-! ## The part meant for one app -/

/-- The ready apps hold memory and have a place in the limit order. -/
def Weighted (ready : List ReadyApp) : Prop :=
  ∀ app ∈ ready, 0 < app.current ∧ 0 < app.order

variable {app : ReadyApp} {ready : List ReadyApp} {deficit : Int} {gain : ℚ}
  {config : ReclaimConfig}

theorem ReadyApp.weight_pos (weighted : 0 < app.current ∧ 0 < app.order) :
    0 < app.weight := by
  have positive : 0 < app.current * app.order :=
    Int.mul_pos weighted.1 (by exact_mod_cast weighted.2)
  rw [ReadyApp.weight]
  exact_mod_cast positive

/-- An app weighs no more than all of them. -/
theorem weight_le_totalWeight (weighted : Weighted ready)
    (member : app ∈ ready) :
    app.weight ≤ totalWeight ready := by
  apply List.single_le_sum
  · intro weight listed
    obtain ⟨other, otherMember, rfl⟩ := List.mem_map.mp listed
    exact (ReadyApp.weight_pos (weighted other otherMember)).le
  · exact List.mem_map_of_mem member

theorem totalWeight_pos (weighted : Weighted ready) (member : app ∈ ready) :
    0 < totalWeight ready :=
  (ReadyApp.weight_pos (weighted app member)).trans_le
    (weight_le_totalWeight weighted member)

/-- An app's part of the budget. -/
def budgetShare (budget : Int) (ready : List ReadyApp) (app : ReadyApp) : ℚ :=
  budget * app.weight / totalWeight ready

theorem perCgroup_weight (distinct : (ready.map (·.key)).Nodup)
    (member : app ∈ ready) :
    perCgroup (ready.map fun app => (app.key, app.weight)) app.key =
      app.weight := by
  induction ready with
  | nil => cases member
  | cons first rest hypothesis =>
    rw [List.map_cons, List.nodup_cons] at distinct
    rw [List.map_cons, perCgroup, List.lookup_cons]
    rcases List.mem_cons.mp member with rfl | later
    · simp
    · have other : app.key ≠ first.key := fun same =>
        distinct.1 (same ▸ List.mem_map_of_mem later)
      rw [beq_false_of_ne other]
      exact hypothesis distinct.2 later

theorem reclaimAsks_eq (weighted : Weighted ready)
    (distinct : (ready.map (·.key)).Nodup)
    (budgeted : 0 < roundBudget deficit gain ready) :
    reclaimAsks deficit gain ready = ready.map fun app =>
      ⟨app.key, app.cgroup, Shares.whole
        (budgetShare (roundBudget deficit gain ready) ready app)⟩ := by
  simp only [reclaimAsks, if_neg (not_le.mpr budgeted)]
  refine (List.filterMap_congr fun app member => ?_).trans
    (congrFun List.filterMap_eq_map ready)
  have weights : (((ready.map (·.key)).map
      (perCgroup (ready.map fun app => (app.key, app.weight)))).sum) =
      totalWeight ready := by
    rw [List.map_map, totalWeight]
    exact congrArg List.sum (List.map_congr_left fun other otherMember =>
      perCgroup_weight distinct otherMember)
  have positive := totalWeight_pos weighted member
  have share : splitProportionally (some (roundBudget deficit gain ready))
      (ready.map (·.key))
      (perCgroup (ready.map fun app => (app.key, app.weight))) app.key =
      some (Shares.whole
        (budgetShare (roundBudget deficit gain ready) ready app)) := by
    simp only [splitProportionally, weights]
    rw [if_neg budgeted.ne', if_neg (not_le.mpr positive)]
    simp only [perCgroup_weight distinct member, max_one_pyInt, budgetShare]
  have positiveShare := Shares.one_le_whole
    (budgetShare (roundBudget deficit gain ready) ready app)
  simp only [share, Option.getD_some]
  rw [if_neg (by omega)]
  rfl

/-- The parts make up the budget. -/
theorem sum_budgetShare (budget : Int) (positive : 0 < totalWeight ready) :
    (ready.map (budgetShare budget ready)).sum = budget := by
  have scaled : ready.map (budgetShare budget ready) =
      ready.map fun app => budget / totalWeight ready * app.weight := by
    apply List.map_congr_left
    intro app _
    rw [budgetShare]
    ring
  rw [scaled, List.sum_map_mul_left, ← totalWeight,
    div_mul_cancel₀ _ positive.ne']

theorem sum_whole_le {budget : Int} (budgeted : 0 < budget)
    (weighted : Weighted ready) :
    (ready.map fun app => Shares.whole (budgetShare budget ready app)).sum ≤
      budget + ready.length := by
  cases ready with
  | nil => simpa using budgeted.le
  | cons first rest =>
    have positive := totalWeight_pos weighted (List.mem_cons_self ..)
    have nonneg : ∀ part ∈
        (first :: rest).map (budgetShare budget (first :: rest)),
        0 ≤ part := by
      intro part listed
      obtain ⟨app, member, rfl⟩ := List.mem_map.mp listed
      have weight := (ReadyApp.weight_pos (weighted app member)).le
      exact div_nonneg
        (mul_nonneg (by exact_mod_cast budgeted.le) weight) positive.le
    have bounded := Shares.sum_whole_le nonneg
    rw [sum_budgetShare budget positive, List.length_map,
      List.map_map] at bounded
    exact_mod_cast bounded

/-! ## Shares of an app's own usage -/

/-- What a round asks for stays within the configured share of each app's own
usage, one byte at least, and within the deficit but for one byte an app. -/
structure WithinShares (config : ReclaimConfig) (deficit : Int)
    (ready : List ReadyApp) (asks : List ReclaimAsk) : Prop where
  own : ∀ app ∈ ready, ∀ ask ∈ asks, ask.key = app.key →
    (ask.bytes : ℚ) ≤ max 1 (config.gainMax * app.current)
  total : (asks.map (·.bytes)).sum ≤ deficit + ready.length

/-- The order weights take nobody past the configured share: a byte count above
an app's own share is more than its weight's part of the deficit, or of what the
gain allows. -/
def OrderHarmless (config : ReclaimConfig) (deficit : Int) (gain : ℚ)
    (ready : List ReadyApp) : Prop :=
  ∀ app ∈ ready, ∀ bytes : Int, 2 ≤ bytes →
    config.gainMax * app.current < bytes →
    deficit * app.weight < bytes * totalWeight ready ∨
    pyInt (totalWeight ready * gain) * app.weight < bytes * totalWeight ready

/-- A byte count fits an app's part of the budget when it fits its parts of both
the deficit and the gain's allowance. -/
theorem le_budgetShare_iff (weighted : Weighted ready) (member : app ∈ ready)
    (bytes : Int) :
    (bytes : ℚ) ≤ budgetShare (roundBudget deficit gain ready) ready app ↔
      bytes * totalWeight ready ≤ deficit * app.weight ∧
      bytes * totalWeight ready ≤
        pyInt (totalWeight ready * gain) * app.weight := by
  have positive := totalWeight_pos weighted member
  have weight := (ReadyApp.weight_pos (weighted app member)).le
  rw [budgetShare, le_div_iff₀ positive, roundBudget, Int.cast_min,
    min_mul_of_nonneg _ _ weight, le_min_iff]

theorem orderHarmless_iff (weighted : Weighted ready) :
    OrderHarmless config deficit gain ready ↔ ∀ app ∈ ready, Shares.Fits
        (budgetShare (roundBudget deficit gain ready) ready app)
        (config.gainMax * app.current) := by
  apply forall₂_congr
  intro app member
  apply forall₂_congr
  intro bytes aboveMinimum
  rw [le_budgetShare_iff weighted member, ← not_le, ← not_le, ← not_le,
    ← not_and_or, not_imp_not]

/-- Without a budget nobody is asked, and the order weights do no harm. -/
theorem orderHarmless_of_no_budget (weighted : Weighted ready)
    (none_ : roundBudget deficit gain ready ≤ 0) :
    OrderHarmless config deficit gain ready := by
  rw [orderHarmless_iff weighted]
  intro app member bytes aboveMinimum fits
  have positive := totalWeight_pos weighted member
  have weight := (ReadyApp.weight_pos (weighted app member)).le
  have nonpos : budgetShare (roundBudget deficit gain ready) ready app ≤ 0 :=
    div_nonpos_of_nonpos_of_nonneg
      (mul_nonpos_of_nonpos_of_nonneg (by exact_mod_cast none_) weight)
      positive.le
  have above : (2 : ℚ) ≤ bytes := by exact_mod_cast aboveMinimum
  linarith

theorem withinShares_reclaimAsks_iff (missing : 0 < deficit)
    (weighted : Weighted ready) (distinct : (ready.map (·.key)).Nodup) :
    WithinShares config deficit ready (reclaimAsks deficit gain ready) ↔
      OrderHarmless config deficit gain ready := by
  by_cases budgeted : 0 < roundBudget deficit gain ready
  · rw [orderHarmless_iff weighted]
    have asks := reclaimAsks_eq weighted distinct budgeted
    constructor
    · intro within app member
      refine (Shares.whole_le_max_iff _ _).mp (within.own app member
        ⟨app.key, app.cgroup, _⟩ ?_ rfl)
      rw [asks]
      exact List.mem_map_of_mem member
    · intro fits
      constructor
      · intro app member ask listed same
        rw [asks] at listed
        obtain ⟨other, otherMember, rfl⟩ := List.mem_map.mp listed
        obtain rfl := List.inj_on_of_nodup_map distinct otherMember member same
        exact (Shares.whole_le_max_iff _ _).mpr (fits other member)
      · rw [asks, List.map_map]
        have capped : roundBudget deficit gain ready ≤ deficit := min_le_left _ _
        exact (sum_whole_le budgeted weighted).trans (by omega)
  · have none_ := not_lt.mp budgeted
    have asks : reclaimAsks deficit gain ready = [] := if_pos none_
    refine iff_of_true ⟨?_, ?_⟩ (orderHarmless_of_no_budget weighted none_)
    · simp [asks]
    · simp only [asks, List.map_nil, List.sum_nil]
      omega

namespace Balancer

variable
  (balancer : Balancer)
  (fields : CgroupId → ReclaimFields)
  (inputs : ReclaimInputs)

theorem examine_ready {candidate : ReclaimCandidate} {fields : ReclaimFields}
    {app : ReadyApp} (ready : (inputs.examine candidate fields).2 = some app) :
    app.key = candidate.key ∧ app.order = candidate.order ∧ 0 < app.current := by
  simp only [ReclaimInputs.examine] at ready
  split at ready
  · cases ready
  split at ready
  · cases ready
  split at ready
  · next passed =>
    obtain rfl := Option.some.inj ready
    simp only [Bool.and_eq_true, decide_eq_true_eq] at passed
    exact ⟨rfl, rfl, passed.2⟩
  · cases ready

/-- Places in the limit order start at one. -/
theorem order_pos {candidate : ReclaimCandidate}
    (member : candidate ∈ balancer.reclaimCandidates fields) :
    0 < candidate.order := by
  obtain ⟨item, _, rfl⟩ := List.mem_map.mp (List.mem_of_mem_filter member)
  exact Nat.succ_pos _

theorem weighted_readyApps : Weighted (balancer.readyApps fields inputs) := by
  intro app member
  obtain ⟨candidate, listed, ready⟩ := List.mem_filterMap.mp member
  obtain ⟨_, order, current⟩ := examine_ready inputs ready
  exact ⟨current, order ▸ balancer.order_pos fields listed⟩

theorem nodup_candidate_keys :
    ((balancer.reclaimCandidates fields).map (·.key)).Nodup := by
  have keys : ((balancer.allLimits.apps.entries.zipIdx.map fun item =>
      (⟨item.1.1, item.1.2, item.2 + 1⟩ : ReclaimCandidate)).map (·.key)) =
      balancer.allLimits.apps.entries.map Prod.fst := by
    rw [List.map_map]
    have firsts := congrArg (List.map Prod.fst)
      (List.zipIdx_map_fst 0 balancer.allLimits.apps.entries)
    rw [List.map_map] at firsts
    exact firsts
  have sublist : ((balancer.reclaimCandidates fields).map (·.key)).Sublist
      (balancer.allLimits.apps.entries.map Prod.fst) :=
    keys ▸ List.filter_sublist.map _
  exact sublist.nodup balancer.allLimits.apps.nodupKeys

/-- Picking at most one ready app for each candidate keeps the keys distinct. -/
theorem nodup_ready_keys :
    ((balancer.readyApps fields inputs).map (·.key)).Nodup := by
  have sublist : ∀ candidates : List ReclaimCandidate,
      ((candidates.filterMap fun candidate =>
        (inputs.examine candidate (fields candidate.key)).2).map
          (·.key)).Sublist (candidates.map (·.key)) := by
    intro candidates
    induction candidates with
    | nil => exact List.Sublist.slnil
    | cons candidate rest hypothesis =>
      cases ready : (inputs.examine candidate (fields candidate.key)).2 with
      | none =>
        simp only [List.filterMap_cons, ready, List.map_cons]
        exact hypothesis.cons _
      | some app =>
        simp only [List.filterMap_cons, ready, List.map_cons]
        rw [(examine_ready inputs ready).1]
        exact hypothesis.cons_cons _
  exact (sublist _).nodup (balancer.nodup_candidate_keys fields)

/-- An auto-limited app without a disk cap. -/
def reclaimableApp (cgroup : CgroupId) : LimitedApp where
  publicAppId := cgroup
  appName := cgroup
  source := .auto
  limitRates := ⟨none, none, none⟩
  limitParts := ⟨true, false⟩
  cgroups := [cgroup]

/-- Two apps were limited one after the other. -/
def limitedInOrder : Balancer :=
  initial.withApps ⟨[("older.scope", reclaimableApp "older.scope"),
      ("newer.scope", reclaimableApp "newer.scope")], by decide⟩

/-- Every app idles on 4 GB of anonymous memory, 20 GB are missing to the
target and the system is stalling. -/
def stallingSystem : ReclaimInputs where
  config := { enabled := true }
  growth := {}
  swap := .fresh
  snapshot := ⟨100 * gigabyte, 0, 50 * gigabyte, 0, 0⟩
  psiMemory := 1
  now := 1000
  readings := fun _ =>
    ⟨true, some 0, some ⟨4 * gigabyte, 0⟩, some ⟨4 * gigabyte, 0⟩,
      some (4 * gigabyte)⟩

end Balancer

end SmarTune
