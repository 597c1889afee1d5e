import SmarTune.Monitor.Selection
import SmarTune.Balancer.AutoBooks
import SmarTune.Balancer.History

/-!
# Exempted cgroups

The exclusion filter compares the ids of a sample, the limit arm caps the
cgroups its selection resolves them to.  A tick caps an excluded cgroup exactly
when the selection brings one in that the filter did not compare.
-/

namespace SmarTune

/-! ## The caps a channel can land -/

/-- A rate of at least one is not truncated to zero. -/
theorem one_le_pyInt {value : ℚ} (large : 1 ≤ value) :
    1 ≤ pyInt value :=
  (le_pyInt_iff le_rfl value).mpr (by exact_mod_cast large)

theorem clampRate_min_le (value : ℚ) (bounds : RateBounds) :
    bounds.min ≤ clampRate value bounds :=
  le_max_left _ _

theorem memRateBounds_min (priority : String) :
    1 / 100 ≤ (memRateBounds priority).min := by
  unfold memRateBounds
  split
  · decide +kernel
  · split <;> decide +kernel

theorem getLimitedRates_mem_pos {policy : Option LimitPolicy}
    {priority : String} {overrides : Option LimitOverrides} {rate : ℚ}
    (configured :
      (getLimitedRates policy priority overrides).mem = some rate) :
    1 / 100 ≤ rate := by
  cases policy with
  | none => simp [getLimitedRates, LimitRates.mem] at configured
  | some policy =>
    simp only [getLimitedRates, LimitRates.mem, Option.join_some,
      limitedRate] at configured
    split at configured
    · obtain ⟨value, _, rfl⟩ := Option.map_eq_some_iff.mp configured
      exact (memRateBounds_min priority).trans (clampRate_min_le _ _)
    · cases configured

/-- A CPU share that fits the machine. -/
def validQuota (quota : Option Int) : Bool :=
  quota.any fun quota => 1 ≤ quota && quota ≤ 100

/-- A memory share that can be written. -/
def validMemHigh (memHigh : Option Int) : Bool :=
  memHigh.any fun megabytes => 0 < megabytes

/-- A limiting call lands the properties of its own cgroup when one of the
values can be written. -/
theorem lands_adjustResources_iff {cgroup : CgroupId}
    {cpuQuota memHigh : Option Int} {outcome : AdjustOutcome} {cap : Cap} :
    Lands (adjustResources cgroup .critical cpuQuota memHigh outcome).2 cap ↔
      cap = .cpuMem cgroup ∧ outcome.setProperty = true ∧
        (validQuota cpuQuota || validMemHigh memHigh) = true := by
  have quota : (cpuQuota.filter fun quota => 1 ≤ quota ∧ quota ≤ 100).isSome =
      validQuota cpuQuota := by
    cases cpuQuota <;> simp [validQuota, Option.filter]
    split <;> simp_all
  have high : (memHigh.filter fun megabytes => 0 < megabytes).isSome =
      validMemHigh memHigh := by
    cases memHigh <;> simp [validMemHigh, Option.filter]
    split <;> simp_all
  rw [← quota, ← high]
  simp only [adjustResources, setResourceQuota]
  generalize (cpuQuota.filter fun quota => 1 ≤ quota ∧ quota ≤ 100) = share
  generalize (memHigh.filter fun megabytes => 0 < megabytes) = bound
  cases share <;> cases bound <;> cases outcome.setProperty <;>
    simp [Lands, KernelWrite.Installs, QuotaCap.unlimited]


theorem validMemHigh_distribute {budget : Int} (positive : 1 ≤ budget)
    (cgroups : List CgroupId) (usage : List (CgroupId × ℚ))
    (cgroup : CgroupId) :
    validMemHigh (distribute (some budget) cgroups usage cgroup) = true := by
  unfold distribute splitProportionally
  split
  · simp only [validMemHigh, Option.any_some, decide_eq_true_eq]
    omega
  · simp only [show budget ≠ 0 by omega, if_false]
    split <;> simp [validMemHigh]

theorem truthy_of_autoMemHighMb {cgroups : List CgroupId}
    {perCgroupMemRss : List (CgroupId × ℚ)} {outcomes : Balancer.ApplyOutcomes}
    {rate : Option ℚ}
    (budgeted :
      (Balancer.autoMemHighMb cgroups perCgroupMemRss outcomes rate).isSome =
        true) :
    truthy rate = true := by
  unfold Balancer.autoMemHighMb at budgeted
  split at budgeted
  · cases budgeted
  · split at budgeted
    · cases budgeted
    · next nonzero => simpa [truthy] using nonzero

/-- On a large machine a memory rate of the policy gives a positive budget. -/
theorem autoMemHighMb_accepting {rate : ℚ} (positive : 1 / 100 ≤ rate)
    (cgroups : List CgroupId) (perCgroupMemRss : List (CgroupId × ℚ))
    (disks : List (DiskName × DeviceId)) (now : ℚ) :
    ∃ budget, 1 ≤ budget ∧
      Balancer.autoMemHighMb cgroups perCgroupMemRss (.accepting disks now)
        (some rate) = some budget := by
  have share : 1 ≤ pyInt (((16000 : Int) : ℚ) * rate) := by
    apply one_le_pyInt
    have scaled : ((16000 : Int) : ℚ) * (1 / 100) ≤ ((16000 : Int) : ℚ) * rate :=
      Rat.mul_le_mul_of_nonneg_left positive (by decide)
    exact le_trans (by decide +kernel) scaled
  have nonzero : rate ≠ 0 := by
    rintro rfl
    exact absurd positive (by decide +kernel)
  simp only [Balancer.autoMemHighMb, nonzero, if_false]
  split
  · exact ⟨_, share, rfl⟩
  · exact ⟨_, le_min share (le_max_left _ _), rfl⟩

theorem distribute_isSome {budget : Option Int} {cgroups : List CgroupId}
    {usage : List (CgroupId × ℚ)} {cgroup : CgroupId}
    (given : (distribute budget cgroups usage cgroup).isSome = true) :
    budget.isSome = true := by
  cases budget with
  | some _ => rfl
  | none =>
    unfold distribute splitProportionally at given
    split at given <;> cases given

theorem throttle_sda_accepting {limits : IoLimits}
    (line : diskLimits limits ("sda", "8:0") ≠ .unlimited) (cgroup : CgroupId) :
    KernelWrite.ioMax cgroup "sda" (diskLimits limits ("sda", "8:0")) ∈
      (setDiskIoThrottle cgroup limits ["sda"] false
        (.accepting [("sda", "8:0")])).2 := by
  have listing : getDiskId ["sda"] (.accepting [("sda", "8:0")]) =
      [("sda", "8:0")] := by decide
  have round : throttleDisk cgroup limits false (.accepting [("sda", "8:0")])
      ("sda", "8:0") =
      (true, [.ioMax cgroup "sda" (diskLimits limits ("sda", "8:0"))]) := by
    simp [throttleDisk, line, IoCallOutcome.accepting,
      DiskWriteOutcome.accepted]
  rw [setDiskIoThrottle, listing]
  simp only [List.map_cons, List.map_nil, round]
  simp [IoCallOutcome.accepting]

theorem lands_fanOut_iff {call : Nat → CgroupId → ControllerCall}
    {cgroups : List CgroupId} {cap : Cap} :
    Lands (fanOut call cgroups).2 cap ↔
      ∃ position cgroup, cgroups[position]? = some cgroup ∧
        Lands (call position cgroup).2 cap := by
  simp only [Lands, mem_fanOut_writes]
  constructor
  · rintro ⟨write, ⟨position, cgroup, located, member⟩, installs⟩
    exact ⟨position, cgroup, located, write, member, installs⟩
  · rintro ⟨position, cgroup, located, write, member, installs⟩
    exact ⟨write, ⟨position, cgroup, located, member⟩, installs⟩

namespace Balancer

def givesCap (target : Candidate) (appId : CgroupId) (limitRates : LimitRates)
    (cgroup : CgroupId) : Channel → Bool
  | .sys =>
    truthy limitRates.mem || validQuota (distribute (autoCpuQuota limitRates)
        (appId :: target.extraCgroups) target.perCgroupCpu cgroup)
  | .diskIo => limitRates.diskIo.isSome

section Lands

variable {isRunning : Bool} {target : Candidate} {appId : CgroupId}
  {limitRates : LimitRates} {outcomes : ApplyOutcomes} {cap : Cap}

/-- What the sys channel lands needs something to write. -/
theorem givesCap_of_lands_applyCpuMem
    (lands : Lands
      (applyCpuMem isRunning target appId limitRates outcomes).2 cap) :
    isRunning = true ∧ ∃ cgroup ∈ appId :: target.extraCgroups,
      cap = .cpuMem cgroup ∧
      givesCap target appId limitRates cgroup .sys = true := by
  simp only [applyCpuMem] at lands
  split at lands
  · next guard =>
    simp only [Bool.and_eq_true] at guard
    obtain ⟨position, cgroup, located, landed⟩ := lands_fanOut_iff.mp lands
    obtain ⟨rfl, _, shares⟩ := lands_adjustResources_iff.mp landed
    refine ⟨guard.2, cgroup, List.mem_of_getElem? located, rfl, ?_⟩
    simp only [givesCap, Bool.or_eq_true] at shares ⊢
    rcases shares with quota | high
    · exact Or.inr quota
    · have budgeted : (autoMemHighMb (appId :: target.extraCgroups)
          target.perCgroupMemRss outcomes limitRates.mem).isSome = true :=
        distribute_isSome (Option.isSome_of_any high)
      exact Or.inl (truthy_of_autoMemHighMb budgeted)
  · exact absurd lands (not_lands_nil cap)

/-- Where every write is accepted, a share that can be written lands. -/
theorem exists_lands_applyCpuMem {cgroup : CgroupId}
    (ofPolicy : ∀ rate, limitRates.mem = some rate → 1 / 100 ≤ rate)
    (listed : cgroup ∈ appId :: target.extraCgroups)
    (gives : givesCap target appId limitRates cgroup .sys = true) :
    Lands (applyCpuMem true target appId limitRates (.accepting [] 0)).2
      (.cpuMem cgroup) := by
  obtain ⟨position, located⟩ := List.mem_iff_getElem?.mp listed
  have shares : (validQuota (distribute (autoCpuQuota limitRates)
        (appId :: target.extraCgroups) target.perCgroupCpu cgroup) ||
      validMemHigh (distribute (autoMemHighMb (appId :: target.extraCgroups)
        target.perCgroupMemRss (.accepting [] 0) limitRates.mem)
        (appId :: target.extraCgroups) target.perCgroupMemRss cgroup)) =
      true := by
    simp only [givesCap, Bool.or_eq_true] at gives ⊢
    rcases gives with memory | quota
    · right
      cases rated : limitRates.mem with
      | none => simp [rated, truthy] at memory
      | some rate =>
        obtain ⟨budget, positive, budgeted⟩ := autoMemHighMb_accepting
          (ofPolicy rate rated) (appId :: target.extraCgroups)
          target.perCgroupMemRss [] 0
        rw [budgeted]
        exact validMemHigh_distribute positive _ _ _
    · exact Or.inl quota
  have attempted : ((autoCpuQuota limitRates).isSome ||
      (autoMemHighMb (appId :: target.extraCgroups) target.perCgroupMemRss
        (.accepting [] 0) limitRates.mem).isSome) = true := by
    rw [Bool.or_eq_true] at shares ⊢
    exact shares.imp
      (fun quota => distribute_isSome (Option.isSome_of_any quota))
      (fun high => distribute_isSome (Option.isSome_of_any high))
  simp only [applyCpuMem, attempted, Bool.and_self, if_true]
  exact lands_fanOut_iff.mpr ⟨position, cgroup, located,
    lands_adjustResources_iff.mpr ⟨rfl, rfl, shares⟩⟩

theorem givesCap_of_lands_applyDiskIo
    (lands : Lands
      (applyDiskIo isRunning target appId limitRates outcomes).2 cap) :
    isRunning = true ∧ ∃ cgroup ∈ appId :: target.extraCgroups,
      cap.cgroup = cgroup ∧
      givesCap target appId limitRates cgroup .diskIo = true := by
  have listed := (lands_applyDiskIo lands).2
  obtain ⟨write, member, _⟩ := lands
  unfold applyDiskIo at member
  split at member
  · next rate given =>
    split at member
    · next running =>
      exact ⟨running, cap.cgroup, listed, rfl, by simp [givesCap, given]⟩
    · simp at member
  · simp at member

theorem exists_lands_applyDiskIo {cgroup : CgroupId}
    (listed : cgroup ∈ appId :: target.extraCgroups)
    (gives : givesCap target appId limitRates cgroup .diskIo = true) :
    Lands (applyDiskIo true target appId limitRates
      (.accepting [("sda", "8:0")] 0)).2 (.io cgroup "sda") := by
  obtain ⟨rate, given⟩ := Option.isSome_iff_exists.mp gives
  obtain ⟨position, located⟩ := List.mem_iff_getElem?.mp listed
  simp only [applyDiskIo, given, if_true]
  refine lands_fanOut_iff.mpr ⟨position, cgroup, located, ?_⟩
  have line : diskLimits (scaledIoLimits rate (fun _ => 1) ["sda"]
      (.accepting [("sda", "8:0")])) ("sda", "8:0") ≠ .unlimited := by
    rw [diskLimits, Ne, DiskLimits.update_eq_unlimited_iff,
      DiskLimits.update_eq_unlimited_iff]
    simp [scaledIoLimits, scaledField, IoRate.bytes, DiskLimits.unlimited]
  exact ⟨_, throttle_sda_accepting line cgroup, rfl, line⟩
end Lands

section Apply

variable {balancer : Balancer} {target : Candidate} {appId : CgroupId}
  {limitRates : LimitRates} {isControlled isDiskIoStressed : Bool}
  {pressureLevel : String} {outcomes : ApplyOutcomes} {cap : Cap}

theorem givesCap_of_lands_applyChannel {isRunning : Bool} {channel : Channel}
    (lands : Lands (applyChannel isRunning target appId limitRates
      (channel = .diskIo) outcomes).2 cap) :
    isRunning = true ∧ cap.cgroup ∈ appId :: target.extraCgroups ∧
      givesCap target appId limitRates cap.cgroup channel = true := by
  cases channel with
  | sys =>
    have landed : Lands (applyCpuMem isRunning target appId limitRates
      outcomes).2 cap := lands
    obtain ⟨running, cgroup, listed, rfl, gives⟩ :=
      givesCap_of_lands_applyCpuMem landed
    exact ⟨running, listed, gives⟩
  | diskIo =>
    obtain ⟨running, cgroup, listed, rfl, gives⟩ :=
      givesCap_of_lands_applyDiskIo lands
    exact ⟨running, listed, gives⟩

/-- A cgroup that is given a cap gets one where the writes are accepted. -/
theorem exists_lands_applyChannel {channel : Channel} {cgroup : CgroupId}
    (ofPolicy : ∀ rate, limitRates.mem = some rate → 1 / 100 ≤ rate)
    (listed : cgroup ∈ appId :: target.extraCgroups)
    (gives : givesCap target appId limitRates cgroup channel = true) :
    ∃ outcomes cap, cap.cgroup = cgroup ∧
      Lands (applyChannel true target appId limitRates (channel = .diskIo)
        outcomes).2 cap := by
  cases channel with
  | sys => exact ⟨_, _, rfl, exists_lands_applyCpuMem ofPolicy listed gives⟩
  | diskIo => exact ⟨_, _, rfl, exists_lands_applyDiskIo listed gives⟩

end Apply

end Balancer

/-! ## What the filter compares -/

/-- The ids of a sample that the exclusion filter compares. -/
def Candidate.comparedIds (candidate : Candidate) : List String :=
  (candidate.recordId.getD "" ::
    (candidate.extraCgroups ++ [candidate.sampledCgroup])).filter (· ≠ "")

/-- An exclusion lists the cgroup. -/
def LimitRegistry.Excludes (registry : LimitRegistry) (cgroup : CgroupId) :
    Prop :=
  ∃ exclusion ∈ registry.autoLimitExclusions.values, cgroup ∈ exclusion.cgroups

instance (registry : LimitRegistry) : DecidablePred registry.Excludes :=
  fun cgroup => inferInstanceAs
    (Decidable (∃ exclusion ∈ registry.autoLimitExclusions.values,
      cgroup ∈ exclusion.cgroups))

theorem not_excludes_of_isExcluded_none {registry : LimitRegistry}
    {appId appName : String} {cgroups : List CgroupId}
    (free : registry.isExcluded appId appName cgroups = none) {ident : String}
    (compared : ident ∈ (appId :: cgroups).filter (· ≠ "")) :
    ¬ registry.Excludes ident := by
  rintro ⟨exclusion, member, listed⟩
  have unmatched := List.find?_eq_none.mp free exclusion member
  simp only [Bool.or_eq_true, not_or] at unmatched
  refine unmatched.1 (List.any_eq_true.mpr ⟨ident, compared, ?_⟩)
  simp [listed]

/-- No exclusion lists a compared id of a candidate the filter keeps. -/
theorem not_excludes_of_kept {registry : LimitRegistry} {apps : List Candidate}
    {candidate : Candidate}
    (kept : candidate ∈ dropExcludedCandidates registry apps) {ident : String}
    (compared : ident ∈ candidate.comparedIds) :
    ¬ registry.Excludes ident := by
  have free := (List.mem_filter.mp kept).2
  exact not_excludes_of_isExcluded_none (Option.isNone_iff_eq_none.mp free)
    compared

/-! ## What a selection caps -/

/-- The cgroups a selection caps, the primary one first. -/
def Selection.cgroups (selection : Selection) : List CgroupId :=
  selection.appId :: selection.targetApp.extraCgroups

theorem selectTarget_eq_some {view : SelectionView} {registry : LimitRegistry}
    {state : MonitorLoopState} {channel : Channel} {selection : Selection}
    (selected : selectTarget view registry state channel = some selection) :
    ∃ candidate, state.topConsumeApps[selection.index]? = some candidate ∧
      selection = view.select channel candidate selection.index := by
  cases channel with
  | sys =>
    simp only [selectTarget, handleCriticalPressure] at selected
    split at selected
    · cases selected
    next candidate rest batch =>
    split at selected
    · cases selected
    split at selected
    · cases selected
    obtain rfl := Option.some.inj selected
    exact ⟨candidate, by rw [batch]; rfl, rfl⟩
  | diskIo =>
    simp only [selectTarget, handleDiskIoStressed] at selected
    split at selected
    · cases selected
    obtain ⟨⟨candidate, index⟩, found, rfl⟩ :=
      Option.map_eq_some_iff.mp selected
    have member := List.mem_of_find?_eq_some found
    exact ⟨candidate, List.mem_zipIdx_iff_getElem?.mp member, rfl⟩

/-- The least of a list is one of its members. -/
theorem foldl_min_mem (first : String) (rest : List String) :
    rest.foldl min first ∈ first :: rest := by
  induction rest generalizing first with
  | nil => simp
  | cons head tail ih =>
    have member := ih (min first head)
    rw [List.foldl_cons]
    rcases List.mem_cons.mp member with least | later
    · rw [least]
      rcases min_choice first head with least | least <;> simp [least]
    · exact List.mem_cons_of_mem _ (List.mem_cons_of_mem _ later)

/-! ## The caps of a tick -/

def PolicyTick.channel (tick : PolicyTick) : Channel :=
  if tick.pressure = .critical then .sys else .diskIo

/-- The loop state a tick selects its target from. -/
def selectionState (state : MonitorLoopState) (balancer : Balancer)
    (tick : PolicyTick) : MonitorLoopState :=
  limitBatch { state with restorePending := false } balancer.allLimits tick
    tick.channel

/-- A tick that acts on the selection of its own limit arm. -/
def PolicyTick.selecting (tick : PolicyTick) (view : SelectionView)
    (state : MonitorLoopState) (balancer : Balancer)
    (outcomes : Balancer.ApplyOutcomes) : PolicyTick :=
  { tick with
    decision :=
      match selectTarget view balancer.allLimits
          (selectionState state balancer tick) tick.channel with
      | some selection =>
        { shouldAdjust := true
          isControlled := selection.isControlled
          appId := some selection.appId
          limitRates := selection.limitRates
          target := some selection.targetApp
          consumedIdx := some selection.index
          stillPresent := tick.decision.stillPresent
          outcomes }
      | none =>
        { shouldAdjust := false
          isControlled := false
          appId := none
          limitRates := ⟨none, none, none⟩
          target := none
          consumedIdx := none
          stillPresent := tick.decision.stillPresent
          outcomes } }

/-- The caps the limit arm of a tick writes. -/
def limitWrites (state : MonitorLoopState) (balancer : Balancer)
    (tick : PolicyTick) : List KernelWrite :=
  let state := selectionState state balancer tick
  if tick.limitRaises || state.topConsumeApps.isEmpty then []
  else
    match limitTarget state balancer tick tick.channel with
    | some (appId, target) =>
      balancer.applyWrites target appId tick.decision.limitRates
        (tick.channel = .diskIo) tick.decision.outcomes
    | none => []

theorem tickLimit_balancer (state : MonitorLoopState) (balancer : Balancer)
    (tick : PolicyTick) :
    ∃ level, (tickLimit state balancer tick).balancer =
      if tick.limitRaises ||
          (selectionState state balancer tick).topConsumeApps.isEmpty then
        balancer
      else
        match limitTarget (selectionState state balancer tick) balancer tick
            tick.channel with
        | some (appId, target) =>
          balancer.applyResourceLimits target appId tick.decision.limitRates
            tick.decision.isControlled (tick.channel = .diskIo) level
            tick.decision.outcomes
        | none => balancer := by
  refine ⟨match tick.channel with
    | .sys => tick.pressure.name
    | .diskIo => tick.diskLevel.name, ?_⟩
  unfold tickLimit selectionState PolicyTick.channel
  generalize (if tick.pressure = .critical then Channel.sys
    else Channel.diskIo) = channel
  simp only
  cases tick.limitRaises with
  | true => rfl
  | false =>
    simp only [Bool.false_eq_true, if_false, Bool.false_or]
    split
    · rfl
    · rfl

/-- The conditions of a limit arm on what it selected. -/
def settlesOn (state : MonitorLoopState) (balancer : Balancer)
    (tick : PolicyTick) (selection : Selection) : Bool :=
  (match tick.channel with
    | .sys => !targetHasAutoCpuMemLimit balancer.allLimits selection.targetApp
        selection.appId
    | .diskIo => tick.diskLevel = .critical) &&
  (selectionState state balancer tick).reachThreshold &&
  tick.decision.stillPresent && selection.appId ≠ ""

/-- The tick goes on to cap what it selected. -/
def capsSelection (state : MonitorLoopState) (balancer : Balancer)
    (tick : PolicyTick) (selection : Selection) : Bool :=
  !tick.limitRaises && settlesOn state balancer tick selection &&
  !balancer.manualLimited selection.targetApp selection.appId

section Tick

variable {state : MonitorLoopState} {balancer : Balancer} {tick : PolicyTick}
  {view : SelectionView} {outcomes : Balancer.ApplyOutcomes}
  {selection : Selection}

@[simp] theorem selectionState_selecting :
    selectionState state balancer
      (tick.selecting view state balancer outcomes) =
      selectionState state balancer tick := rfl

@[simp] theorem channel_selecting :
    (tick.selecting view state balancer outcomes).channel = tick.channel := rfl

@[simp] theorem limitRaises_selecting :
    (tick.selecting view state balancer outcomes).limitRaises =
      tick.limitRaises := rfl

theorem limitWrites_of_unselected
    (unselected : selectTarget view balancer.allLimits
      (selectionState state balancer tick) tick.channel = none) :
    limitWrites state balancer (tick.selecting view state balancer outcomes) =
      [] := by
  have untargeted : limitTarget (selectionState state balancer tick) balancer
      (tick.selecting view state balancer outcomes) tick.channel = none := by
    simp only [limitTarget, PolicyTick.selecting, unselected]
  simp only [limitWrites, selectionState_selecting, channel_selecting,
    untargeted, ite_self]

/-- The tick settles on what it selected unless a condition of the arm is
missed. -/
theorem limitTarget_of_selected
    (selected : selectTarget view balancer.allLimits
      (selectionState state balancer tick) tick.channel = some selection) :
    limitTarget (selectionState state balancer tick) balancer
      (tick.selecting view state balancer outcomes) tick.channel =
      if settlesOn state balancer tick selection then
        some (selection.appId, selection.targetApp)
      else none := by
  simp only [limitTarget, settlesOn, PolicyTick.selecting, selected,
    Bool.and_true]
  rfl

theorem held_of_selected
    (selected : selectTarget view balancer.allLimits
      (selectionState state balancer tick) tick.channel = some selection) :
    (selectionState state balancer tick).topConsumeApps.isEmpty = false := by
  obtain ⟨candidate, located, _⟩ := selectTarget_eq_some selected
  cases batch : (selectionState state balancer tick).topConsumeApps with
  | nil => rw [batch] at located; cases located
  | cons => rfl

theorem decision_selecting
    (selected : selectTarget view balancer.allLimits
      (selectionState state balancer tick) tick.channel = some selection) :
    (tick.selecting view state balancer outcomes).decision =
      { shouldAdjust := true
        isControlled := selection.isControlled
        appId := some selection.appId
        limitRates := selection.limitRates
        target := some selection.targetApp
        consumedIdx := some selection.index
        stillPresent := tick.decision.stillPresent
        outcomes } := by
  simp only [PolicyTick.selecting, selected]

theorem limitWrites_of_selected
    (selected : selectTarget view balancer.allLimits
      (selectionState state balancer tick) tick.channel = some selection) :
    limitWrites state balancer (tick.selecting view state balancer outcomes) =
      if capsSelection state balancer tick selection then
        (Balancer.applyChannel balancer.isRunning selection.targetApp
          selection.appId selection.limitRates (tick.channel = .diskIo)
          outcomes).2
      else [] := by
  simp only [limitWrites, selectionState_selecting, channel_selecting,
    limitRaises_selecting, held_of_selected selected, Bool.or_false,
    limitTarget_of_selected selected, decision_selecting selected,
    capsSelection]
  rcases Bool.eq_false_or_eq_true tick.limitRaises with raises | raises
  · simp [raises]
  rcases Bool.eq_false_or_eq_true (settlesOn state balancer tick selection)
    with settles | settles
  · rcases Bool.eq_false_or_eq_true
      (balancer.manualLimited selection.targetApp selection.appId)
      with manual | manual
    · simp [raises, settles, manual, Balancer.applyWrites]
    · simp only [raises, settles, manual, Balancer.applyWrites,
        Bool.false_eq_true, if_false, if_true, Bool.not_false, Bool.and_self]
      rfl
  · simp [settles]

end Tick

/-! ## Which ticks spare the excluded cgroups -/

/-- Whatever the environment answers, the tick caps no excluded cgroup. -/
def SparesExcluded (state : MonitorLoopState) (balancer : Balancer)
    (tick : PolicyTick) (view : SelectionView) : Prop :=
  ∀ outcomes cap, Lands (limitWrites state balancer
      (tick.selecting view state balancer outcomes)) cap →
    ¬ balancer.allLimits.Excludes cap.cgroup

/-- A target that the tick caps brings in no excluded cgroup: none among the
ones that get a cap without the filter having compared them. -/
def ResolvesClear (state : MonitorLoopState) (balancer : Balancer)
    (tick : PolicyTick) (view : SelectionView) : Prop :=
  ∀ selection candidate,
    selectTarget view balancer.allLimits (selectionState state balancer tick)
      tick.channel = some selection →
    (selectionState state balancer tick).topConsumeApps[selection.index]? =
      some candidate →
    capsSelection state balancer tick selection = true →
    balancer.isRunning = true →
    ∀ cgroup ∈ selection.cgroups, cgroup ∉ candidate.comparedIds →
      Balancer.givesCap selection.targetApp selection.appId
        selection.limitRates cgroup tick.channel = true →
      ¬ balancer.allLimits.Excludes cgroup

/-- The batch of a limit arm has passed the exclusion filter. -/
theorem mem_selectionState {state : MonitorLoopState} {balancer : Balancer}
    {tick : PolicyTick} {candidate : Candidate}
    (member : candidate ∈ (selectionState state balancer tick).topConsumeApps) :
    ∃ apps, candidate ∈ dropExcludedCandidates balancer.allLimits apps :=
  ⟨_, member⟩

/-- The user has hand-restored what ran in `b.scope`. -/
def scopeExcluded : Balancer :=
  { Balancer.initial with
    allLimits := LimitRegistry.empty.addExclusion
      { publicAppId := "b.scope"
        appName := "stress"
        source := .auto
        limitRates := ⟨none, none, none⟩
        limitParts := .none
        cgroups := ["b.scope"] } .userRestore 1 }

/-- A controlled app is sampled in `a.scope` and spans `b.scope` as well. -/
def spanningView : SelectionView where
  controlledApps := [⟨"app", "app", some "low", []⟩]
  usage := fun _ => { cgroupPaths := ["/user/a.scope", "/user/b.scope"] }
  policy := some ⟨⟨true, fun _ => some (1 / 2)⟩, ⟨false, fun _ => none⟩,
    ⟨false, fun _ => none⟩⟩

/-- Pressure is critical and the app in `a.scope` is the top consumer. -/
def criticalTick : PolicyTick where
  now := 2
  pressure := .critical
  diskLevel := .low
  passiveEnabled := true
  launchPending := false
  resolvedApps :=
    [{ recordId := some "app"
       processName := some "app"
       cgroup := some "/user/a.scope" }]
  resolvedThreshold := true
  prefetchStale := false
  decision := ⟨false, false, none, ⟨none, none, none⟩, none, none, true,
    .accepting [] 2⟩
  limitRaises := false
  scanDisturbed := false
  restoreStep := fun _ => ⟨⟨16000, fun _ => 1, .accepting [],
    fun _ => .accepting, fun _ => .accepting []⟩, none, false⟩

end SmarTune
