import SmarTune.Library.Runs
import SmarTune.Controller.Swap

/-!
# Growth after a release

Runs of samples, growth and idle shrink under a constant memory demand: pages
move only when a file is switched off, back into memory.  A release is followed
by growth when what it leaves is, for one of the arms of `plan_growth`, too
little.
-/

namespace SmarTune

/-! ## The plan -/

namespace GrowthConfig

variable (config : GrowthConfig) (snapshot : MemorySnapshot) (eta : Option ℚ)
  (disk : DiskSpace)

/-- The three arms of `plan_growth`. -/
theorem trigger_isOk_iff :
    (config.trigger snapshot eta).isOk = true ↔
      config.swapExhausted snapshot = true ∨
      config.swapDraining snapshot eta = true ∨
      (config.memoryHigh snapshot = true ∧
        config.swapRoomy snapshot = false) := by
  unfold trigger
  cases config.swapExhausted snapshot <;>
    cases config.swapDraining snapshot eta <;>
    cases config.memoryHigh snapshot <;>
    cases config.swapRoomy snapshot <;>
    simp [Except.isOk, Except.toBool]

/-- `plan_growth` grows when it may and one of its arms asks for it. -/
theorem decideGrowth_isOk_iff :
    (config.decideGrowth snapshot eta disk).isOk = true ↔
      config.enabled = true ∧ snapshot.memTotal ≠ 0 ∧
      (config.trigger snapshot eta).isOk = true ∧
      config.supportsFs disk.fstype = true ∧
      0 < config.growBytes snapshot disk := by
  rw [← not_le]
  unfold decideGrowth
  cases config.enabled with
  | false => simp [Except.isOk, Except.toBool]
  | true =>
    by_cases unreadable : snapshot.memTotal = 0
    · simp [unreadable, Except.isOk, Except.toBool]
    · cases config.trigger snapshot eta with
      | error reason => simp [unreadable, Except.isOk, Except.toBool]
      | ok arm =>
        cases config.supportsFs disk.fstype <;>
          by_cases full : config.growBytes snapshot disk ≤ 0 <;>
          simp [unreadable, full, Except.isOk, Except.toBool]

end GrowthConfig

/-! ## The samples a plan judges on -/

namespace SwapController

variable {controller : SwapController} {config : GrowthConfig} {now : ℚ}
  {snapshot : MemorySnapshot} {field : MemorySnapshot → Nat}
  {samples : List (ℚ × MemorySnapshot)}

theorem min?_eq_lowest :
    ((snapshot :: samples.map Prod.snd).map field).min? =
      some (lowest field snapshot samples) := by
  rw [List.map_cons, List.min?_cons', List.map_map]
  rfl

theorem exists_eq_lowest (field : MemorySnapshot → Nat)
    (snapshot : MemorySnapshot) (samples : List (ℚ × MemorySnapshot)) :
    ∃ seen ∈ snapshot :: samples.map Prod.snd,
      field seen = lowest field snapshot samples :=
  List.mem_map.mp (List.min?_eq_some_iff.mp min?_eq_lowest).1

theorem lowest_le {seen : MemorySnapshot}
    (member : seen ∈ snapshot :: samples.map Prod.snd) :
    lowest field snapshot samples ≤ field seen :=
  (List.min?_eq_some_iff.mp min?_eq_lowest).2 _ (List.mem_map_of_mem member)

/-- The samples that count for the watermarks. -/
def seen (controller : SwapController) (config : GrowthConfig) (now : ℚ)
    (snapshot : MemorySnapshot) : List MemorySnapshot :=
  snapshot :: (controller.recent config now).map Prod.snd

/-- The samples that count for the slope, once this one is taken. -/
def spanned (controller : SwapController)
    (snapshot : MemorySnapshot) : List MemorySnapshot :=
  snapshot :: controller.window.map Prod.snd

/-- As time passes fewer samples count. -/
theorem seen_subset_of_le {later : ℚ} (after : now ≤ later) :
    controller.seen config later snapshot ⊆
      controller.seen config now snapshot := by
  apply List.cons_subset_cons
  apply List.map_subset
  intro entry member
  obtain ⟨kept, recent⟩ := List.mem_filter.mp member
  refine List.mem_filter.mpr ⟨kept, ?_⟩
  simp only [decide_eq_true_eq] at recent ⊢
  linarith

theorem mem_window_sample {entry : ℚ × MemorySnapshot}
    (member : entry ∈ (controller.sample config now snapshot).window) :
    entry ∈ controller.window ∨ entry = (now, snapshot) := by
  unfold sample at member
  split at member
  · exact Or.inl member
  · have kept := (List.dropWhile_suffix _).subset member
    rcases List.mem_append.mp kept with old | new
    · exact Or.inl old
    · exact Or.inr (List.mem_singleton.mp new)

theorem seen_sample_subset :
    (controller.sample config now snapshot).seen config now snapshot ⊆
      controller.seen config now snapshot := by
  intro other member
  rcases List.mem_cons.mp member with rfl | earlier
  · exact List.mem_cons_self
  · obtain ⟨entry, recent, rfl⟩ := List.mem_map.mp earlier
    obtain ⟨kept, late⟩ := List.mem_filter.mp recent
    rcases mem_window_sample kept with old | rfl
    · exact List.mem_cons_of_mem _
        (List.mem_map_of_mem (List.mem_filter.mpr ⟨old, late⟩))
    · exact List.mem_cons_self

theorem spanned_sample_subset :
    (controller.sample config now snapshot).spanned snapshot ⊆
      controller.spanned snapshot := by
  intro other member
  rcases List.mem_cons.mp member with rfl | earlier
  · exact List.mem_cons_self
  · obtain ⟨entry, kept, rfl⟩ := List.mem_map.mp earlier
    rcases mem_window_sample kept with old | rfl
    · exact List.mem_cons_of_mem _ (List.mem_map_of_mem old)
    · exact List.mem_cons_self

end SwapController

/-! ## Settled states -/

/-- What a release leaves is enough for `plan_growth`, now and while nothing
changes. -/
inductive Settled (config : GrowthConfig) (disk : DiskSpace)
    (snapshot : MemorySnapshot) (seen spanned : List MemorySnapshot) : Prop
  /-- Growth is off, or there is no room for it. -/
  | blocked (cannot : ¬ (config.enabled = true ∧ snapshot.memTotal ≠ 0 ∧
        config.supportsFs disk.fstype = true ∧
        0 < config.growBytes snapshot disk))
  /-- Swap is not critically low and memory below its watermark. -/
  | relaxed (enough : ∀ other ∈ seen, config.swapExhausted
        { snapshot with swapFree := other.swapFree } = false)
      (low : ∀ other ∈ seen, config.memoryHigh
        { snapshot with memAvailable := other.memAvailable } = false)
  /-- Swap is roomy, and the free swap of the window hardly varies. -/
  | roomy (enough : ∀ other ∈ seen, config.swapExhausted
        { snapshot with swapFree := other.swapFree } = false)
      (ample : ∀ other ∈ seen, config.swapRoomy
        { snapshot with swapFree := other.swapFree } = true)
      (steady : ∀ high ∈ spanned, ∀ low ∈ spanned,
        growLeadSec * ((high.swapFree : ℚ) - low.swapFree) <
          minSlopeSpanSec * low.swapFree)

namespace Settled

variable {config : GrowthConfig} {disk : DiskSpace}
  {snapshot : MemorySnapshot} {seen seen' spanned spanned' :
    List MemorySnapshot}

theorem mono (settled : Settled config disk snapshot seen spanned)
    (fewer : seen' ⊆ seen) (shorter : spanned' ⊆ spanned) :
    Settled config disk snapshot seen' spanned' := by
  cases settled with
  | blocked cannot => exact .blocked cannot
  | relaxed enough low =>
    exact .relaxed (fun other member => enough other (fewer member))
      fun other member => low other (fewer member)
  | roomy enough ample steady =>
    exact .roomy (fun other member => enough other (fewer member))
      (fun other member => ample other (fewer member))
      fun high first low second =>
        steady high (shorter first) low (shorter second)

end Settled

namespace SwapController

variable {controller : SwapController} {config : GrowthConfig} {now : ℚ}
  {snapshot : MemorySnapshot} {disk : DiskSpace}

theorem mem_of_windowSpan {span : ℚ} {first last : MemorySnapshot}
    (spans : controller.windowSpan = some (span, first, last)) :
    first ∈ controller.window.map Prod.snd ∧
      last ∈ controller.window.map Prod.snd := by
  unfold windowSpan at spans
  split at spans
  · next oldest newest atHead atLast =>
    split at spans
    · cases spans
    · simp only [Option.some.injEq, Prod.mk.injEq] at spans
      obtain ⟨_, rfl, rfl⟩ := spans
      exact ⟨List.mem_map_of_mem (List.mem_of_head? atHead),
        List.mem_map_of_mem (List.mem_of_getLast? atLast)⟩
  · cases spans

/-- A window that hardly varies does not drain. -/
theorem not_draining_of_steady
    (steady : ∀ high ∈ controller.spanned snapshot,
      ∀ low ∈ controller.spanned snapshot,
        growLeadSec * ((high.swapFree : ℚ) - low.swapFree) <
          minSlopeSpanSec * low.swapFree) :
    controller.swapEta.any (· ≤ growLeadSec) = false := by
  unfold swapEta
  cases spans : controller.windowSpan with
  | none => rfl
  | some ends =>
    obtain ⟨span, first, last⟩ := ends
    obtain ⟨firstIn, lastIn⟩ := mem_of_windowSpan spans
    simp only
    split
    · rfl
    next long =>
    split
    · rfl
    split
    · rfl
    next falling =>
    have spanLong : minSlopeSpanSec ≤ span := not_lt.mp long
    have spanPositive : 0 < span := lt_of_lt_of_le (by decide) spanLong
    have ratePositive :
        0 < ((first.swapFree : ℚ) - last.swapFree) / span :=
      not_le.mp falling
    have fell : 0 < (first.swapFree : ℚ) - last.swapFree :=
      (div_pos_iff_of_pos_right spanPositive).mp ratePositive
    obtain ⟨low, lowIn, remaining⟩ :=
      exists_eq_lowest (·.swapFree) first controller.window
    have lowSpanned : low ∈ controller.spanned snapshot := by
      rcases List.mem_cons.mp lowIn with rfl | inWindow
      · exact List.mem_cons_of_mem _ firstIn
      · exact List.mem_cons_of_mem _ inWindow
    have lowLast : (low.swapFree : ℚ) ≤ last.swapFree := by
      rw [remaining]
      exact_mod_cast lowest_le (List.mem_cons_of_mem _ lastIn)
    have bound := steady first (List.mem_cons_of_mem _ firstIn) low lowSpanned
    -- The shortest span the code accepts gives the steepest rate.
    have slope : ((first.swapFree : ℚ) - last.swapFree) / span ≤
        ((first.swapFree : ℚ) - last.swapFree) / minSlopeSpanSec :=
      div_le_div_of_nonneg_left fell.le (by decide) spanLong
    simp only [Option.any_some, decide_eq_false_iff_not, not_le]
    apply lt_max_of_lt_right
    rw [lt_div_iff₀ ratePositive, ← remaining]
    simp only [growLeadSec, minSlopeSpanSec] at bound slope ⊢
    linarith

theorem planGrowth_of_settled
    (settled : Settled config disk snapshot
      (controller.seen config now snapshot) (controller.spanned snapshot)) :
    (controller.planGrowth config now snapshot disk).shouldGrow = false := by
  obtain ⟨lowFree, freeIn, free⟩ := exists_eq_lowest (·.swapFree) snapshot
    (controller.recent config now)
  obtain ⟨lowMemory, memoryIn, memory⟩ := exists_eq_lowest (·.memAvailable)
    snapshot (controller.recent config now)
  rw [Bool.eq_false_iff]
  intro grows
  obtain ⟨enabled, readable, arm, supported, room⟩ :=
    (GrowthConfig.decideGrowth_isOk_iff _ _ _ _).mp grows
  rw [GrowthConfig.trigger_isOk_iff] at arm
  have exhausted_eq :
      config.swapExhausted (controller.worstRecent config now snapshot) =
        config.swapExhausted { snapshot with swapFree := lowFree.swapFree } := by
    rw [free]
    rfl
  have roomy_eq :
      config.swapRoomy (controller.worstRecent config now snapshot) =
        config.swapRoomy { snapshot with swapFree := lowFree.swapFree } := by
    rw [free]
    rfl
  have high_eq :
      config.memoryHigh (controller.worstRecent config now snapshot) =
        config.memoryHigh
          { snapshot with memAvailable := lowMemory.memAvailable } := by
    rw [memory]
    rfl
  cases settled with
  | blocked cannot => exact cannot ⟨enabled, readable, supported, room⟩
  | relaxed enough low =>
    rw [exhausted_eq, enough lowFree freeIn, GrowthConfig.swapDraining,
      high_eq, low lowMemory memoryIn] at arm
    simp at arm
  | roomy enough ample steady =>
    rw [exhausted_eq, enough lowFree freeIn, GrowthConfig.swapDraining,
      not_draining_of_steady steady, roomy_eq, ample lowFree freeIn] at arm
    simp at arm

end SwapController

/-! ## The idle release -/

/-- The options of the idle path: one file at a time. -/
def ReleaseOptions.idle : ReleaseOptions := ⟨false, false, some 1⟩

namespace SwapMachine

variable {machine : SwapMachine} {swapoff : SwapDevice → Bool}
  {headroom : Int}

/-- The file an idle release gives back: the emptiest one that memory can take
and that the kernel lets go. -/
def releaseTarget (machine : SwapMachine) (config : GrowthConfig)
    (swapoff : SwapDevice → Bool) : Option SwapDevice :=
  (machine.emptiestFirst config).find? fun device =>
    decide (device.needed ≤ machine.memAvailable) && swapoff device

/-- Once the limit is reached every other file is deferred. -/
theorem releaseEach_idle_deferred (machine : SwapMachine)
    (swapoff : SwapDevice → Bool) (devices : List SwapDevice) (headroom : Int) :
    (releaseEach .idle swapoff devices headroom 1 machine).2 = machine ∧
      ∀ result ∈ (releaseEach .idle swapoff devices headroom 1 machine).1,
        result.reason = .deferred := by
  induction devices with
  | nil => simp [releaseEach]
  | cons device rest ih =>
    simp only [releaseEach, ReleaseOptions.idle, Option.any_some, le_refl,
      decide_true, if_true]
    refine ⟨ih.1, ?_⟩
    intro result member
    rcases List.mem_cons.mp member with rfl | later
    · rfl
    · exact ih.2 result later

theorem releaseEach_idle_cons_of_pos {device : SwapDevice}
    (rest : List SwapDevice) (fits : device.needed ≤ headroom)
    (off : swapoff device = true) :
    releaseEach .idle swapoff (device :: rest) headroom 0 machine =
      let others := releaseEach .idle swapoff rest (headroom - device.needed) 1
        (machine.switchOff device)
      (⟨device.path, device.usedBytes, true, .released⟩ :: others.1,
        others.2) := by
  simp [releaseEach, ReleaseOptions.idle, fits, off]

/-- A file that stays changes nothing. -/
theorem releaseEach_idle_cons_of_neg (machine : SwapMachine)
    {device : SwapDevice} (rest : List SwapDevice)
    (stays : ¬ (device.needed ≤ headroom ∧ swapoff device = true)) :
    ∃ reason ≠ ReleaseReason.released,
      releaseEach .idle swapoff (device :: rest) headroom 0 machine =
        let others := releaseEach .idle swapoff rest headroom 0 machine
        (⟨device.path, device.usedBytes, false, reason⟩ :: others.1,
          others.2) := by
  by_cases fits : device.needed ≤ headroom
  · have stuck : swapoff device = false := by simpa [fits] using stays
    refine ⟨.swapoffFailed, by decide, ?_⟩
    simp [releaseEach, ReleaseOptions.idle, fits, stuck]
  · refine ⟨.unsafe_, by decide, ?_⟩
    simp [releaseEach, ReleaseOptions.idle, not_le.mp fits]

theorem releaseEach_idle (machine : SwapMachine) (swapoff : SwapDevice → Bool)
    (devices : List SwapDevice) (headroom : Int) :
    (releaseEach .idle swapoff devices headroom 0 machine).2 =
        ((devices.find? fun device =>
          decide (device.needed ≤ headroom) && swapoff device).map
            machine.switchOff).getD machine ∧
      ((∃ result ∈ (releaseEach .idle swapoff devices headroom 0 machine).1,
          result.reason = .released) ↔
        (devices.find? fun device =>
          decide (device.needed ≤ headroom) && swapoff device).isSome) := by
  induction devices with
  | nil => simp [releaseEach]
  | cons device rest ih =>
    by_cases taken : device.needed ≤ headroom ∧ swapoff device = true
    · obtain ⟨fits, off⟩ := taken
      rw [releaseEach_idle_cons_of_pos rest fits off,
        List.find?_cons_of_pos (by simp [fits, off])]
      refine ⟨(releaseEach_idle_deferred _ _ _ _).1, ?_⟩
      exact iff_of_true ⟨_, List.mem_cons_self, rfl⟩ rfl
    · obtain ⟨reason, other, stays⟩ :=
        releaseEach_idle_cons_of_neg machine rest taken
      rw [stays, List.find?_cons_of_neg (by simpa using taken)]
      refine ⟨ih.1, ?_⟩
      rw [← ih.2, List.exists_mem_cons_iff]
      exact or_iff_right other

theorem snapshot_foldl_discard (names : List String) (machine : SwapMachine) :
    (names.foldl discard machine).snapshot = machine.snapshot ∧
      (names.foldl discard machine).disk = machine.disk := by
  induction names generalizing machine with
  | nil => exact ⟨rfl, rfl⟩
  | cons name rest ih => exact ih (machine.discard name)

theorem release_idle (machine : SwapMachine) (config : GrowthConfig)
    (swapoff : SwapDevice → Bool) :
    let after := ((machine.releaseTarget config swapoff).map
      machine.switchOff).getD machine
    (machine.release config .idle swapoff).2.snapshot = after.snapshot ∧
      (machine.release config .idle swapoff).2.disk = after.disk ∧
      ((∃ result ∈ (machine.release config .idle swapoff).1,
          result.reason = .released) ↔
        (machine.releaseTarget config swapoff).isSome) := by
  obtain ⟨left, results⟩ := releaseEach_idle machine swapoff
    (machine.emptiestFirst config) machine.memAvailable
  have target_eq : ((machine.emptiestFirst config).find? fun device =>
      decide (device.needed ≤ (machine.memAvailable : Int)) &&
        swapoff device) = machine.releaseTarget config swapoff := rfl
  rw [target_eq] at left results
  refine ⟨?_, ?_, ?_⟩
  · rw [← left]
    exact (snapshot_foldl_discard _ _).1
  · rw [← left]
    exact (snapshot_foldl_discard _ _).2
  · rw [← results]
    constructor
    · rintro ⟨result, member, isReleased⟩
      rcases List.mem_append.mp member with active | orphan
      · exact ⟨result, active, isReleased⟩
      · obtain ⟨_, _, rfl⟩ := List.mem_map.mp orphan
        cases isReleased
    · rintro ⟨result, member, isReleased⟩
      exact ⟨result, List.mem_append_left _ member, isReleased⟩

end SwapMachine

/-! ## Runs -/

/-- The controller on a machine whose memory demand is constant. -/
structure SwapSystem where
  now : ℚ
  controller : SwapController
  machine : SwapMachine
  /-- A file was released and no plan was made since. -/
  owed : Bool
  /-- Some plan made after a release asked for growth. -/
  fought : Bool

/-- The steps of the controller; each takes time. -/
inductive SwapMove
  | sample (elapsed : ℚ≥0)
  /-- `ensure_swap_headroom`. -/
  | grow (elapsed : ℚ≥0) (outcomes : GrowOutcomes)
  /-- `shrink_swap_if_idle`. -/
  | shrink (elapsed : ℚ≥0) (swapoff : SwapDevice → Bool)
  /-- Other programs use the disk. -/
  | disk (disk : DiskSpace)

namespace SwapSystem

/-- A controller that has just started. -/
def start (machine : SwapMachine) (now : ℚ) : SwapSystem :=
  ⟨now, .fresh, machine, false, false⟩

/-- Time passes. -/
def wait (system : SwapSystem) (elapsed : ℚ≥0) : SwapSystem :=
  { system with now := system.now + elapsed }

/-- `ensure_swap_headroom`. -/
def ensureSwapHeadroom (system : SwapSystem) (config : GrowthConfig)
    (outcomes : GrowOutcomes) : SwapSystem :=
  let plan := system.controller.planGrowth config system.now
    system.machine.snapshot system.machine.disk
  { system with
    machine := (system.machine.grow config plan false outcomes).2
    owed := false
    fought := system.fought || (system.owed && plan.shouldGrow) }

/-- `shrink_swap_if_idle`. -/
def shrinkSwapIfIdle (system : SwapSystem) (config : GrowthConfig)
    (swapoff : SwapDevice → Bool) : SwapSystem :=
  if system.controller.shouldShrink config system.now system.machine then
    let result := system.machine.release config .idle swapoff
    { system with
      machine := result.2
      owed := system.owed || result.1.any fun result =>
        result.reason = .released }
  else system

def step (config : GrowthConfig) (system : SwapSystem) :
    SwapMove → SwapSystem
  | .sample elapsed =>
    let later := system.wait elapsed
    { later with
      controller := later.controller.sample config later.now
        later.machine.snapshot }
  | .grow elapsed outcomes =>
    (system.wait elapsed).ensureSwapHeadroom config outcomes
  | .shrink elapsed swapoff =>
    (system.wait elapsed).shrinkSwapIfIdle config swapoff
  | .disk disk => { system with machine := { system.machine with disk } }

/-- What is left suffices for `plan_growth`. -/
def Settled (config : GrowthConfig) (system : SwapSystem) : Prop :=
  SmarTune.Settled config system.machine.disk system.machine.snapshot
    (system.controller.seen config system.now system.machine.snapshot)
    (system.controller.spanned system.machine.snapshot)

/-- The condition on one step, read off the state before it. -/
def KeepsSwap (config : GrowthConfig) (system : SwapSystem) :
    SwapMove → Prop
  | .sample _ | .grow _ _ => True
  | .shrink elapsed swapoff =>
    let later := system.wait elapsed
    later.controller.shouldShrink config later.now later.machine = true →
      ∀ device, later.machine.releaseTarget config swapoff = some device →
        Settled config { later with machine := later.machine.switchOff device }
  | .disk disk =>
    system.owed = true →
      Settled config { system with machine := { system.machine with disk } }

/-- After a release the state is settled, and no plan has fought one. -/
structure Calm (config : GrowthConfig) (system : SwapSystem) : Prop where
  settled : system.owed = true → system.Settled config
  peaceful : system.fought = false

variable {config : GrowthConfig} {system : SwapSystem}

theorem Calm.wait (calm : system.Calm config) (elapsed : ℚ≥0) :
    (system.wait elapsed).Calm config where
  settled := by
    intro owed
    refine (calm.settled owed).mono ?_ (List.Subset.refl _)
    apply SwapController.seen_subset_of_le
    simp [SwapSystem.wait]
  peaceful := calm.peaceful

theorem calm_sample (calm : system.Calm config) :
    ({ system with
      controller := system.controller.sample config system.now
        system.machine.snapshot } : SwapSystem).Calm config where
  settled := by
    intro owed
    exact (calm.settled owed).mono SwapController.seen_sample_subset
      SwapController.spanned_sample_subset
  peaceful := calm.peaceful

theorem Calm.ensureSwapHeadroom (calm : system.Calm config)
    (outcomes : GrowOutcomes) :
    (system.ensureSwapHeadroom config outcomes).Calm config where
  settled := by
    intro owed
    cases owed
  peaceful := by
    simp only [SwapSystem.ensureSwapHeadroom, calm.peaceful, Bool.false_or]
    cases owed : system.owed with
    | false => rfl
    | true => exact SwapController.planGrowth_of_settled (calm.settled owed)

theorem Calm.shrinkSwapIfIdle (calm : system.Calm config)
    (swapoff : SwapDevice → Bool)
    (keeps : system.controller.shouldShrink config system.now
        system.machine = true →
      ∀ device, system.machine.releaseTarget config swapoff = some device →
        Settled config
          { system with machine := system.machine.switchOff device }) :
    (system.shrinkSwapIfIdle config swapoff).Calm config := by
  unfold SwapSystem.shrinkSwapIfIdle
  split
  · next allowed =>
    obtain ⟨snapshot, disk, released⟩ :=
      system.machine.release_idle config swapoff
    refine ⟨?_, calm.peaceful⟩
    intro owed
    simp only [SwapSystem.Settled, snapshot, disk]
    cases target : system.machine.releaseTarget config swapoff with
    | none =>
      have nothing : ((system.machine.release config .idle swapoff).1.any
          fun result => result.reason = .released) = false := by
        rw [List.any_eq_false]
        intro result member isReleased
        have taken := released.mp ⟨result, member, by simpa using isReleased⟩
        rw [target] at taken
        cases taken
      exact calm.settled (by simpa [nothing] using owed)
    | some device => exact keeps allowed device target
  · exact calm

theorem calm_step (calm : system.Calm config) (move : SwapMove)
    (keeps : system.KeepsSwap config move) :
    (system.step config move).Calm config := by
  cases move with
  | sample elapsed => exact calm_sample (calm.wait elapsed)
  | grow elapsed outcomes => exact (calm.wait elapsed).ensureSwapHeadroom outcomes
  | shrink elapsed swapoff =>
    exact (calm.wait elapsed).shrinkSwapIfIdle swapoff keeps
  | disk disk => exact ⟨keeps, calm.peaceful⟩

/-- In every run whose steps meet the condition no plan made after a release
asks for growth. -/
theorem no_growth_after_release (config : GrowthConfig) (machine : SwapMachine)
    (now : ℚ) {moves : List SwapMove}
    (keeping : Runs.EveryStep (step config) (KeepsSwap config)
      (start machine now) moves) :
    (Runs.run (step config) (start machine now) moves).fought = false := by
  have initially : (start machine now).Calm config :=
    ⟨fun owed => (by cases owed), rfl⟩
  exact (Runs.invariant_run (Calm config)
    (fun _ move calm keeps => calm_step calm move keeps)
    initially keeping).peaceful

def growing : GrowthConfig := { enabled := true }

/-- Eight gigabytes of memory, seven of them available, and the given swap. -/
def idleMachine (devices : List SwapDevice)
    (files : List String) : SwapMachine where
  memTotal := 8 * gigabyte
  memAvailable := 7 * gigabyte
  anonPages := gigabyte
  devices := devices
  files := files
  disk := ⟨100 * gigabyte, 80 * gigabyte, "ext4"⟩

/-- A file of two gigabytes comes up. -/
def bringsUp : GrowOutcomes := ⟨true, fun _ => some (2 * gigabyte)⟩

/-- Grow, stay relaxed for ten minutes, release, grow. -/
def growReleaseGrow : List SwapMove :=
  [.sample 0, .grow 0 bringsUp, .sample 600, .shrink 0 fun _ => true,
    .grow 0 bringsUp]

/-- On an idle machine without other swap no swap counts as exhausted swap:
the file that was just grown is released and grown again, for ever. -/
theorem idle_machine_fights :
    (Runs.run (step growing) (start (idleMachine [] []) 0)
      growReleaseGrow).fought = true ∧
    (Runs.run (step growing) (start (idleMachine [] []) 0)
      growReleaseGrow).machine =
      (Runs.run (step growing) (start (idleMachine [] []) 0)
        (growReleaseGrow.take 2)).machine := by
  decide +kernel

/-- The distro's swap file and a managed one, both empty. -/
def twoSwapFiles : List SwapDevice :=
  [⟨⟨"/", "swap.img"⟩, 8 * gigabyte, 0⟩,
    ⟨⟨"/var/lib/smartune/swap", "swap-01.img"⟩, 2 * gigabyte, 0⟩]

/-- Next to free swap of the distro a release is not followed by growth. -/
theorem no_growth_after_release_beside_distro_swap :
    (Runs.run (step growing)
      (start (idleMachine twoSwapFiles ["swap-01.img"]) 0)
      [.sample 0, .sample 600, .shrink 0 fun _ => true,
        .grow 0 bringsUp]).fought = false := by
  apply no_growth_after_release
  refine ⟨trivial, trivial, ?_, trivial, trivial⟩
  intro _ device target
  have emptiest : (idleMachine twoSwapFiles ["swap-01.img"]).releaseTarget
      growing (fun _ => true) =
      some ⟨⟨"/var/lib/smartune/swap", "swap-01.img"⟩, 2 * gigabyte, 0⟩ := by
    decide +kernel
  obtain rfl := Option.some.inj (target.symm.trans emptiest)
  exact .relaxed (by decide +kernel) (by decide +kernel)

end SwapSystem

end SmarTune
