import SmarTune.Controller.SwapRuns

/-!
# Growth on a stale window

A plan judges on the lowest free swap of a window against the present total of
swap.  After a growth the window still holds samples from before it, and the
slots for plans under critical pressure come faster than they leave it.
-/

namespace SmarTune

/-! ## The samples of a window that precede the last growth -/

namespace SwapController

variable (controller : SwapController) (config : GrowthConfig) (now : ℚ)
  (snapshot : MemorySnapshot) (taken : Nat)

/-- The samples a plan looks at among those taken before the last `taken`
ones. -/
def staleRecent : List (ℚ × MemorySnapshot) :=
  (controller.window.take (controller.window.length - taken)).filter
    fun entry => now - config.pressureWindowSec ≤ entry.1

/-- The samples a plan looks at among the last `taken` ones. -/
def freshRecent : List (ℚ × MemorySnapshot) :=
  (controller.window.drop (controller.window.length - taken)).filter
    fun entry => now - config.pressureWindowSec ≤ entry.1

/-- `worst_recent`, had it read the free swap of the last `taken` samples
only. -/
def worstSince : MemorySnapshot :=
  { controller.worstRecent config now snapshot with
    swapFree := lowest (·.swapFree) snapshot
      (controller.freshRecent config now taken) }

theorem recent_eq_append :
    controller.recent config now = controller.staleRecent config now taken ++
        controller.freshRecent config now taken := by
  rw [staleRecent, freshRecent, ← List.filter_append, List.take_append_drop]
  rfl

end SwapController

namespace MemorySnapshot

/-- The snapshot, had so much swap been free. -/
def withFree (snapshot : MemorySnapshot) (free : Nat) : MemorySnapshot :=
  { snapshot with swapFree := free }

theorem swapFreeFraction_mono (snapshot : MemorySnapshot) {fewer more : Nat}
    (le : fewer ≤ more) :
    (snapshot.withFree fewer).swapFreeFraction ≤
      (snapshot.withFree more).swapFreeFraction := by
  unfold swapFreeFraction withFree
  split
  · exact le_rfl
  · have cast : (fewer : ℚ) ≤ more := by exact_mod_cast le
    exact div_le_div_of_nonneg_right cast (Nat.cast_nonneg _)

end MemorySnapshot

namespace GrowthConfig

variable (config : GrowthConfig) (snapshot : MemorySnapshot)

/-- Growth is on and has room. -/
def CanGrow (disk : DiskSpace) : Prop :=
  config.enabled = true ∧ snapshot.memTotal ≠ 0 ∧
    config.supportsFs disk.fstype = true ∧ 0 < config.growBytes snapshot disk

theorem decideGrowth_isOk_iff_canGrow (eta : Option ℚ) (disk : DiskSpace) :
    (config.decideGrowth snapshot eta disk).isOk = true ↔
      config.CanGrow snapshot disk ∧
        (config.trigger snapshot eta).isOk = true := by
  rw [decideGrowth_isOk_iff, CanGrow]
  tauto

open SwapController in
theorem swapExhausted_lowest_iff (samples : List (ℚ × MemorySnapshot)) :
    config.swapExhausted (snapshot.withFree
        (lowest (·.swapFree) snapshot samples)) = true ↔
      ∃ reading ∈ snapshot :: samples.map Prod.snd,
        config.swapExhausted (snapshot.withFree reading.swapFree) = true := by
  simp only [swapExhausted, decide_eq_true_eq]
  constructor
  · intro exhausted
    obtain ⟨reading, member, same⟩ :=
      exists_eq_lowest (·.swapFree) snapshot samples
    exact ⟨reading, member, same ▸ exhausted⟩
  · rintro ⟨reading, member, exhausted⟩
    exact (snapshot.swapFreeFraction_mono (lowest_le member)).trans exhausted

open SwapController in
theorem swapRoomy_lowest_iff (samples : List (ℚ × MemorySnapshot)) :
    config.swapRoomy (snapshot.withFree
        (lowest (·.swapFree) snapshot samples)) = false ↔
      ∃ reading ∈ snapshot :: samples.map Prod.snd,
        config.swapRoomy (snapshot.withFree reading.swapFree) = false := by
  simp only [swapRoomy, decide_eq_false_iff_not, not_lt]
  constructor
  · intro scarce
    obtain ⟨reading, member, same⟩ :=
      exists_eq_lowest (·.swapFree) snapshot samples
    exact ⟨reading, member, same ▸ scarce⟩
  · rintro ⟨reading, member, scarce⟩
    exact (snapshot.swapFreeFraction_mono (lowest_le member)).trans scarce

end GrowthConfig

namespace SwapController

variable (controller : SwapController) (config : GrowthConfig) (now : ℚ)
  (snapshot : MemorySnapshot) (taken : Nat) (eta : Option ℚ)

/-- A sample from before the growth that, against the present swap, is at a
watermark. -/
def StaleAsks : Prop :=
  ∃ entry ∈ controller.staleRecent config now taken,
    config.swapExhausted (snapshot.withFree entry.2.swapFree) = true ∨
      (config.memoryHigh (controller.worstRecent config now snapshot) = true ∧
        config.swapRoomy (snapshot.withFree entry.2.swapFree) = false)

/-- What a plan looks at is a reading since the growth, or a sample from before
it. -/
theorem exists_recent_iff (asks : Nat → Prop) :
    (∃ reading ∈ snapshot :: (controller.recent config now).map Prod.snd,
        asks reading.swapFree) ↔
      (∃ reading ∈ snapshot ::
          (controller.freshRecent config now taken).map Prod.snd,
        asks reading.swapFree) ∨
        ∃ entry ∈ controller.staleRecent config now taken,
          asks entry.2.swapFree := by
  rw [controller.recent_eq_append config now taken]
  simp only [List.exists_mem_cons_iff, List.map_append, List.mem_append,
    List.mem_map, or_and_right, exists_or, exists_exists_and_eq_and]
  rw [or_assoc]
  exact or_congr_right or_comm

theorem swapExhausted_worstRecent_iff :
    config.swapExhausted (controller.worstRecent config now snapshot) = true ↔
      config.swapExhausted (controller.worstSince config now snapshot taken) =
          true ∨
        ∃ entry ∈ controller.staleRecent config now taken,
          config.swapExhausted (snapshot.withFree entry.2.swapFree) = true := by
  have all := config.swapExhausted_lowest_iff snapshot
    (controller.recent config now)
  have since := config.swapExhausted_lowest_iff snapshot
    (controller.freshRecent config now taken)
  rw [exists_recent_iff controller config now snapshot taken
    (fun free => config.swapExhausted (snapshot.withFree free) = true),
    ← since] at all
  exact all

theorem swapRoomy_worstRecent_iff :
    config.swapRoomy (controller.worstRecent config now snapshot) = false ↔
      config.swapRoomy (controller.worstSince config now snapshot taken) =
          false ∨
        ∃ entry ∈ controller.staleRecent config now taken,
          config.swapRoomy (snapshot.withFree entry.2.swapFree) = false := by
  have all := config.swapRoomy_lowest_iff snapshot
    (controller.recent config now)
  have since := config.swapRoomy_lowest_iff snapshot
    (controller.freshRecent config now taken)
  rw [exists_recent_iff controller config now snapshot taken
    (fun free => config.swapRoomy (snapshot.withFree free) = false),
    ← since] at all
  exact all

theorem memoryHigh_worstRecent (high : config.memoryHigh snapshot = true) :
    config.memoryHigh (controller.worstRecent config now snapshot) = true := by
  simp only [GrowthConfig.memoryHigh, decide_eq_true_eq] at high ⊢
  refine high.trans ?_
  have less : (controller.worstRecent config now snapshot).memAvailable ≤
      snapshot.memAvailable := lowest_le List.mem_cons_self
  have total : (controller.worstRecent config now snapshot).memTotal =
      snapshot.memTotal := rfl
  unfold MemorySnapshot.usedFraction MemorySnapshot.usedEffective
  rw [total]
  split
  · exact le_rfl
  · apply div_le_div_of_nonneg_right _ (Nat.cast_nonneg _)
    exact_mod_cast Nat.sub_le_sub_left less _

/-- What asks for growth is a reading since the growth, or a sample from
before it. -/
theorem trigger_worstRecent_iff :
    (config.trigger (controller.worstRecent config now snapshot) eta).isOk =
        true ↔
      (config.trigger (controller.worstSince config now snapshot taken)
          eta).isOk = true ∨
        controller.StaleAsks config now snapshot taken := by
  have draining : config.swapDraining
      (controller.worstSince config now snapshot taken) eta =
        config.swapDraining (controller.worstRecent config now snapshot) eta :=
    rfl
  have high : config.memoryHigh
      (controller.worstSince config now snapshot taken) =
        config.memoryHigh (controller.worstRecent config now snapshot) := rfl
  rw [GrowthConfig.trigger_isOk_iff, GrowthConfig.trigger_isOk_iff, draining,
    high, swapExhausted_worstRecent_iff controller config now snapshot taken,
    swapRoomy_worstRecent_iff controller config now snapshot taken]
  unfold StaleAsks
  constructor
  · rintro ((since | ⟨entry, member, asks⟩) | drains |
      ⟨full, since | ⟨entry, member, asks⟩⟩)
    · exact Or.inl (Or.inl since)
    · exact Or.inr ⟨entry, member, Or.inl asks⟩
    · exact Or.inl (Or.inr (Or.inl drains))
    · exact Or.inl (Or.inr (Or.inr ⟨full, since⟩))
    · exact Or.inr ⟨entry, member, Or.inr ⟨full, asks⟩⟩
  · rintro ((since | drains | ⟨full, since⟩) |
      ⟨entry, member, asks | ⟨full, asks⟩⟩)
    · exact Or.inl (Or.inl since)
    · exact Or.inr (Or.inl drains)
    · exact Or.inr (Or.inr ⟨full, Or.inl since⟩)
    · exact Or.inl (Or.inr ⟨entry, member, asks⟩)
    · exact Or.inr (Or.inr ⟨full, Or.inr ⟨entry, member, asks⟩⟩)

end SwapController

/-! ## The rate limiter -/

/-- `_SWAP_GROWTH_INTERVAL`. -/
def swapGrowthInterval : ℚ := 60

/-- `_SWAP_GROWTH_URGENT_INTERVAL`. -/
def swapGrowthUrgentInterval : ℚ := 10

/-- The swap arm of the balancer and the machine it runs on. -/
structure HeadroomSystem where
  /-- The monotonic clock. -/
  now : ℚ
  controller : SwapController
  machine : SwapMachine
  /-- `_last_swap_growth_at`. -/
  lastSwapGrowthAt : ℚ
  /-- Jobs of `ensure_swap_headroom` on the executor. -/
  queued : Nat
  /-- How many samples were recorded since the last completed growth. -/
  taken : Option Nat

/-- What happens to it. -/
inductive HeadroomMove
  | sample (elapsed : ℚ≥0)
  /-- `_tick_swap_headroom`, or the critical-state listener. -/
  | tick (currentTime : ℚ) (urgent : Bool)
  /-- `_request_swap_headroom`. -/
  | request
  /-- The executor takes a job. -/
  | ensure (elapsed : ℚ≥0) (disk : DiskSpace) (outcomes : GrowOutcomes)
  | release (options : ReleaseOptions) (swapoff : SwapDevice → Bool)
  /-- Programs take and free memory, pages move in and out of swap. -/
  | demand (memAvailable anonPages : Nat) (used : SwapDevice → Nat)

namespace HeadroomSystem

/-- The service has just started. -/
def start (machine : SwapMachine) (now : ℚ) : HeadroomSystem :=
  ⟨now, .fresh, machine, 0, 0, none⟩

/-- `_claim_swap_growth_slot`. -/
def claimSwapGrowthSlot (system : HeadroomSystem) (currentTime : ℚ)
    (urgent : Bool) : Bool × HeadroomSystem :=
  let interval := if urgent then swapGrowthUrgentInterval
    else swapGrowthInterval
  if currentTime - system.lastSwapGrowthAt < interval then (false, system)
  else (true, { system with lastSwapGrowthAt := currentTime })

/-- `_request_swap_headroom`. -/
def requestSwapHeadroom (system : HeadroomSystem)
    (config : GrowthConfig) : HeadroomSystem :=
  if config.enabled then { system with queued := system.queued + 1 }
  else system

/-- `_tick_swap_headroom`. -/
def tickSwapHeadroom (system : HeadroomSystem) (config : GrowthConfig)
    (currentTime : ℚ) (urgent : Bool) : HeadroomSystem :=
  if !config.enabled then system
  else
    let claimed := system.claimSwapGrowthSlot currentTime urgent
    if claimed.1 then
      { claimed.2 with queued := claimed.2.queued + 1 }
    else claimed.2

/-- `sample`. -/
def sample (system : HeadroomSystem) (config : GrowthConfig) :
    HeadroomSystem :=
  { system with
    controller := system.controller.sample config system.now
      system.machine.snapshot
    taken := if system.machine.memTotal = 0 then system.taken
      else system.taken.map (· + 1) }

/-- The plan a job makes. -/
def plan (system : HeadroomSystem) (config : GrowthConfig)
    (disk : DiskSpace) : GrowthPlan :=
  system.controller.planGrowth config system.now system.machine.snapshot disk

/-- `ensure_swap_headroom`. -/
def ensureSwapHeadroom (system : HeadroomSystem) (config : GrowthConfig)
    (disk : DiskSpace) (outcomes : GrowOutcomes) : HeadroomSystem :=
  let result := { system.machine with disk }.grow config
    (system.plan config disk) false outcomes
  { system with
    machine := result.2
    taken := if result.1.ok then some 0 else system.taken }

/-- Time passes. -/
def wait (system : HeadroomSystem) (elapsed : ℚ≥0) : HeadroomSystem :=
  { system with now := system.now + elapsed }

def step (config : GrowthConfig) (system : HeadroomSystem) :
    HeadroomMove → HeadroomSystem
  | .sample elapsed => (system.wait elapsed).sample config
  | .tick currentTime urgent =>
    system.tickSwapHeadroom config currentTime urgent
  | .request => system.requestSwapHeadroom config
  | .ensure elapsed disk outcomes =>
    if system.queued = 0 then system
    else
      { system.wait elapsed with queued := system.queued - 1 }.ensureSwapHeadroom
        config disk outcomes
  | .release options swapoff =>
    { system with
      machine := (system.machine.release config options swapoff).2 }
  | .demand memAvailable anonPages used =>
    { system with
      machine := { system.machine with
        memAvailable := memAvailable
        anonPages := anonPages
        devices := system.machine.devices.map fun device =>
          { device with usedBytes := used device } } }

/-! ## One growth per dip -/

section Plan

variable (config : GrowthConfig) (system : HeadroomSystem) (disk : DiskSpace)

/-- The readings since the growth are above both watermarks of swap, which is
not draining. -/
def Recovered (taken : Nat) : Prop :=
  (∀ reading ∈ system.machine.snapshot ::
      (system.controller.freshRecent config system.now taken).map Prod.snd,
    config.swapExhausted
        (system.machine.snapshot.withFree reading.swapFree) = false ∧
      config.swapRoomy
        (system.machine.snapshot.withFree reading.swapFree) = true) ∧
  config.swapDraining (system.controller.worstRecent config system.now
    system.machine.snapshot) system.controller.swapEta = false

/-- After a growth a plan does not grow on the free swap of samples from
before it. -/
structure GrowsOnFresh : Prop where
  /-- Not once the snapshot itself no longer asks for growth. -/
  notStale : ∀ taken, system.taken = some taken →
    (config.trigger system.machine.snapshot
      system.controller.swapEta).isOk = false →
    (system.plan config disk).shouldGrow = true →
    (config.decideGrowth
      (system.controller.worstSince config system.now system.machine.snapshot
        taken) system.controller.swapEta disk).isOk = true
  /-- Not while the readings since are above the watermarks. -/
  notRecovered : ∀ taken, system.taken = some taken →
    Recovered config system taken →
    (system.plan config disk).shouldGrow = false

/-- The samples from before the growth that a plan still looks at are above
the watermarks of the present swap, if the readings since ask for nothing. -/
def StaleIsEnough : Prop :=
  ∀ taken, system.taken = some taken → (config.trigger system.machine.snapshot
      system.controller.swapEta).isOk = false →
    config.CanGrow system.machine.snapshot disk →
    (config.trigger (system.controller.worstSince config system.now
      system.machine.snapshot taken) system.controller.swapEta).isOk = false →
    ∀ entry ∈ system.controller.staleRecent config system.now taken,
      config.swapExhausted
        (system.machine.snapshot.withFree entry.2.swapFree) = false ∧
      (config.memoryHigh (system.controller.worstRecent config system.now
          system.machine.snapshot) = true →
        config.swapRoomy
          (system.machine.snapshot.withFree entry.2.swapFree) = true)

end Plan

section Plan

variable {config : GrowthConfig} {system : HeadroomSystem} {disk : DiskSpace}

theorem Recovered.quiet {taken : Nat}
    (recovered : Recovered config system taken) :
    (config.trigger system.machine.snapshot
        system.controller.swapEta).isOk = false ∧
      (config.trigger (system.controller.worstSince config system.now
        system.machine.snapshot taken)
          system.controller.swapEta).isOk = false := by
  obtain ⟨above, steady⟩ := recovered
  obtain ⟨enough, roomy⟩ := above _ List.mem_cons_self
  constructor
  · rw [Bool.eq_false_iff]
    intro asks
    rcases (GrowthConfig.trigger_isOk_iff _ _ _).mp asks with
      exhausted | drains | ⟨_, scarce⟩
    · exact absurd exhausted (Bool.eq_false_iff.mp enough)
    · obtain ⟨high, soon⟩ := Bool.and_eq_true_iff.mp drains
      rw [GrowthConfig.swapDraining, SwapController.memoryHigh_worstRecent _ _ _
        _ high, soon] at steady
      cases steady
    · exact absurd roomy (Bool.eq_false_iff.mp scarce)
  · rw [Bool.eq_false_iff]
    intro asks
    rcases (GrowthConfig.trigger_isOk_iff _ _ _).mp asks with
      exhausted | drains | ⟨_, scarce⟩
    · obtain ⟨reading, member, exhausted⟩ :=
        (config.swapExhausted_lowest_iff system.machine.snapshot
          (system.controller.freshRecent config system.now taken)).mp exhausted
      rw [(above reading member).1] at exhausted
      cases exhausted
    · exact absurd drains (Bool.eq_false_iff.mp steady)
    · obtain ⟨reading, member, scarce⟩ :=
        (config.swapRoomy_lowest_iff system.machine.snapshot
          (system.controller.freshRecent config system.now taken)).mp scarce
      rw [(above reading member).2] at scarce
      cases scarce

theorem plan_shouldGrow_iff {taken : Nat}
    (quiet : (config.trigger (system.controller.worstSince config system.now
      system.machine.snapshot taken) system.controller.swapEta).isOk = false) :
    (system.plan config disk).shouldGrow = true ↔
      config.CanGrow system.machine.snapshot disk ∧
        system.controller.StaleAsks config system.now system.machine.snapshot
          taken := by
  have decision : (system.plan config disk).shouldGrow =
      (config.decideGrowth (system.controller.worstRecent config system.now
        system.machine.snapshot) system.controller.swapEta disk).isOk := rfl
  rw [decision, GrowthConfig.decideGrowth_isOk_iff_canGrow,
    SwapController.trigger_worstRecent_iff _ _ _ _ taken, quiet]
  simp only [Bool.false_eq_true, false_or]
  rfl

/-- No stale sample asks for growth when each is above the watermarks. -/
theorem not_staleAsks_iff (taken : Nat) :
    ¬ system.controller.StaleAsks config system.now system.machine.snapshot
        taken ↔
      ∀ entry ∈ system.controller.staleRecent config system.now taken,
        config.swapExhausted
          (system.machine.snapshot.withFree entry.2.swapFree) = false ∧
        (config.memoryHigh (system.controller.worstRecent config system.now
            system.machine.snapshot) = true →
          config.swapRoomy
            (system.machine.snapshot.withFree entry.2.swapFree) = true) := by
  simp only [SwapController.StaleAsks, not_exists, not_and, not_or,
    Bool.not_eq_true, Bool.not_eq_false]

/-- The plans of a job grow on fresh readings exactly when the stale samples
they look at are above the watermarks. -/
theorem growsOnFresh_iff :
    GrowsOnFresh config system disk ↔ StaleIsEnough config system disk := by
  constructor
  · intro fresh taken grown quiet room quietSince
    rw [← not_staleAsks_iff]
    intro asks
    have grows := fresh.notStale taken grown quiet
      ((plan_shouldGrow_iff quietSince).mpr ⟨room, asks⟩)
    rw [GrowthConfig.decideGrowth_isOk_iff_canGrow, quietSince] at grows
    cases grows.2
  · intro enough
    constructor
    · intro taken grown quiet grows
      by_contra stale
      have decision : (system.plan config disk).shouldGrow =
          (config.decideGrowth (system.controller.worstRecent config system.now
            system.machine.snapshot) system.controller.swapEta disk).isOk := rfl
      have room : config.CanGrow system.machine.snapshot disk := by
        rw [decision] at grows
        exact ((config.decideGrowth_isOk_iff_canGrow _ _ _).mp grows).1
      rw [GrowthConfig.decideGrowth_isOk_iff_canGrow] at stale
      have quietSince : (config.trigger (system.controller.worstSince config
          system.now system.machine.snapshot taken)
            system.controller.swapEta).isOk = false :=
        Bool.eq_false_iff.mpr fun asks => stale ⟨room, asks⟩
      have asks := ((plan_shouldGrow_iff quietSince).mp grows).2
      exact (not_staleAsks_iff taken).mpr
        (enough taken grown quiet room quietSince) asks
    · intro taken grown recovered
      obtain ⟨quiet, quietSince⟩ := recovered.quiet
      rw [Bool.eq_false_iff]
      intro grows
      obtain ⟨room, asks⟩ := (plan_shouldGrow_iff quietSince).mp grows
      exact (not_staleAsks_iff taken).mpr
        (enough taken grown quiet room quietSince) asks

end Plan

/-! ## Runs -/

/-- The plan of a step, if it makes one, grows on fresh readings. -/
def PlansOnFresh (config : GrowthConfig) (system : HeadroomSystem) :
    HeadroomMove → Prop
  | .ensure elapsed disk _ =>
    system.queued ≠ 0 → GrowsOnFresh config (system.wait elapsed) disk
  | .sample _ | .tick _ _ | .request | .release _ _ | .demand _ _ _ => True

/-- The plan of a step, if it makes one, looks at stale samples only where
these are above the watermarks. -/
def PlansWithEnough (config : GrowthConfig) (system : HeadroomSystem) :
    HeadroomMove → Prop
  | .ensure elapsed disk _ =>
    system.queued ≠ 0 → StaleIsEnough config (system.wait elapsed) disk
  | .sample _ | .tick _ _ | .request | .release _ _ | .demand _ _ _ => True

/-- In a run a growth is never followed by one that only samples from before it
ask for, exactly when no plan looks at such a sample below the watermarks of the
present swap. -/
theorem one_growth_per_dip (config : GrowthConfig) (machine : SwapMachine)
    (now : ℚ) (moves : List HeadroomMove) :
    Runs.EveryStep (step config) (PlansOnFresh config) (start machine now)
        moves ↔
      Runs.EveryStep (step config) (PlansWithEnough config)
        (start machine now) moves := by
  apply Runs.everyStep_congr
  intro system move
  cases move with
  | ensure elapsed disk outcomes => exact imp_congr_right fun _ => growsOnFresh_iff
  | sample | tick | request | release | demand => rfl

/-- Eight gigabytes of memory beside two gigabytes of swap, almost all used. -/
def dippedMachine : SwapMachine where
  memTotal := 8 * gigabyte
  memAvailable := gigabyte
  anonPages := 7 * gigabyte
  devices := [⟨⟨"/", "swap.img"⟩, 2 * gigabyte, 2 * gigabyte - 100 * megabyte⟩]
  files := []
  disk := ⟨100 * gigabyte, 80 * gigabyte, "ext4"⟩

/-- One dip under critical pressure: growth, all memory given back, and the next
urgent slot ten seconds later. -/
def dip : List HeadroomMove :=
  [.sample 0, .tick 1000 true, .ensure 0 dippedMachine.disk SwapSystem.bringsUp,
    .demand (7 * gigabyte) gigabyte fun _ => 0,
    .sample 10, .tick 1010 true]

def secondPlan : HeadroomMove :=
  .ensure 0 dippedMachine.disk SwapSystem.bringsUp

/-- The sample of the dip is still in the window ten seconds after the growth,
and read against the enlarged swap: a second file is added to four gigabytes of
free swap. -/
theorem dip_grows_twice :
    ¬ Runs.EveryStep (step SwapSystem.growing)
        (PlansOnFresh SwapSystem.growing) (start dippedMachine 0)
        (dip ++ [secondPlan]) ∧
      (Runs.run (step SwapSystem.growing) (start dippedMachine 0)
        dip).machine.snapshot.swapFree = 4 * gigabyte ∧
      (Runs.run (step SwapSystem.growing) (start dippedMachine 0)
        (dip ++ [secondPlan])).machine.snapshot.swapTotal = 6 * gigabyte := by
  refine ⟨?_, by decide +kernel, by decide +kernel⟩
  intro fresh
  obtain ⟨_, last, _⟩ := (Runs.everyStep_append _ _ _).mp fresh
  have calm := (last (by decide +kernel)).notRecovered 1 (by decide +kernel)
    (by unfold Recovered; decide +kernel)
  have grows : (((Runs.run (step SwapSystem.growing) (start dippedMachine 0)
      dip).wait 0).plan SwapSystem.growing dippedMachine.disk).shouldGrow =
        true := by decide +kernel
  rw [grows] at calm
  cases calm

end HeadroomSystem

end SmarTune
