import SmarTune.Controller.SwapRuns

/-!
# The caps on swap growth

Each file `grow` adds keeps to the step, the ratio cap and the disk reserve it
was planned with, whatever window it was planned on.  Over a run of growths and
releases the total of swap stays at or below its share of memory.
-/

namespace SmarTune

/-- The most swap a machine may have. -/
def GrowthConfig.maxSwapBytes (config : GrowthConfig) (memTotal : Nat) : Int :=
  pyInt (memTotal * config.maxSwapRatio)

/-- What the environment gives to one plan and its growth. -/
structure GrowthRound where
  /-- The window and the shrink timer. -/
  controller : SwapController
  now : ℚ
  /-- The disk when the plan is made. -/
  planDisk : DiskSpace
  /-- The disk when it is carried out. -/
  growDisk : DiskSpace
  dryRun : Bool
  /-- The managed directory could be prepared. -/
  prepared : Bool
  /-- What `mkswap` and `swapon` leave unused of a file that comes up. -/
  overhead : Allocator → Option Nat

namespace GrowthRound

variable (round : GrowthRound) (config : GrowthConfig) (machine : SwapMachine)

/-- The plan of the round. -/
def plan : GrowthPlan :=
  round.controller.planGrowth config round.now machine.snapshot round.planDisk

/-- The answers to `grow`: a file never brings up more swap than its size. -/
def outcomes : GrowOutcomes where
  prepared := round.prepared
  swapon := fun allocator => (round.overhead allocator).map fun unused =>
    (round.plan config machine).growBytes.toNat - unused

/-- `plan_growth`, then `grow`. -/
def grow : GrowResult × SwapMachine :=
  { machine with disk := round.growDisk }.grow config
    (round.plan config machine) round.dryRun (round.outcomes config machine)

/-- The growth of the round keeps to its caps. -/
structure WithinCaps : Prop where
  planned : (round.plan config machine).shouldGrow = true
  positive : 0 < (round.plan config machine).growBytes
  step : (round.plan config machine).growBytes ≤
    pyInt (machine.memTotal * config.stepRatio)
  total : machine.snapshot.swapTotal + (round.plan config machine).growBytes ≤
    config.maxSwapBytes machine.memTotal
  reserve : config.diskReserveBytes round.planDisk ≤
    round.growDisk.available - (round.plan config machine).growBytes
  filesystem : config.supportsFs round.growDisk.fstype = true

variable {round config machine}

/-- What a plan that asks for growth has checked. -/
theorem plan_bounds (planned : (round.plan config machine).shouldGrow = true) :
    0 < (round.plan config machine).growBytes ∧
      (round.plan config machine).growBytes ≤
        pyInt (machine.memTotal * config.stepRatio) ∧
      machine.snapshot.swapTotal + (round.plan config machine).growBytes ≤
        config.maxSwapBytes machine.memTotal := by
  have decision := planned
  simp only [plan, SwapController.planGrowth] at decision
  obtain ⟨_, _, _, _, positive⟩ :=
    (GrowthConfig.decideGrowth_isOk_iff _ _ _ _).mp decision
  have size : (round.plan config machine).growBytes =
      config.growBytes (round.controller.worstRecent config round.now
        machine.snapshot) round.planDisk := by
    simp [plan, SwapController.planGrowth, decision]
  rw [size]
  simp only [GrowthConfig.growBytes, GrowthConfig.stepBytes,
    GrowthConfig.ratioCapBytes, GrowthConfig.maxSwapBytes,
    SwapController.worstRecent, SwapMachine.snapshot] at positive ⊢
  omega

theorem grow_cases (round : GrowthRound) (config : GrowthConfig)
    (machine : SwapMachine) :
    (round.grow config machine).2 = { machine with disk := round.growDisk } ∨
      (round.WithinCaps config machine ∧
        ∃ path, ∃ size : Nat, size ≤ (round.plan config machine).growBytes ∧
          (round.grow config machine).2 =
            { machine with disk := round.growDisk }.switchOn path size) := by
  unfold grow SwapMachine.grow
  split
  · exact Or.inl rfl
  next planned =>
  split
  · exact Or.inl rfl
  next allowed =>
  split
  · exact Or.inl rfl
  next room =>
  simp only [Bool.not_eq_true, Bool.not_eq_false'] at planned allowed
  obtain ⟨positive, step, total⟩ := plan_bounds planned
  have within : round.WithinCaps config machine :=
    ⟨planned, positive, step, total, by
      have reserve_eq : (round.plan config machine).diskReserveBytes =
          config.diskReserveBytes round.planDisk := rfl
      simp only at room
      omega, allowed⟩
  simp only
  split
  · exact Or.inl rfl
  split
  · exact Or.inl rfl
  have fits : ∀ {allocator size},
      (round.outcomes config machine).swapon allocator = some size →
        size ≤ (round.plan config machine).growBytes := by
    intro allocator size up
    obtain ⟨unused, _, rfl⟩ := Option.map_eq_some_iff.mp up
    omega
  split
  · next up => exact Or.inr ⟨within, _, _, fits up, rfl⟩
  split
  · next up => exact Or.inr ⟨within, _, _, fits up, rfl⟩
  · exact Or.inl rfl

end GrowthRound

/-! ## The total of swap -/

/-- The sizes of swap devices, summed. -/
def totalSwap (devices : List SwapDevice) : Nat :=
  devices.foldr (fun device total => device.sizeBytes + total) 0

@[simp] theorem totalSwap_nil : totalSwap [] = 0 := rfl

@[simp] theorem totalSwap_cons (device : SwapDevice)
    (devices : List SwapDevice) :
    totalSwap (device :: devices) = device.sizeBytes + totalSwap devices := rfl

@[simp] theorem totalSwap_append (first second : List SwapDevice) :
    totalSwap (first ++ second) = totalSwap first + totalSwap second := by
  induction first with
  | nil => simp
  | cons device devices ih =>
    simp only [List.cons_append, totalSwap_cons, ih]
    omega

theorem totalSwap_filter_le (keep : SwapDevice → Bool)
    (devices : List SwapDevice) :
    totalSwap (devices.filter keep) ≤ totalSwap devices := by
  induction devices with
  | nil => simp
  | cons device devices ih =>
    rw [List.filter_cons]
    split
    · simpa using ih
    · simp only [totalSwap_cons]
      omega

/-- How full a device is does not change its size. -/
theorem totalSwap_map_usedBytes (used : SwapDevice → Nat)
    (devices : List SwapDevice) :
    totalSwap (devices.map fun device =>
      { device with usedBytes := used device }) = totalSwap devices := by
  induction devices with
  | nil => rfl
  | cons device devices ih => simpa using ih

namespace SwapMachine

variable {machine : SwapMachine}

/-- The machine has the memory it had, and no more swap. -/
structure Shrinks (before after : SwapMachine) : Prop where
  memTotal : after.memTotal = before.memTotal
  total : after.snapshot.swapTotal ≤ before.snapshot.swapTotal

namespace Shrinks

variable {before middle after : SwapMachine}

theorem refl (machine : SwapMachine) : Shrinks machine machine :=
  ⟨rfl, le_rfl⟩

theorem trans (first : Shrinks before middle) (second : Shrinks middle after) :
    Shrinks before after :=
  ⟨second.memTotal.trans first.memTotal, second.total.trans first.total⟩

end Shrinks

theorem shrinks_switchOff (machine : SwapMachine) (device : SwapDevice) :
    Shrinks machine (machine.switchOff device) :=
  ⟨rfl, totalSwap_filter_le _ machine.devices⟩

theorem shrinks_releaseEach (options : ReleaseOptions)
    (swapoff : SwapDevice → Bool) (devices : List SwapDevice) (headroom : Int)
    (released : Nat) (machine : SwapMachine) :
    Shrinks machine
      (releaseEach options swapoff devices headroom released machine).2 := by
  induction devices generalizing headroom released machine with
  | nil => exact .refl machine
  | cons device rest ih =>
    simp only [releaseEach]
    split
    · exact ih ..
    split
    · exact ih ..
    split
    · exact ih ..
    split
    · exact ih ..
    split
    · exact (shrinks_switchOff machine device).trans (ih ..)
    · exact ih ..

theorem foldl_discard_memTotal (names : List String) (machine : SwapMachine) :
    (names.foldl discard machine).memTotal = machine.memTotal := by
  induction names generalizing machine with
  | nil => rfl
  | cons name rest ih => exact ih (machine.discard name)

theorem shrinks_release (machine : SwapMachine) (config : GrowthConfig)
    (options : ReleaseOptions) (swapoff : SwapDevice → Bool) :
    Shrinks machine (machine.release config options swapoff).2 := by
  have each := shrinks_releaseEach options swapoff
    (machine.emptiestFirst config) machine.memAvailable 0 machine
  simp only [release]
  split
  · exact each
  · refine each.trans ⟨foldl_discard_memTotal _ _, le_of_eq ?_⟩
    rw [(snapshot_foldl_discard _ _).1]

end SwapMachine

/-! ## Runs -/

/-- What changes the swap of a machine, and what happens around it. -/
inductive SwapCapMove
  | grow (round : GrowthRound)
  | release (options : ReleaseOptions) (swapoff : SwapDevice → Bool)
  /-- Programs take and free memory, pages move in and out of swap, files of
  the managed directory come and go. -/
  | demand (memAvailable anonPages : Nat) (used : SwapDevice → Nat)
      (files : List String)

namespace SwapMachine

def capStep (config : GrowthConfig) (machine : SwapMachine) :
    SwapCapMove → SwapMachine
  | .grow round => (round.grow config machine).2
  | .release options swapoff => (machine.release config options swapoff).2
  | .demand memAvailable anonPages used files =>
    { machine with
      memAvailable := memAvailable
      anonPages := anonPages
      devices := machine.devices.map fun device =>
        { device with usedBytes := used device }
      files := files }

/-- If the step grows swap, it keeps to the caps. -/
def GrowsWithinCaps (config : GrowthConfig) (machine : SwapMachine) :
    SwapCapMove → Prop
  | .grow round =>
    (round.grow config machine).2.devices ≠ machine.devices →
      round.WithinCaps config machine
  | .release _ _ | .demand _ _ _ _ => True

/-- Swap is at or below its share of memory. -/
def UnderCap (config : GrowthConfig) (memTotal : Nat)
    (machine : SwapMachine) : Prop :=
  machine.memTotal = memTotal ∧
    machine.snapshot.swapTotal ≤ config.maxSwapBytes memTotal

variable {config : GrowthConfig} {machine : SwapMachine} {memTotal : Nat}

theorem growsWithinCaps (move : SwapCapMove) :
    machine.GrowsWithinCaps config move := by
  cases move with
  | release options swapoff => trivial
  | demand memAvailable anonPages used files => trivial
  | grow round =>
    intro grew
    rcases round.grow_cases config machine with same | ⟨within, _⟩
    · rw [same] at grew
      exact absurd rfl grew
    · exact within

theorem UnderCap.shrinks {after : SwapMachine}
    (under : machine.UnderCap config memTotal)
    (shrinks : Shrinks machine after) :
    after.UnderCap config memTotal := by
  obtain ⟨memory, total⟩ := under
  have fewer := shrinks.total
  exact ⟨shrinks.memTotal.trans memory, by omega⟩

theorem underCap_step (move : SwapCapMove)
    (under : machine.UnderCap config memTotal) :
    (machine.capStep config move).UnderCap config memTotal := by
  cases move with
  | release options swapoff =>
    exact under.shrinks (shrinks_release machine config options swapoff)
  | demand memAvailable anonPages used files =>
    exact under.shrinks ⟨rfl, le_of_eq (totalSwap_map_usedBytes used _)⟩
  | grow round =>
    rcases round.grow_cases config machine with
      same | ⟨within, path, size, fits, grown⟩
    · rw [capStep, same]
      exact under
    · rw [capStep, grown]
      obtain ⟨memory, _⟩ := under
      refine ⟨memory, ?_⟩
      have total : ({ machine with disk := round.growDisk }.switchOn path
          size).snapshot.swapTotal = machine.snapshot.swapTotal + size :=
        totalSwap_append machine.devices _
      have cap := within.total
      rw [memory] at cap
      omega

/-- In every run of plans, growths and releases each growth keeps to the caps
it was planned with, and swap that starts under its share of memory stays
there. -/
theorem growth_within_caps (config : GrowthConfig) (machine : SwapMachine)
    (moves : List SwapCapMove) :
    Runs.EveryStep (capStep config) (GrowsWithinCaps config) machine moves ∧
      (machine.snapshot.swapTotal ≤ config.maxSwapBytes machine.memTotal →
        (Runs.run (capStep config) machine moves).snapshot.swapTotal ≤
          config.maxSwapBytes machine.memTotal) := by
  constructor
  · exact Runs.everyStep_of_forall (fun _ move => growsWithinCaps move) _ _
  · intro under
    exact (Runs.invariant_run (UnderCap config machine.memTotal)
      (fun _ move under _ => underCap_step move under) ⟨rfl, under⟩
      (Runs.everyStep_of_forall (fun _ _ => trivial) _ _)).2

/-- A round on a disk with room, whose file comes up. -/
def roomyRound : GrowthRound where
  controller := .fresh
  now := 0
  planDisk := ⟨100 * gigabyte, 80 * gigabyte, "ext4"⟩
  growDisk := ⟨100 * gigabyte, 80 * gigabyte, "ext4"⟩
  dryRun := false
  prepared := true
  overhead := fun _ => some 4096

/-- Nine growths of a machine without swap leave it under its cap. -/
theorem growth_within_caps_from_no_swap :
    (Runs.run (capStep SwapSystem.growing) (SwapSystem.idleMachine [] [])
        (List.replicate 9 (.grow roomyRound))).snapshot.swapTotal ≤
      SwapSystem.growing.maxSwapBytes (8 * gigabyte) :=
  (growth_within_caps SwapSystem.growing (SwapSystem.idleMachine [] [])
    (List.replicate 9 (.grow roomyRound))).2 (by decide +kernel)

end SwapMachine

end SmarTune
