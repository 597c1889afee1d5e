import SmarTune.Balancer.Rates
import Mathlib.Data.Fintype.Basic

/-!
# Traffic shaping of a NIC

`NetworkController` shapes each direction of a NIC with four HTB classes and
remembers one limit stage for it.  Under pressure the stage rises and the low
and then the high class is capped; it falls as they recover.  The kernel takes
every command about a class that exists.
-/

namespace SmarTune

/-! ## Tiers and classes -/

/-- `NETWORK_PRIORITIES`. -/
inductive NetworkTier
  | critical
  | high
  | low
  | system
  deriving DecidableEq, Repr

/-- `normalize_net_priority`. -/
def normalizeNetPriority (priority : String) : NetworkTier :=
  if priority = "critical" then .critical
  else if priority = "high" then .high
  else if priority = "system" then .system
  else .low

namespace NetworkTier

/-- The minor numbers of `_get_classid`. -/
def minor : NetworkTier → Nat
  | .critical => 10
  | .high => 20
  | .low => 30
  | .system => 5

theorem minor_injective : Function.Injective minor := by
  intro left right same
  cases left <;> cases right <;> first | rfl | cases same

/-- `_tier_rank`. -/
def rank : NetworkTier → Nat
  | .low => 1
  | .high => 2
  | .critical => 3
  | .system => 4

end NetworkTier

/-- An HTB class id: the handle of the tree and a minor number. -/
abbrev ClassId : Type := Nat × Nat

/-- `_get_classid`. -/
def getClassid (handle : Nat) (tier : NetworkTier) : ClassId :=
  (handle, tier.minor)

/-- The two directions of a NIC. -/
inductive Direction
  | egress
  | ingress
  deriving DecidableEq, Repr

instance : Fintype Direction where
  elems := {.egress, .ingress}
  complete direction := by cases direction <;> simp

/-- A band of a tier, as ratios of the NIC's total bandwidth. -/
structure TierBand where
  min : ℚ
  max : ℚ

/-- `_normalized_pps_policy`. -/
structure PpsPolicy where
  enableRpsEscalation : Bool
  enableNetdevBudgetBump : Bool
  collectiveHarmThreshold : ℚ
  appPpsHigh : ℚ
  ppsCapRate : Int
  ppsCapBurst : Int

/-- `_DEFAULT_NETWORK_PPS_POLICY`, with the defaults of the optional keys. -/
def defaultNetworkPpsPolicy : PpsPolicy where
  enableRpsEscalation := true
  enableNetdevBudgetBump := false
  collectiveHarmThreshold := 1 / 2
  appPpsHigh := 50000
  ppsCapRate := 10000
  ppsCapBurst := 2000

/-- The network part of the configuration. -/
structure NetworkConfig where
  /-- `config_network_bw`. -/
  bands : NetworkTier → Option TierBand
  /-- `network_burst_map`. -/
  bursts : NetworkTier → Option String
  /-- `network_thresholds["critical"]`. -/
  criticalThreshold : ℚ
  policy : PpsPolicy
  enableAppPpsPolice : Bool

namespace NetworkConfig

/-- The bands used when none are configured. -/
def defaultBands : NetworkTier → Option TierBand
  | .critical => some ⟨6 / 10, 9 / 10⟩
  | .high => some ⟨3 / 10, 8 / 10⟩
  | .low => some ⟨1 / 10, 1⟩
  | .system => some ⟨5 / 100, 1 / 10⟩

/-- The default bands and policy. -/
def standard (enableAppPpsPolice : Bool) : NetworkConfig where
  bands := defaultBands
  bursts _ := none
  criticalThreshold := 8 / 10
  policy := defaultNetworkPpsPolicy
  enableAppPpsPolice := enableAppPpsPolice

variable (config : NetworkConfig) (totalBw : Int)

def band (tier : NetworkTier) : TierBand :=
  ((config.bands tier).or (config.bands .low)).getD ⟨0, 0⟩

/-- The minimum of `_get_class_bandwidth`. -/
def minBw (tier : NetworkTier) : Int := pyInt ((config.band tier).min * totalBw)

/-- The maximum of `_get_class_bandwidth`. -/
def maxBw (tier : NetworkTier) : Int := pyInt ((config.band tier).max * totalBw)

/-- `half_bw`. -/
def halfBw (tier : NetworkTier) : Int :=
  pyInt (((config.maxBw totalBw tier - config.minBw totalBw tier : Int) : ℚ) / 2 +
    config.minBw totalBw tier)

def burst (tier : NetworkTier) : String := (config.bursts tier).getD "16k"

end NetworkConfig

/-! ## The classes in the kernel -/

/-- An HTB class, rates in kbit/s. -/
structure HtbClass where
  rate : Int
  ceil : Int
  burst : String
  deriving DecidableEq, Repr

abbrev HtbClasses : Type := String → ClassId → Option HtbClass

namespace HtbClasses

variable (classes : HtbClasses)

/-- `tc qdisc del ... root` of the tree with a handle. -/
def deleteTree (device : String) (handle : Nat) : HtbClasses :=
  fun other classId =>
    if other = device ∧ classId.1 = handle then none else classes other classId

/-- `tc class add`. -/
def add (device : String) (classId : ClassId) (value : HtbClass) :
    HtbClasses :=
  fun other otherId =>
    if other = device ∧ otherId = classId then some value
    else classes other otherId

/-- `tc class change`, or `_limit_network_class`. -/
def change (device : String) (classId : ClassId) (value : HtbClass) :
    HtbClasses :=
  if (classes device classId).isSome then classes.add device classId value
  else classes

@[simp] theorem add_self (device : String) (classId : ClassId)
    (value : HtbClass) :
    classes.add device classId value device classId = some value :=
  if_pos ⟨rfl, rfl⟩

variable {classId other : ClassId}

theorem add_of_ne (different : other ≠ classId) (device elsewhere : String)
    (value : HtbClass) :
    classes.add device classId value elsewhere other =
      classes elsewhere other :=
  if_neg fun same => different same.2

theorem change_self {device : String}
    (present : (classes device classId).isSome) (value : HtbClass) :
    classes.change device classId value device classId = some value := by
  rw [change, if_pos present, add_self]

theorem change_of_ne (different : other ≠ classId) (device elsewhere : String)
    (value : HtbClass) :
    classes.change device classId value elsewhere other =
      classes elsewhere other := by
  unfold change
  split
  · exact classes.add_of_ne different device elsewhere value
  · rfl

end HtbClasses

/-! ## A shaper -/

/-- The throttling state of one direction. -/
structure Throttle where
  limitStage : Nat
  lastLimitTime : ℚ
  lastRecoverTime : ℚ

/-- `_NicShaper`. -/
structure NicShaper where
  dev : String
  ifbDev : String
  handleId : Nat
  totalBw : Int
  tx : Throttle
  rx : Throttle

namespace NicShaper

/-- A new shaper. -/
def init (dev ifbDev : String) (handleId : Nat) (totalBw : Int) : NicShaper :=
  ⟨dev, ifbDev, handleId, totalBw, ⟨0, 0, 0⟩, ⟨0, 0, 0⟩⟩

variable (shaper : NicShaper)

def device : Direction → String
  | .egress => shaper.dev
  | .ingress => shaper.ifbDev

/-- The handle of a direction's tree. -/
def handle : Direction → Nat
  | .egress => shaper.handleId
  | .ingress => shaper.handleId + 1

def classid (direction : Direction) (tier : NetworkTier) : ClassId :=
  getClassid (shaper.handle direction) tier

def throttle : Direction → Throttle
  | .egress => shaper.tx
  | .ingress => shaper.rx

def setStage (direction : Direction) (stage : Nat) : NicShaper :=
  match direction with
  | .egress => { shaper with tx.limitStage := stage }
  | .ingress => { shaper with rx.limitStage := stage }

def setLastLimit (direction : Direction) (time : ℚ) : NicShaper :=
  match direction with
  | .egress => { shaper with tx.lastLimitTime := time }
  | .ingress => { shaper with rx.lastLimitTime := time }

def setLastRecover (direction : Direction) (time : ℚ) : NicShaper :=
  match direction with
  | .egress => { shaper with tx.lastRecoverTime := time }
  | .ingress => { shaper with rx.lastRecoverTime := time }

@[simp] theorem throttle_setStage (direction other : Direction) (stage : Nat) :
    ((shaper.setStage direction stage).throttle other).limitStage =
      if other = direction then stage
      else (shaper.throttle other).limitStage := by
  cases direction <;> cases other <;> rfl

@[simp] theorem stage_setLastLimit (direction other : Direction) (time : ℚ) :
    ((shaper.setLastLimit direction time).throttle other).limitStage =
      (shaper.throttle other).limitStage := by
  cases direction <;> cases other <;> rfl

@[simp] theorem stage_setLastRecover (direction other : Direction) (time : ℚ) :
    ((shaper.setLastRecover direction time).throttle other).limitStage =
      (shaper.throttle other).limitStage := by
  cases direction <;> cases other <;> rfl

/-- The device and the trees of a shaper, which never change. -/
def identity : String × String × Nat × Int :=
  (shaper.dev, shaper.ifbDev, shaper.handleId, shaper.totalBw)

@[simp] theorem identity_setStage (direction : Direction) (stage : Nat) :
    (shaper.setStage direction stage).identity = shaper.identity := by
  cases direction <;> rfl

@[simp] theorem identity_setLastLimit (direction : Direction) (time : ℚ) :
    (shaper.setLastLimit direction time).identity = shaper.identity := by
  cases direction <;> rfl

@[simp] theorem identity_setLastRecover (direction : Direction) (time : ℚ) :
    (shaper.setLastRecover direction time).identity = shaper.identity := by
  cases direction <;> rfl

variable (config : NetworkConfig) (classes : HtbClasses)

/-- The class of a tier as `setup_tc_classes_and_filters` adds it. -/
def tierClass (tier : NetworkTier) : HtbClass :=
  ⟨config.minBw shaper.totalBw tier, config.maxBw shaper.totalBw tier,
    config.burst tier⟩

def rootClass : HtbClass := ⟨shaper.totalBw, shaper.totalBw, "128k"⟩

def addTier (classes : HtbClasses) (tier : NetworkTier) : HtbClasses :=
  (classes.add shaper.dev (shaper.classid .egress tier)
      (shaper.tierClass config tier)).add
    shaper.ifbDev (shaper.classid .ingress tier) (shaper.tierClass config tier)

/-- The classes that `setup_tc_classes_and_filters` leaves for a shaper. -/
def setupClasses : HtbClasses :=
  [NetworkTier.critical, .high, .low, .system].foldl (shaper.addTier config)
    ((((classes.deleteTree shaper.dev shaper.handleId).deleteTree
      shaper.ifbDev (shaper.handleId + 1)).add
        shaper.dev (shaper.handleId, 1) shaper.rootClass).add
          shaper.ifbDev (shaper.handleId + 1, 1) shaper.rootClass)

/-- `_apply_bandwidth_limit`. -/
def applyBandwidthLimit (direction : Direction)
    (rates : ClassId → ℚ) : NicShaper × HtbClasses :=
  let stage := (shaper.throttle direction).limitStage
  let device := shaper.device direction
  let key : NetworkTier := if stage = 0 ∨ stage = 1 then .low else .high
  let minBw := config.minBw shaper.totalBw key
  let halfBw := config.halfBw shaper.totalBw key
  let classid := shaper.classid direction key
  -- the rate below which the class is cut in full, and the stages reached
  let (stageTransitionPoint, stageFull, stageHalf) :=
    match stage with
    | 0 => (halfBw, 2, 1)
    | 1 => (minBw, 2, 2)
    | 2 => (halfBw, 4, 3)
    | 3 => (minBw, 4, 4)
    | _ => (minBw, 0, 0)
  let limit := fun ceil =>
    classes.change device classid ⟨minBw, ceil, config.burst key⟩
  if stage = 0 ∨ stage = 2 then
    if rates classid < stageTransitionPoint then
      (shaper.setStage direction stageFull, limit minBw)
    else
      (shaper.setStage direction (if halfBw ≠ minBw then stageHalf else stageFull),
        limit halfBw)
  else if stage = 1 ∨ stage = 3 then
    (shaper.setStage direction stageFull, limit minBw)
  else (shaper, classes)

/-- `_recover_network_pressure`. -/
def recoverNetworkPressure (direction : Direction) (rates : ClassId → ℚ)
    (configTotalRate actualTotalBw : ℚ) : NicShaper × HtbClasses :=
  let stage := (shaper.throttle direction).limitStage
  let device := shaper.device direction
  let key : NetworkTier := if stage = 1 ∨ stage = 2 then .low else .high
  let minBw := config.minBw shaper.totalBw key
  let maxBw := config.maxBw shaper.totalBw key
  let halfBw := config.halfBw shaper.totalBw key
  let classid := shaper.classid direction key
  let criticalThreshold := config.criticalThreshold * configTotalRate
  -- the rate below which the class is restored in full, and the stages reached
  let (stageTransitionPoint, stageFull, stageHalf) :=
    match stage with
    | 1 => (halfBw, 0, 0)
    | 2 => (minBw, 0, 1)
    | 3 => (halfBw, 2, 2)
    | 4 => (minBw, 2, 3)
    | _ => (minBw, 0, 0)
  let limit := fun ceil =>
    classes.change device classid ⟨minBw, ceil, config.burst key⟩
  if 0 < stage then
    if rates classid < stageTransitionPoint * (9 / 10) then
      (shaper.setStage direction stageFull, limit maxBw)
    else
      let expectedTotalBw : ℚ :=
        if stage = 4 ∨ stage = 2 then halfBw + actualTotalBw - minBw
        else maxBw + actualTotalBw - halfBw
      if expectedTotalBw < criticalThreshold then
        (shaper.setStage direction stageHalf,
          limit (if stage = 4 ∨ stage = 2 then halfBw else maxBw))
      else (shaper, classes)
  else (shaper, classes)

theorem identity_applyBandwidthLimit (direction : Direction)
    (rates : ClassId → ℚ) :
    (shaper.applyBandwidthLimit config classes direction rates).1.identity =
      shaper.identity := by
  simp only [applyBandwidthLimit, apply_ite Prod.fst, apply_ite identity,
    identity_setStage, ite_self]

theorem identity_recoverNetworkPressure (direction : Direction)
    (rates : ClassId → ℚ) (configTotalRate actualTotalBw : ℚ) :
    (shaper.recoverNetworkPressure config classes direction rates
      configTotalRate actualTotalBw).1.identity = shaper.identity := by
  simp only [recoverNetworkPressure, apply_ite Prod.fst, apply_ite identity,
    identity_setStage, ite_self]

/-! ## What a stage stands for -/

def denotedCeil (stage : Nat) : NetworkTier → Int
  | .low =>
    match stage with
    | 0 => config.maxBw shaper.totalBw .low
    | 1 => config.halfBw shaper.totalBw .low
    | _ => config.minBw shaper.totalBw .low
  | .high =>
    match stage with
    | 0 | 1 | 2 => config.maxBw shaper.totalBw .high
    | 3 => config.halfBw shaper.totalBw .high
    | _ => config.minBw shaper.totalBw .high
  | tier => config.maxBw shaper.totalBw tier

def denotedClass (stage : Nat) (tier : NetworkTier) : HtbClass :=
  ⟨config.minBw shaper.totalBw tier, shaper.denotedCeil config stage tier,
    config.burst tier⟩

section Identity

variable {shaper} {other : NicShaper} (same : other.identity = shaper.identity)

include same

theorem device_congr (direction : Direction) :
    other.device direction = shaper.device direction := by
  obtain ⟨dev, ifbDev, -⟩ : _ ∧ _ ∧ _ := by
    simpa only [identity, Prod.mk.injEq] using same
  cases direction
  · exact dev
  · exact ifbDev

theorem handle_congr (direction : Direction) :
    other.handle direction = shaper.handle direction := by
  obtain ⟨-, -, handleId, -⟩ : _ ∧ _ ∧ _ ∧ _ := by
    simpa only [identity, Prod.mk.injEq] using same
  cases direction <;> simp only [handle, handleId]

theorem classid_congr (direction : Direction) (tier : NetworkTier) :
    other.classid direction tier = shaper.classid direction tier := by
  rw [classid, handle_congr same, classid]

theorem totalBw_congr : other.totalBw = shaper.totalBw := by
  obtain ⟨-, -, -, totalBw⟩ : _ ∧ _ ∧ _ ∧ _ := by
    simpa only [identity, Prod.mk.injEq] using same
  exact totalBw

theorem denotedClass_congr (config : NetworkConfig) (stage : Nat)
    (tier : NetworkTier) :
    other.denotedClass config stage tier =
      shaper.denotedClass config stage tier := by
  cases tier <;> simp only [denotedClass, denotedCeil, totalBw_congr same]

end Identity

/-- The classes in force in a direction are those its stage denotes. -/
structure InForce (direction : Direction) : Prop where
  stage_le : (shaper.throttle direction).limitStage ≤ 4
  classes_eq : ∀ tier,
    classes (shaper.device direction) (shaper.classid direction tier) =
      some (shaper.denotedClass config
        (shaper.throttle direction).limitStage tier)

/-- The stages between which a tier is limited: the low tier up to stage 2,
the high tier from there. -/
def Limits (key : NetworkTier) (stage : Nat) : Prop :=
  key = .low ∧ stage ≤ 2 ∨ key = .high ∧ 2 ≤ stage ∧ stage ≤ 4

/-- One class is given the ceil of the stage that is reached. -/
structure Moves (direction : Direction) (result : NicShaper × HtbClasses)
    (key : NetworkTier) (stage : Nat) : Prop where
  before : Limits key (shaper.throttle direction).limitStage
  after : Limits key stage
  shaper_eq : result.1 = shaper.setStage direction stage
  classes_eq : result.2 =
    classes.change (shaper.device direction) (shaper.classid direction key)
      (shaper.denotedClass config stage key)

variable {shaper config classes} {direction : Direction}

theorem stage_cases (inForce : shaper.InForce config classes direction) :
    (shaper.throttle direction).limitStage = 0 ∨
      (shaper.throttle direction).limitStage = 1 ∨
      (shaper.throttle direction).limitStage = 2 ∨
      (shaper.throttle direction).limitStage = 3 ∨
      (shaper.throttle direction).limitStage = 4 := by
  have bounded := inForce.stage_le
  omega

/-- A throttle caps the low class up to stage 2, then the high class. -/
theorem applyBandwidthLimit_cases
    (inForce : shaper.InForce config classes direction) (rates : ClassId → ℚ) :
    shaper.applyBandwidthLimit config classes direction rates =
        (shaper, classes) ∨
      ∃ key stage, shaper.Moves config classes direction
        (shaper.applyBandwidthLimit config classes direction rates) key
          stage := by
  rcases stage_cases inForce with stage | stage | stage | stage | stage <;>
    simp +decide only [applyBandwidthLimit, stage, reduceIte]
  · right
    split
    · exact ⟨.low, 2, by simp [Limits, stage], by simp [Limits], rfl, rfl⟩
    by_cases corner : config.halfBw shaper.totalBw .low =
        config.minBw shaper.totalBw .low
    · exact ⟨.low, 2, by simp [Limits, stage], by simp [Limits],
        by simp [corner], by simp [denotedClass, denotedCeil, corner]⟩
    · exact ⟨.low, 1, by simp [Limits, stage], by simp [Limits],
        by simp [corner], by simp [denotedClass, denotedCeil]⟩
  · exact .inr ⟨.low, 2, by simp [Limits, stage], by simp [Limits], rfl, rfl⟩
  · right
    split
    · exact ⟨.high, 4, by simp [Limits, stage], by simp [Limits], rfl, rfl⟩
    by_cases corner : config.halfBw shaper.totalBw .high =
        config.minBw shaper.totalBw .high
    · exact ⟨.high, 4, by simp [Limits, stage], by simp [Limits],
        by simp [corner], by simp [denotedClass, denotedCeil, corner]⟩
    · exact ⟨.high, 3, by simp [Limits, stage], by simp [Limits],
        by simp [corner], by simp [denotedClass, denotedCeil]⟩
  · exact .inr ⟨.high, 4, by simp [Limits, stage], by simp [Limits], rfl, rfl⟩
  · exact .inl trivial

theorem recoverNetworkPressure_cases
    (inForce : shaper.InForce config classes direction) (rates : ClassId → ℚ)
    (configTotalRate actualTotalBw : ℚ) :
    shaper.recoverNetworkPressure config classes direction rates
          configTotalRate actualTotalBw = (shaper, classes) ∨
      ∃ key stage, shaper.Moves config classes direction
        (shaper.recoverNetworkPressure config classes direction rates
          configTotalRate actualTotalBw) key stage := by
  rcases stage_cases inForce with stage | stage | stage | stage | stage <;>
    simp +decide only [recoverNetworkPressure, stage, reduceIte]
  · exact .inl trivial
  · split
    · exact .inr ⟨.low, 0, by simp [Limits, stage], by simp [Limits], rfl, rfl⟩
    split
    · exact .inr ⟨.low, 0, by simp [Limits, stage], by simp [Limits], rfl, rfl⟩
    · exact .inl rfl
  · split
    · exact .inr ⟨.low, 0, by simp [Limits, stage], by simp [Limits], rfl, rfl⟩
    split
    · exact .inr ⟨.low, 1, by simp [Limits, stage], by simp [Limits], rfl, rfl⟩
    · exact .inl rfl
  · split
    · exact .inr ⟨.high, 2, by simp [Limits, stage], by simp [Limits], rfl, rfl⟩
    split
    · exact .inr ⟨.high, 2, by simp [Limits, stage], by simp [Limits], rfl, rfl⟩
    · exact .inl rfl
  · split
    · exact .inr ⟨.high, 2, by simp [Limits, stage], by simp [Limits], rfl, rfl⟩
    split
    · exact .inr ⟨.high, 3, by simp [Limits, stage], by simp [Limits], rfl, rfl⟩
    · exact .inl rfl

theorem InForce.congr {other : NicShaper}
    (inForce : shaper.InForce config classes direction)
    (same : other.identity = shaper.identity)
    (stage : (other.throttle direction).limitStage =
      (shaper.throttle direction).limitStage) :
    other.InForce config classes direction := by
  constructor
  · rw [stage]
    exact inForce.stage_le
  · intro tier
    rw [stage, device_congr same, classid_congr same, denotedClass_congr same]
    exact inForce.classes_eq tier

variable {tier key : NetworkTier} {result : NicShaper × HtbClasses}
  {stage : Nat}

theorem classid_ne {other : Direction} {otherTier : NetworkTier}
    (different : other ≠ direction ∨ otherTier ≠ tier) :
    shaper.classid other otherTier ≠ shaper.classid direction tier := by
  intro same
  obtain ⟨handles, minors⟩ := Prod.mk.inj same
  rcases different with different | different
  · cases other <;> cases direction <;> simp [handle] at handles different
  · exact different (NetworkTier.minor_injective minors)

theorem Moves.denotedClass_eq
    (moves : shaper.Moves config classes direction result key stage)
    (different : tier ≠ key) :
    shaper.denotedClass config stage tier = shaper.denotedClass config
        (shaper.throttle direction).limitStage tier := by
  have before := moves.before
  have after := moves.after
  generalize (shaper.throttle direction).limitStage = now at before
  rcases before with ⟨rfl, now_le⟩ | ⟨rfl, now_ge, -⟩
  · simp only [Limits, true_and, reduceCtorEq, false_and, or_false] at after
    cases tier with
    | low => exact absurd rfl different
    | critical | system => rfl
    | high =>
      have high : ∀ stage ≤ 2, shaper.denotedClass config stage .high =
          shaper.denotedClass config 0 .high := by
        intro stage bounded
        obtain rfl | rfl | rfl : stage = 0 ∨ stage = 1 ∨ stage = 2 := by
          omega
        all_goals rfl
      rw [high stage after, high now now_le]
  · simp only [Limits, true_and, reduceCtorEq, false_and, false_or] at after
    cases tier with
    | high => exact absurd rfl different
    | critical | system => rfl
    | low =>
      have low : ∀ stage ≥ 2, shaper.denotedClass config stage .low =
          shaper.denotedClass config 2 .low := by
        intro stage bounded
        obtain ⟨more, rfl⟩ := Nat.exists_eq_add_of_le' bounded
        rfl
      rw [low stage after.1, low now now_ge]

theorem Moves.inForce
    (moves : shaper.Moves config classes direction result key stage)
    (inForce : shaper.InForce config classes direction) :
    result.1.InForce config result.2 direction := by
  have bounded : stage ≤ 4 := by
    rcases moves.after with ⟨-, bounded⟩ | ⟨-, -, bounded⟩ <;> omega
  have classesEq : ∀ tier, result.2 (shaper.device direction)
      (shaper.classid direction tier) =
        some (shaper.denotedClass config stage tier) := by
    intro tier
    rw [moves.classes_eq]
    by_cases here : tier = key
    · subst here
      apply HtbClasses.change_self
      rw [inForce.classes_eq]
      rfl
    · rw [HtbClasses.change_of_ne _ (classid_ne (.inr here)),
        inForce.classes_eq, moves.denotedClass_eq here]
  rw [moves.shaper_eq]
  constructor
  · simpa using bounded
  · intro tier
    rw [throttle_setStage, if_pos rfl,
      denotedClass_congr (shaper.identity_setStage _ _)]
    cases direction <;> exact classesEq tier

/-! ### The order of the tiers -/

def ceil? (shaper : NicShaper) (classes : HtbClasses) (direction : Direction)
    (tier : NetworkTier) : Option Int :=
  (classes (shaper.device direction) (shaper.classid direction tier)).map
    HtbClass.ceil

/-- The high class changes only while the low class is at its minimum, and the
low class only while the high class is at its maximum. -/
structure Ordered (shaper : NicShaper) (config : NetworkConfig)
    (classes : HtbClasses) (direction : Direction)
    (after : HtbClasses) : Prop where
  low_first :
    shaper.ceil? after direction .high ≠ shaper.ceil? classes direction .high →
      ∀ state ∈ [classes, after], shaper.ceil? state direction .low =
        some (config.minBw shaper.totalBw .low)
  high_first :
    shaper.ceil? after direction .low ≠ shaper.ceil? classes direction .low →
      ∀ state ∈ [classes, after], shaper.ceil? state direction .high =
        some (config.maxBw shaper.totalBw .high)

theorem InForce.ceil?_eq (inForce : shaper.InForce config classes direction)
    (tier : NetworkTier) :
    shaper.ceil? classes direction tier = some (shaper.denotedCeil config
        (shaper.throttle direction).limitStage tier) := by
  rw [ceil?, inForce.classes_eq]
  rfl

theorem ordered_refl (direction : Direction) :
    shaper.Ordered config classes direction classes :=
  ⟨fun changed => (changed rfl).elim, fun changed => (changed rfl).elim⟩

theorem Moves.ordered
    (moves : shaper.Moves config classes direction result key stage)
    (inForce : shaper.InForce config classes direction) :
    shaper.Ordered config classes direction result.2 := by
  have same : ∀ tier ≠ key, shaper.ceil? result.2 direction tier =
      shaper.ceil? classes direction tier := by
    intro tier different
    rw [ceil?, ceil?, moves.classes_eq,
      HtbClasses.change_of_ne _ (classid_ne (.inr different))]
  rcases moves.before with ⟨rfl, now_le⟩ | ⟨rfl, now_ge, -⟩
  · have high : shaper.ceil? classes direction .high =
        some (config.maxBw shaper.totalBw .high) := by
      rw [inForce.ceil?_eq]
      obtain now | now | now :
          (shaper.throttle direction).limitStage = 0 ∨
            (shaper.throttle direction).limitStage = 1 ∨
            (shaper.throttle direction).limitStage = 2 := by omega
      all_goals simp only [now, denotedCeil]
    have kept := same .high (by decide)
    refine ⟨fun changed => (changed kept).elim, fun _ => ?_⟩
    simp [high, kept]
  · have low : shaper.ceil? classes direction .low =
        some (config.minBw shaper.totalBw .low) := by
      rw [inForce.ceil?_eq]
      obtain ⟨more, now⟩ := Nat.exists_eq_add_of_le' now_ge
      simp only [now, denotedCeil]
    have kept := same .low (by decide)
    refine ⟨fun _ => ?_, fun changed => (changed kept).elim⟩
    simp [low, kept]

/-! ### After setup -/

theorem addTier_of_ne {classId : ClassId}
    (egress : classId ≠ shaper.classid .egress tier)
    (ingress : classId ≠ shaper.classid .ingress tier) (device : String) :
    shaper.addTier config classes tier device classId =
      classes device classId := by
  rw [addTier, HtbClasses.add_of_ne _ ingress, HtbClasses.add_of_ne _ egress]

theorem addTier_self (direction : Direction) (tier : NetworkTier) :
    shaper.addTier config classes tier (shaper.device direction)
      (shaper.classid direction tier) = some (shaper.tierClass config tier) := by
  cases direction with
  | ingress => exact HtbClasses.add_self _ _ _ _
  | egress =>
    rw [addTier, HtbClasses.add_of_ne _ (classid_ne (.inl (by decide)))]
    exact HtbClasses.add_self _ _ _ _

theorem inForce_setupClasses (config : NetworkConfig) (classes : HtbClasses)
    (unlimited : (shaper.throttle direction).limitStage = 0) :
    shaper.InForce config (shaper.setupClasses config classes) direction := by
  refine ⟨by omega, fun tier => ?_⟩
  have away : ∀ other ≠ tier, ∀ classes : HtbClasses,
      shaper.addTier config classes other (shaper.device direction)
        (shaper.classid direction tier) =
          classes (shaper.device direction) (shaper.classid direction tier) :=
    fun other different classes => addTier_of_ne
      (classid_ne (.inr different.symm)) (classid_ne (.inr different.symm)) _
  have denoted : shaper.denotedClass config 0 tier =
      shaper.tierClass config tier := by
    cases tier <;> rfl
  rw [unlimited, denoted, setupClasses]
  cases tier <;>
    simp only [List.foldl_cons, List.foldl_nil, away, addTier_self, ne_eq,
      reduceCtorEq, not_false_eq_true]

end NicShaper

end SmarTune
