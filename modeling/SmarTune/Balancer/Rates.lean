import SmarTune.Controller.Io
import Mathlib.Data.Rat.Floor

/-!
# Limit rates

The rates of a limit come from the policy configuration, from per-app overrides
and from fixed bounds per priority.  Rates are rationals; conversion to an
integer truncates towards zero, as Python's `int` does.
-/

namespace SmarTune

/-- Python's `int` on a rational. -/
def pyInt (value : ℚ) : Int := value.num.tdiv value.den

theorem pyInt_of_nonneg {value : ℚ} (nonneg : 0 ≤ value) :
    pyInt value = ⌊value⌋ := by
  rw [Rat.floor_def', pyInt,
    Int.tdiv_eq_ediv_of_nonneg (Rat.num_nonneg.mpr nonneg)]

theorem pyInt_nonpos {value : ℚ} (nonpos : value ≤ 0) :
    pyInt value ≤ 0 := by
  have quotient := Int.tdiv_nonneg
    (Int.neg_nonneg_of_nonpos (Rat.num_nonpos.mpr nonpos))
    (Int.natCast_nonneg value.den)
  rw [Int.neg_tdiv] at quotient
  exact neg_nonneg.mp quotient

/-- A positive whole number fits the truncation of what it fits. -/
theorem le_pyInt_iff {whole : Int} (positive : 1 ≤ whole) (value : ℚ) :
    whole ≤ pyInt value ↔ (whole : ℚ) ≤ value := by
  rcases le_total 0 value with nonneg | nonpos
  · rw [pyInt_of_nonneg nonneg, Int.le_floor]
  · have truncated := pyInt_nonpos nonpos
    have above : (0 : ℚ) < whole := by exact_mod_cast positive
    exact iff_of_false (by omega) (not_le.mpr (nonpos.trans_lt above))

theorem pyInt_lt_iff {whole : Int} (positive : 1 ≤ whole) (value : ℚ) :
    pyInt value < whole ↔ value < whole := by
  rw [← not_le, ← not_le, le_pyInt_iff positive]

/-- Disk rates of one priority: bandwidth in MB/s and operations per second. -/
structure IoRate where
  read : Int
  write : Int
  readIops : Int
  writeIops : Int
  deriving DecidableEq, Repr

/-- The rate dictionary of a limit.  The outer option is the presence of the
key, the inner one its value: a disabled resource is present with `none`. -/
structure LimitRates where
  cpuRate : Option (Option ℚ)
  memRate : Option (Option ℚ)
  diskIoRate : Option (Option IoRate)
  deriving DecidableEq

namespace LimitRates

/-- `dict.get`, for which an absent key and a `None` value are alike. -/
def cpu (rates : LimitRates) : Option ℚ := rates.cpuRate.join

/-- `dict.get` on the memory rate. -/
def mem (rates : LimitRates) : Option ℚ := rates.memRate.join

/-- `dict.get` on the disk rate. -/
def diskIo (rates : LimitRates) : Option IoRate := rates.diskIoRate.join

/-- Key-wise merge: the newer dictionary wins for the keys it has. -/
def merge (older newer : LimitRates) : LimitRates where
  cpuRate := newer.cpuRate.or older.cpuRate
  memRate := newer.memRate.or older.memRate
  diskIoRate := newer.diskIoRate.or older.diskIoRate

end LimitRates

/-- A rate is present and not zero, as Python tests it. -/
def truthy (rate : Option ℚ) : Bool := rate.any (· ≠ 0)

/-! ## Policy, overrides and bounds -/

/-- A disk-rate row as configured; a missing or unreadable field is `none`. -/
structure DiskRateRow where
  read : Option ℚ
  write : Option ℚ
  readIops : Option ℚ
  writeIops : Option ℚ

/-- Python's `lower`. -/
def lowerCase (name : String) : String := String.ofList (lowered name)

/-- One scalar resource of `limit_policy`; rates are listed by priority. -/
structure ResourcePolicy where
  enabled : Bool
  rate : String → Option ℚ

/-- The `disk_io` part of `limit_policy`. -/
structure DiskPolicy where
  enabled : Bool
  rate : String → Option DiskRateRow

/-- `limit_policy`, as far as the limit rates read it. -/
structure LimitPolicy where
  cpu : ResourcePolicy
  memory : ResourcePolicy
  diskIo : DiskPolicy

/-- A per-app override of one scalar resource. -/
structure ResourceOverride where
  enabled : Option Bool
  rate : Option (Option ℚ)

/-- A per-app override of the disk rates. -/
structure DiskOverride where
  enabled : Option Bool
  rate : Option (Option DiskRateRow)

/-- Per-app overrides; an absent part is `none`. -/
structure LimitOverrides where
  cpu : Option ResourceOverride
  memory : Option ResourceOverride
  diskIo : Option DiskOverride

/-- An interval of admissible rates. -/
structure RateBounds where
  min : ℚ
  max : ℚ

/-- The CPU part of `_get_limit_rate_bounds`. -/
def cpuRateBounds (priority : String) : RateBounds :=
  if lowerCase priority = "high" then ⟨10 / 100, 90 / 100⟩
  else if lowerCase priority = "medium" then ⟨5 / 100, 70 / 100⟩
  else if lowerCase priority = "low" then ⟨1 / 100, 50 / 100⟩
  else ⟨1 / 100, 40 / 100⟩

/-- The memory part of `_get_limit_rate_bounds`. -/
def memRateBounds (priority : String) : RateBounds :=
  if lowerCase priority = "high" then ⟨10 / 100, 60 / 100⟩
  else if lowerCase priority = "medium" then ⟨5 / 100, 40 / 100⟩
  else ⟨1 / 100, 30 / 100⟩

/-- `_clamp_rate` on a present value. -/
def clampRate (value : ℚ) (bounds : RateBounds) : ℚ :=
  max bounds.min (min bounds.max value)

/-- A scalar rate of `get_limited_rates`. -/
def limitedRate (policy : ResourcePolicy) (override : Option ResourceOverride)
    (priority : String) (bounds : RateBounds) : Option ℚ :=
  let enabled := (override.bind (·.enabled)).getD policy.enabled
  let rate := (override.bind (·.rate)).getD (policy.rate (lowerCase priority))
  if enabled then rate.map fun value => clampRate value bounds else none

/-- `_to_pos_int`. -/
def toPosInt (raw : Option ℚ) (fallback : ℚ) : Int :=
  max 1 (pyInt (raw.getD fallback))

/-- The disk rate of `get_limited_rates`. -/
def limitedDiskRate (policy : DiskPolicy) (override : Option DiskOverride)
    (priority : String) : Option IoRate :=
  let enabled := (override.bind (·.enabled)).getD policy.enabled
  let defaultRow := policy.rate (lowerCase priority)
  let row := (override.bind (·.rate)).getD defaultRow
  let fallback := fun (field : DiskRateRow → Option ℚ) =>
    (defaultRow.bind field).getD 1
  if enabled then
    row.map fun row =>
      { write := toPosInt row.write (fallback (·.write))
        read := toPosInt row.read (fallback (·.read))
        writeIops := toPosInt row.writeIops (fallback (·.writeIops))
        readIops := toPosInt row.readIops (fallback (·.readIops)) }
  else none

/-- `get_limited_rates`.  All three keys are always present, so a resource the
policy disables is stored as `None`; without a policy all three are `None`. -/
def getLimitedRates (policy : Option LimitPolicy) (priority : String)
    (overrides : Option LimitOverrides) : LimitRates :=
  match policy with
  | none => ⟨some none, some none, some none⟩
  | some policy =>
    { cpuRate := some (limitedRate policy.cpu (overrides.bind (·.cpu))
        priority (cpuRateBounds priority))
      memRate := some (limitedRate policy.memory (overrides.bind (·.memory))
        priority (memRateBounds priority))
      diskIoRate := some (limitedDiskRate policy.diskIo
        (overrides.bind (·.diskIo)) priority) }

/-! ## Budgets -/

/-- `_split_proportionally`: every listed cgroup's share of a budget. -/
def splitProportionally (totalBudget : Option Int) (ids : List CgroupId)
    (usage : CgroupId → ℚ) : CgroupId → Option Int :=
  match totalBudget with
  | none => fun _ => none
  | some total =>
    if total = 0 then fun _ => some 0
    else
      let totalUsage := (ids.map usage).sum
      if totalUsage ≤ 0 then
        fun _ => some (max 1 (total.fdiv (max 1 ids.length)))
      else
        fun cgroup =>
          some (max 1 (pyInt (total * usage cgroup / totalUsage)))

/-- A per-cgroup figure, zero where the sample has no row. -/
def perCgroup (table : List (CgroupId × ℚ)) (cgroup : CgroupId) : ℚ :=
  (table.lookup cgroup).getD 0

/-- A budget handed to the only cgroup whole, or split over several. -/
def distribute (budget : Option Int) (cgroups : List CgroupId)
    (usage : List (CgroupId × ℚ)) : CgroupId → Option Int :=
  if cgroups.length ≤ 1 then fun _ => budget
  else splitProportionally budget cgroups (perCgroup usage)

/-- `IO_LIMIT_MBPS_THRESHOLD` and `IO_LIMIT_IOPS_THRESHOLD` reached. -/
def isIoLimitReached (readMb writeMb readIops writeIops : ℚ) : Bool :=
  100 ≤ readMb + writeMb || 1000 ≤ readIops + writeIops

/-- One priority row in the units of `io.max`. -/
def IoRate.bytes (rate : IoRate) : DiskLimits where
  rbps := some (rate.read * 1024 ^ 2).toNat
  wbps := some (rate.write * 1024 ^ 2).toNat
  riops := some rate.readIops.toNat
  wiops := some rate.writeIops.toNat

/-- One field of a row multiplied by a media coefficient, at least one. -/
def scaledField (scale : ℚ) (value : Option Nat) : Option Nat :=
  value.map fun value => max 1 (pyInt (value * scale)).toNat

/-- `_scaled_io_limits`: the default line unscaled, each admitted disk scaled by
the coefficient of its medium. -/
def scaledIoLimits (rate : IoRate) (mediaScale : DiskName → ℚ)
    (diskFilter : List DiskName) (listing : IoCallOutcome) : IoLimits :=
  let scaled := fun (scale : ℚ) =>
    { rbps := scaledField scale rate.bytes.rbps
      wbps := scaledField scale rate.bytes.wbps
      riops := scaledField scale rate.bytes.riops
      wiops := scaledField scale rate.bytes.wiops : DiskLimits }
  ("default", scaled 1) :: (getDiskId diskFilter listing).map fun disk =>
      (disk.1, scaled (mediaScale disk.1))

/-- The row of a partial restore: every field doubled. -/
def IoRate.relaxed (rate : IoRate) : IoRate where
  read := rate.read * 2
  write := rate.write * 2
  readIops := rate.readIops * 2
  writeIops := rate.writeIops * 2

end SmarTune
