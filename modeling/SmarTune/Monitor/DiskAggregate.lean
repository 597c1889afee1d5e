import SmarTune.Library.Latest
import SmarTune.Monitor.DiskGate

/-!
# The disk aggregate

`evaluate` combines the mean of the per-disk pressures with the worst of them.
One saturated disk lifts the aggregate to the weight of the worst disk on a
machine with any number of disks, so at a weight no less than the `high` band
a full stall takes the raw disk score to one.
-/

namespace SmarTune

open NoisyOr

/-- What is measured of one disk. -/
structure DiskReading (Stats : Type*) where
  stats : Stats
  /-- `_disk_pressure`. -/
  pressure : ℚ
  /-- The media class. -/
  diskType : String

/-- An entry of `details`. -/
structure DiskDetail (Stats : Type*) where
  stats : Stats
  pressure : ℚ
  diskType : String
  isBusy : Bool

/-- What `evaluate` returns. -/
structure DiskEvaluation (Stats : Type*) where
  diskCombined : ℚ
  maxP : ℚ
  avgP : ℚ
  stressedDisks : List String
  details : List (String × DiskDetail Stats)

namespace DiskIOMonitor

variable {Stats : Type*}

/-- `scored`, the busiest disk first. -/
def scoredDisks (disks : OrderedDict String (DiskReading Stats)) :
    List (String × DiskReading Stats) :=
  Latest.chronological (fun entry => -entry.2.pressure) disks.entries

/-- The pressures, the greatest first. -/
def diskPressures (disks : OrderedDict String (DiskReading Stats)) : List ℚ :=
  (scoredDisks disks).map fun entry => entry.2.pressure

/-- `disk_combined`, before it is rounded. -/
def diskCombined (maxPWeight : ℚ)
    (disks : OrderedDict String (DiskReading Stats)) : ℚ :=
  let pressures := diskPressures disks
  if pressures = [] then 0
  else 1 - (1 - mean pressures) * (1 - greatest pressures * maxPWeight)

/-- `stressed_disks`. -/
def stressedDisks (busyP : ℚ)
    (disks : OrderedDict String (DiskReading Stats)) : List String :=
  ((scoredDisks disks).filter fun entry => busyP ≤ entry.2.pressure).map
    Prod.fst

/-- `evaluate`. -/
def evaluate (config : PressureConfig) (maxPWeight : ℚ)
    (disks : OrderedDict String (DiskReading Stats)) :
    DiskEvaluation Stats where
  diskCombined := pyRound4 (diskCombined maxPWeight disks)
  maxP := pyRound4 (greatest (diskPressures disks))
  avgP := pyRound4 (mean (diskPressures disks))
  stressedDisks := stressedDisks config.diskThresholds.medium disks
  details := (scoredDisks disks).map fun entry =>
    (entry.1,
      { stats := entry.2.stats
        pressure := pyRound4 entry.2.pressure
        diskType := entry.2.diskType
        isBusy := decide (config.diskThresholds.medium ≤ entry.2.pressure) })

/-! ## The aggregate -/

def collectedPressures (disks : OrderedDict String (DiskReading Stats)) :
    List ℚ :=
  disks.entries.map fun entry => entry.2.pressure

variable {disks : OrderedDict String (DiskReading Stats)} {maxPWeight : ℚ}

theorem diskPressures_perm :
    (diskPressures disks).Perm (collectedPressures disks) :=
  (Latest.chronological_perm _ disks.entries).map _

theorem diskCombined_eq :
    diskCombined maxPWeight disks =
      aggregate maxPWeight (collectedPressures disks) := by
  rw [← aggregate_perm diskPressures_perm]
  simp only [diskCombined]
  split
  · next none_ => rw [none_, aggregate_nil]
  · rfl

/-- The pressure of every disk is a fraction. -/
def InRange (disks : OrderedDict String (DiskReading Stats)) : Prop :=
  Fractions (collectedPressures disks)

variable {pressure : ℚ} {disk : String} {reading : DiskReading Stats}

theorem mem_collectedPressures_iff :
    pressure ∈ collectedPressures disks ↔
      ∃ disk reading, disks.get? disk = some reading ∧
        reading.pressure = pressure := by
  simp only [collectedPressures, List.mem_map, Prod.exists,
    OrderedDict.get?_eq_some_iff]

theorem forall₂_set (found : disks.get? disk = some reading)
    (grows : reading.pressure ≤ pressure) :
    List.Forall₂ (· ≤ ·) (collectedPressures disks) (collectedPressures
        (disks.set disk { reading with pressure := pressure })) := by
  obtain ⟨older, younger, split⟩ :=
    List.mem_iff_append.mp ((disks.get?_eq_some_iff disk reading).mp found)
  rw [collectedPressures, collectedPressures,
    OrderedDict.entries_set_of_split split, split]
  simp only [List.map_append, List.map_cons]
  have same : ∀ list : List ℚ, List.Forall₂ (· ≤ ·) list list :=
    fun list => List.forall₂_same.mpr fun _ _ => le_rfl
  exact List.rel_append (same _) (.cons grows (same _))

theorem inRange_set (range : InRange disks)
    (found : disks.get? disk = some reading)
    (grows : reading.pressure ≤ pressure) (most : pressure ≤ 1) :
    InRange (disks.set disk { reading with pressure := pressure }) := by
  have known := range _ (mem_collectedPressures_iff.mpr ⟨disk, reading, found,
    rfl⟩)
  intro value member
  obtain ⟨other, stored, there, rfl⟩ := mem_collectedPressures_iff.mp member
  rw [OrderedDict.get?_set] at there
  split at there
  · cases there
    exact ⟨known.1.trans grows, most⟩
  · exact range _ (mem_collectedPressures_iff.mpr ⟨other, stored, there, rfl⟩)

theorem mem_stressedDisks_iff {busyP : ℚ} :
    disk ∈ stressedDisks busyP disks ↔
      ∃ reading, disks.get? disk = some reading ∧ busyP ≤ reading.pressure := by
  simp only [stressedDisks, scoredDisks, List.mem_map, List.mem_filter,
    Latest.mem_chronological, decide_eq_true_eq, Prod.exists,
    OrderedDict.get?_eq_some_iff]
  constructor
  · rintro ⟨_, reading, ⟨member, busy⟩, rfl⟩
    exact ⟨reading, member, busy⟩
  · rintro ⟨reading, member, busy⟩
    exact ⟨disk, reading, ⟨member, busy⟩, rfl⟩

/-- No disk is listed twice. -/
theorem nodup_stressedDisks (busyP : ℚ) :
    (stressedDisks busyP disks).Nodup := by
  have scored : ((scoredDisks disks).map Prod.fst).Nodup :=
    ((Latest.chronological_perm _ disks.entries).map _).nodup_iff.mpr
      disks.nodupKeys
  exact scored.sublist (List.filter_sublist.map _)

section Weight

variable (config : PressureConfig) (weightNonneg : 0 ≤ maxPWeight)
  (weightLeOne : maxPWeight ≤ 1) (range : InRange disks)

include weightNonneg weightLeOne range

/-- The aggregate of any number of disks lies between its parts and one, grows
with the pressure of every disk, does not depend on the order of the disks, and
lists exactly the disks at or above the medium band.  One disk at one lifts it
to the weight of the worst disk; at a weight no less than the high band the
saturation is then one, and so is the score under a full stall. -/
theorem disk_aggregate :
    (max (mean (diskPressures disks))
          (greatest (diskPressures disks) * maxPWeight) ≤
        diskCombined maxPWeight disks ∧
      diskCombined maxPWeight disks ≤ 1) ∧
    (∀ disk reading pressure, disks.get? disk = some reading →
      reading.pressure ≤ pressure → pressure ≤ 1 →
      diskCombined maxPWeight disks ≤ diskCombined maxPWeight
        (disks.set disk { reading with pressure := pressure })) ∧
    (∀ other : OrderedDict String (DiskReading Stats),
      other.entries.Perm disks.entries →
        diskCombined maxPWeight other = diskCombined maxPWeight disks) ∧
    ((∃ disk reading, disks.get? disk = some reading ∧ reading.pressure = 1) →
      maxPWeight ≤ diskCombined maxPWeight disks ∧
      (config.diskThresholds.high ≤ maxPWeight →
        config.diskSaturation (diskCombined maxPWeight disks) = 1 ∧
        ∀ sample : DiskSample, sample.combined = diskCombined maxPWeight disks →
          config.diskStall sample = 1 → config.diskScore sample = 1)) ∧
    (∀ disk, disk ∈ (evaluate config maxPWeight disks).stressedDisks ↔
      ∃ reading, disks.get? disk = some reading ∧
        config.diskThresholds.medium ≤ reading.pressure) ∧
    (evaluate config maxPWeight disks).stressedDisks.Nodup := by
  refine ⟨?_, ?_, ?_, ?_, fun _ => mem_stressedDisks_iff, nodup_stressedDisks _⟩
  · rw [diskCombined_eq, mean_perm diskPressures_perm,
      greatest_perm diskPressures_perm]
    exact aggregate_range weightNonneg weightLeOne range
  · intro disk reading pressure found grows most
    rw [diskCombined_eq, diskCombined_eq]
    exact aggregate_le_aggregate weightNonneg weightLeOne
      (forall₂_set found grows) range (inRange_set range found grows most)
  · intro other perm
    rw [diskCombined_eq, diskCombined_eq]
    exact aggregate_perm (perm.map _)
  · rintro ⟨disk, reading, found, full⟩
    have lifted : maxPWeight ≤ diskCombined maxPWeight disks := by
      rw [diskCombined_eq]
      exact weight_le_aggregate weightNonneg weightLeOne range
        (mem_collectedPressures_iff.mpr ⟨disk, reading, found, full⟩)
    refine ⟨lifted, fun high => ?_⟩
    have saturated : config.diskSaturation
        (diskCombined maxPWeight disks) = 1 :=
      ramp_eq_one (high.trans lifted)
    refine ⟨saturated, ?_⟩
    intro sample combined stalled
    have filled : config.diskFill sample = 1 := by
      rw [PressureConfig.diskFill, stalled, combined,
        saturated, mul_one, noisyOr_one]
    rw [PressureConfig.diskScore, filled, min_self, max_eq_right zero_le_one]

end Weight

def oneOfTwoSaturated : OrderedDict String (DiskReading Unit) :=
  ⟨[("sda", ⟨(), 0, "ssd"⟩), ("sdb", ⟨(), 1, "ssd"⟩)], by decide⟩

/-- Under a full stall one saturated disk is enough. -/
theorem disk_aggregate_of_two :
    PressureConfig.defaults.diskScore
      ⟨diskCombined (4 / 5) oneOfTwoSaturated, 0, 1, 0⟩ = 1 := by
  have aggregate := @disk_aggregate Unit oneOfTwoSaturated (4 / 5)
    PressureConfig.defaults (by norm_num) (by norm_num)
    (by simp [InRange, Fractions, collectedPressures, oneOfTwoSaturated])
  obtain ⟨-, saturated⟩ := aggregate.2.2.2.1 ⟨"sdb", ⟨(), 1, "ssd"⟩, rfl, rfl⟩
  exact (saturated (by decide +kernel)).2 _ rfl (by decide +kernel)

end DiskIOMonitor

end SmarTune
