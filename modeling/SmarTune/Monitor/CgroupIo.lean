import SmarTune.Library.OrderedDict
import Mathlib.Algebra.BigOperators.Pi
import Mathlib.Algebra.Order.BigOperators.Group.Finset
import Mathlib.Algebra.Order.Field.Rat

/-!
# I/O counts of cgroups over a window

Two snapshots of the cumulative counters of cgroups are differenced by cgroup
and device.  A cgroup without counters in the first snapshot is left out, a
device without a line there starts from zero, and what did not move is not
reported.
-/

namespace SmarTune

/-- `IO_STAT_FIELDS`. -/
inductive IoField
  | rbytes
  | wbytes
  | rios
  | wios

namespace IoField

/-- The fields, in their order. -/
def all : List IoField := [.rbytes, .wbytes, .rios, .wios]

theorem mem_all (field : IoField) : field ∈ all := by
  cases field <;> simp [all]

end IoField

/-- A value for each field. -/
abbrev IoCounts := IoField → ℕ

/-- The devices of a cgroup that have a line, with their counters. -/
abbrev IoDevices := OrderedDict String IoCounts

/-- The readable cgroups, as `snapshot_cgroup_io` returns them. -/
abbrev IoSnapshot := OrderedDict String IoDevices

/-- What a device has been charged; nothing when it has no line. -/
def IoDevices.counts (devices : IoDevices) (dev : String) : IoCounts :=
  (devices.get? dev).getD 0

/-- A cgroup that is reported: its totals and its devices. -/
structure CgroupIo where
  totals : IoCounts
  perDevice : IoDevices

/-- `any(delta.values())`. -/
def anyCount (counts : IoCounts) : Bool :=
  IoField.all.any fun field => counts field ≠ 0

/-- `per_device`. -/
def deviceDeltas (devs0 devs1 : IoDevices) : IoDevices :=
  devs1.filterMap fun dev f1 =>
    let delta : IoCounts := fun field => f1 field - devs0.counts dev field
    if anyCount delta then some delta else none

/-- The sums of `per_device`. -/
def ioTotals (perDevice : IoDevices) : IoCounts := perDevice.values.sum

/-- `io_stat_deltas`: the length of the window and what is reported in it. -/
def ioStatDeltas (t0 : ℚ) (snap0 : IoSnapshot) (t1 : ℚ) (snap1 : IoSnapshot) :
    ℚ × OrderedDict String CgroupIo :=
  if t1 - t0 ≤ 0 then (0, .empty)
  else (t1 - t0, snap1.filterMap fun cgroup devs1 =>
    match snap0.get? cgroup with
    | none => none
    | some devs0 =>
      let perDevice := deviceDeltas devs0 devs1
      if anyCount (ioTotals perDevice) then
        some ⟨ioTotals perDevice, perDevice⟩
      else none)

def reportedIo (window : ℚ × OrderedDict String CgroupIo) (cgroup : String) :
    CgroupIo :=
  (window.2.get? cgroup).getD ⟨0, .empty⟩

/-- No counter of a device of a cgroup in both snapshots has gone back. -/
def IoGrows (snap0 snap1 : IoSnapshot) : Prop :=
  ∀ cgroup devs0 devs1, snap0.get? cgroup = some devs0 →
    snap1.get? cgroup = some devs1 →
    ∀ dev, devs0.counts dev ≤ devs1.counts dev

/-! ## One cgroup -/

theorem anyCount_eq_false_iff {counts : IoCounts} :
    anyCount counts = false ↔ counts = 0 := by
  constructor
  · intro none
    ext field
    have zero := List.any_eq_false.mp none field field.mem_all
    simpa using zero
  · rintro rfl
    rfl

theorem counts_deviceDeltas (devs0 devs1 : IoDevices) (dev : String) :
    (deviceDeltas devs0 devs1).counts dev =
      fun field => devs1.counts dev field - devs0.counts dev field := by
  unfold deviceDeltas IoDevices.counts
  rw [OrderedDict.get?_filterMap]
  cases devs1.get? dev with
  | none => simp [funext_iff]
  | some f1 =>
    simp only [Option.bind_some, Option.getD_some]
    split
    · rfl
    · next none =>
      exact (anyCount_eq_false_iff.mp (Bool.not_eq_true _ ▸ none)).symm

/-- Totals are sums over any devices that include those with a line. -/
theorem ioTotals_eq_sum (devices : IoDevices) {keys : Finset String}
    (covers : devices.keys.toFinset ⊆ keys) :
    ioTotals devices = ∑ dev ∈ keys, devices.counts dev := by
  have counted : devices.values = devices.keys.map devices.counts := by
    unfold OrderedDict.values OrderedDict.keys IoDevices.counts
    rw [List.map_map]
    apply List.map_congr_left
    rintro ⟨dev, counts⟩ member
    simp [(OrderedDict.get?_eq_some_iff devices dev counts).mpr member]
  have once : devices.keys.Nodup := devices.nodupKeys
  rw [ioTotals, counted, ← List.sum_toFinset _ once]
  apply Finset.sum_subset covers
  intro dev _ absent
  have missing : devices.get? dev = none := by
    rw [OrderedDict.get?_eq_none_iff]
    exact fun counts member =>
      absent (List.mem_toFinset.mpr (List.mem_map.mpr ⟨_, member, rfl⟩))
  simp [IoDevices.counts, missing]

theorem keys_deviceDeltas (devs0 devs1 : IoDevices) :
    (deviceDeltas devs0 devs1).keys.toFinset ⊆ devs1.keys.toFinset := by
  intro dev
  simp only [List.mem_toFinset, OrderedDict.keys, deviceDeltas,
    OrderedDict.filterMap, List.mem_map, List.mem_filterMap,
    Option.map_eq_some_iff]
  rintro ⟨_, ⟨entry, member, _, _, rfl⟩, rfl⟩
  exact ⟨entry, member, rfl⟩

section Growing

variable {devs0 devs1 devs2 : IoDevices}
  (first : ∀ dev, devs0.counts dev ≤ devs1.counts dev)
  (second : ∀ dev, devs1.counts dev ≤ devs2.counts dev)

include first second

/-- Over growing counters the deltas of two windows add up. -/
theorem deltas_add (dev : String) :
    (deviceDeltas devs0 devs2).counts dev =
      (deviceDeltas devs0 devs1).counts dev +
        (deviceDeltas devs1 devs2).counts dev := by
  ext field
  have early : devs0.counts dev field ≤ devs1.counts dev field :=
    first dev field
  have late : devs1.counts dev field ≤ devs2.counts dev field :=
    second dev field
  simp only [counts_deviceDeltas, Pi.add_apply]
  omega

theorem ioTotals_add :
    ioTotals (deviceDeltas devs0 devs2) =
      ioTotals (deviceDeltas devs0 devs1) +
        ioTotals (deviceDeltas devs1 devs2) := by
  have whole := @ioTotals_eq_sum (deviceDeltas devs0 devs2)
    ((deviceDeltas devs0 devs2).keys.toFinset ∪
      ((deviceDeltas devs0 devs1).keys.toFinset ∪
        (deviceDeltas devs1 devs2).keys.toFinset))
    Finset.subset_union_left
  rw [whole, ioTotals_eq_sum (deviceDeltas devs0 devs1)
      (Finset.subset_union_left.trans Finset.subset_union_right),
    ioTotals_eq_sum (deviceDeltas devs1 devs2)
      (Finset.subset_union_right.trans Finset.subset_union_right),
    ← Finset.sum_add_distrib]
  exact Finset.sum_congr rfl fun dev _ => deltas_add first second dev

end Growing

theorem counts_le_ioTotals (devices : IoDevices) (dev : String) :
    devices.counts dev ≤ ioTotals devices := by
  intro field
  rw [ioTotals_eq_sum devices (Finset.subset_insert dev _), Finset.sum_apply]
  exact Finset.single_le_sum (f := fun dev => devices.counts dev field)
    (fun _ _ => Nat.zero_le _) (Finset.mem_insert_self dev _)

/-! ## Windows -/

variable {t0 t1 : ℚ} {snap0 snap1 : IoSnapshot} {cgroup : String}
  {devs0 devs1 : IoDevices}

/-- A cgroup in both snapshots is reported with its deltas, or has none. -/
theorem reportedIo_spec (ordered : t0 < t1)
    (before : snap0.get? cgroup = some devs0)
    (after : snap1.get? cgroup = some devs1) :
    let reported := reportedIo (ioStatDeltas t0 snap0 t1 snap1) cgroup
    reported.totals = ioTotals (deviceDeltas devs0 devs1) ∧
      ∀ dev, reported.perDevice.counts dev =
        (deviceDeltas devs0 devs1).counts dev := by
  have forward : ¬ t1 - t0 ≤ 0 := not_le.mpr (sub_pos.mpr ordered)
  simp only [reportedIo, ioStatDeltas, forward, if_false,
    OrderedDict.get?_filterMap, after, before, Option.bind_some]
  cases busy : anyCount (ioTotals (deviceDeltas devs0 devs1)) with
  | true => exact ⟨rfl, fun _ => rfl⟩
  | false =>
    have totals := anyCount_eq_false_iff.mp busy
    refine ⟨totals.symm, fun dev => ?_⟩
    have none := counts_le_ioTotals (deviceDeltas devs0 devs1) dev
    rw [totals] at none
    ext field
    exact (Nat.le_zero.mp (none field)).symm

/-- A report belongs to a cgroup with a baseline. -/
theorem reported_of_get? {io : CgroupIo}
    (reported : (ioStatDeltas t0 snap0 t1 snap1).2.get? cgroup = some io) :
    (snap0.get? cgroup).isSome ∧ io.totals = io.perDevice.values.sum := by
  unfold ioStatDeltas at reported
  split at reported
  · cases reported
  · rw [OrderedDict.get?_filterMap] at reported
    obtain ⟨devs1, -, kept⟩ := Option.bind_eq_some_iff.mp reported
    split at kept
    · cases kept
    next devs0 baseline =>
      dsimp only at kept
      split at kept
      · cases kept
        exact ⟨by rw [baseline]; rfl, rfl⟩
      · cases kept

/-- The counts of a window: over growing counters two windows in a row add up
to the window over both; totals are the sums of their devices; without a
baseline nothing is charged, and without a line the whole counter is; and when
a cgroup was made anew in the window, nothing exceeds what was done in it. -/
theorem ioStatDeltas_accounts :
    (∀ (t0 t1 t2 : ℚ) snap0 snap1 snap2 cgroup devs0 devs1 devs2,
      t0 < t1 → t1 < t2 → IoGrows snap0 snap1 → IoGrows snap1 snap2 →
      OrderedDict.get? snap0 cgroup = some devs0 →
      OrderedDict.get? snap1 cgroup = some devs1 →
      OrderedDict.get? snap2 cgroup = some devs2 →
      let whole := reportedIo (ioStatDeltas t0 snap0 t2 snap2) cgroup
      let first := reportedIo (ioStatDeltas t0 snap0 t1 snap1) cgroup
      let second := reportedIo (ioStatDeltas t1 snap1 t2 snap2) cgroup
      whole.totals = first.totals + second.totals ∧
        ∀ dev, whole.perDevice.counts dev =
          first.perDevice.counts dev + second.perDevice.counts dev) ∧
    (∀ t0 snap0 t1 snap1 cgroup io,
      (ioStatDeltas t0 snap0 t1 snap1).2.get? cgroup = some io →
      io.totals = io.perDevice.values.sum) ∧
    (∀ t0 snap0 t1 snap1 cgroup, OrderedDict.get? snap0 cgroup = none →
      (ioStatDeltas t0 snap0 t1 snap1).2.get? cgroup = none) ∧
    (∀ t0 snap0 t1 snap1 cgroup devs0 devs1 dev, t0 < t1 →
      OrderedDict.get? snap0 cgroup = some devs0 →
      OrderedDict.get? snap1 cgroup = some devs1 → devs0.get? dev = none →
      (reportedIo (ioStatDeltas t0 snap0 t1 snap1) cgroup).perDevice.counts
        dev = IoDevices.counts devs1 dev) ∧
    ∀ t0 snap0 t1 snap1 cgroup devs0 devs1 (done : String → IoCounts),
      t0 < t1 → OrderedDict.get? snap0 cgroup = some devs0 →
      OrderedDict.get? snap1 cgroup = some devs1 →
      (∀ dev, IoDevices.counts devs1 dev ≤ done dev) →
      let reported := reportedIo (ioStatDeltas t0 snap0 t1 snap1) cgroup
      (∀ dev, reported.perDevice.counts dev ≤ done dev) ∧
        reported.totals ≤ ∑ dev ∈ devs1.keys.toFinset, done dev := by
  refine ⟨?_, fun _ _ _ _ _ _ reported => (reported_of_get? reported).2,
    ?_, ?_, ?_⟩
  · intro t0 t1 t2 snap0 snap1 snap2 cgroup devs0 devs1 devs2 early late
      grows growsOn before between after
    have first := grows cgroup devs0 devs1 before between
    have second := growsOn cgroup devs1 devs2 between after
    obtain ⟨wholeTotals, whole⟩ :=
      reportedIo_spec (early.trans late) before after
    obtain ⟨firstTotals, ofFirst⟩ := reportedIo_spec early before between
    obtain ⟨secondTotals, ofSecond⟩ := reportedIo_spec late between after
    constructor
    · rw [wholeTotals, firstTotals, secondTotals, ioTotals_add first second]
    · intro dev
      rw [whole, ofFirst, ofSecond, deltas_add first second]
  · intro t0 snap0 t1 snap1 cgroup absent
    apply Option.eq_none_iff_forall_ne_some.mpr
    intro io reported
    have baseline := (reported_of_get? reported).1
    rw [absent] at baseline
    cases baseline
  · intro t0 snap0 t1 snap1 cgroup devs0 devs1 dev early before after missing
    rw [(reportedIo_spec early before after).2, counts_deviceDeltas]
    ext field
    simp [IoDevices.counts, missing]
  · intro t0 snap0 t1 snap1 cgroup devs0 devs1 done early before after within
    obtain ⟨totals, each⟩ := reportedIo_spec early before after
    have charged : ∀ dev, (deviceDeltas devs0 devs1).counts dev ≤ done dev := by
      intro dev
      rw [counts_deviceDeltas]
      exact fun field => (Nat.sub_le _ _).trans (within dev field)
    refine ⟨fun dev => each dev ▸ charged dev, ?_⟩
    rw [totals, ioTotals_eq_sum _ (keys_deviceDeltas devs0 devs1)]
    intro field
    rw [Finset.sum_apply, Finset.sum_apply]
    exact Finset.sum_le_sum fun dev _ => charged dev field

end SmarTune
