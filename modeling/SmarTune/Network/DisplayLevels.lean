import SmarTune.Library.Latest
import SmarTune.Monitor.PressureLevels
import Mathlib.Data.Prod.Lex
import Mathlib.Data.String.Basic

/-!
# Three views of network pressure

The fused scores of every NIC are shown per direction, rolled up into one gauge
and handed to the shaper as levels.  All three keep a receive direction from
critical while its capacity is not exhausted: the display by a flag, the shaper
by relabelling, and the gauge by holding the score just below the critical
threshold, which costs it the bands that start in between.
-/

namespace SmarTune

/-- `config.network_thresholds`; a key may be absent. -/
structure NetworkThresholds where
  low : Option ℚ
  medium : Option ℚ
  high : Option ℚ
  critical : Option ℚ
  deriving DecidableEq, Repr

/-- A fused entry of the published snapshot. -/
structure NicPressure where
  rx : ℚ
  tx : ℚ
  /-- False when the entry has no such key. -/
  rxCapacityExhausted : Bool
  deriving DecidableEq, Repr

/-- The fused scores by NIC. -/
abbrev PressureSnapshot := OrderedDict String NicPressure

/-- The directions of a NIC, as the dashboard names them. -/
inductive DisplayDirection
  | rx
  | tx
  deriving DecidableEq, Repr

/-- `"RX"` or `"TX"`. -/
def DisplayDirection.text : DisplayDirection → String
  | .rx => "RX"
  | .tx => "TX"

/-- The levels on the dashboard. -/
inductive DisplayLevel
  | low
  | medium
  | high
  | critical
  deriving DecidableEq, Repr

namespace DisplayLevel

def text : DisplayLevel → String
  | .low => "LOW"
  | .medium => "MEDIUM"
  | .high => "HIGH"
  | .critical => "CRITICAL"

/-- Severity. -/
def rank : DisplayLevel → ℕ
  | .low => 0
  | .medium => 1
  | .high => 2
  | .critical => 3

/-- The level reads like that of the shaper, up to case. -/
def SameUpToCase (level : DisplayLevel) (shaped : PressureLevel) : Prop :=
  level.text.toList.map Char.toLower = shaped.name.toList

instance (level : DisplayLevel) (shaped : PressureLevel) :
    Decidable (level.SameUpToCase shaped) :=
  inferInstanceAs (Decidable (_ = _))

theorem rank_le_critical (level : DisplayLevel) :
    level.rank ≤ DisplayLevel.critical.rank := by
  cases level <;> decide

end DisplayLevel

namespace NetworkThresholds

variable (thresholds : NetworkThresholds)

/-- Every level has a threshold, and the thresholds are in order. -/
def Ordered : Prop :=
  ∃ low medium high critical,
    thresholds = ⟨some low, some medium, some high, some critical⟩ ∧
      low ≤ medium ∧ medium ≤ high ∧ high ≤ critical

/-! ## The views -/

/-- `_network_pressure_level`. -/
def networkPressureLevel (score : ℚ)
    (criticalEligible : Bool := true) : DisplayLevel :=
  if criticalEligible ∧ thresholds.critical.getD (9 / 10) ≤ score then .critical
  else if thresholds.high.getD (7 / 10) ≤ score then .high
  else if thresholds.medium.getD (1 / 2) ≤ score then .medium
  else .low

/-- The level a direction is shown at in
`_build_network_interface_pressure`. -/
def displayLevel (pressure : NicPressure) : DisplayDirection → DisplayLevel
  | .rx =>
    thresholds.networkPressureLevel pressure.rx pressure.rxCapacityExhausted
  | .tx => thresholds.networkPressureLevel pressure.tx

/-- The score below critical that a direction is held to. -/
def heldScore : ℚ :=
  max 0 (thresholds.critical.getD (9 / 10) - 1 / 1000000)

/-- `rx_score`. -/
def gaugeRxScore (pressure : NicPressure) : ℚ :=
  if pressure.rxCapacityExhausted then pressure.rx
  else min pressure.rx thresholds.heldScore

/-- An entry of `per_nic`. -/
structure RankedNic where
  score : ℚ
  name : String
  direction : DisplayDirection

/-- What the gauge makes of a NIC. -/
def rankNic (entry : String × NicPressure) : RankedNic where
  score := max (thresholds.gaugeRxScore entry.2) entry.2.tx
  name := entry.1
  direction :=
    if entry.2.tx < thresholds.gaugeRxScore entry.2 then .rx else .tx

/-- `per_nic`, the worst one first. -/
def perNic (interfaces : PressureSnapshot) : List RankedNic :=
  Latest.chronological (fun nic : RankedNic =>
      toLex (-nic.score, toLex (nic.name, nic.direction.text)))
    (interfaces.entries.map thresholds.rankNic)

/-- The System Overview gauge. -/
structure NetworkGauge where
  busyNics : List String
  totalNics : ℕ
  busyRatio : ℚ
  busyPct : ℚ
  level : DisplayLevel
  pressurePct : ℚ
  worstNic : String
  worstDirection : DisplayDirection

/-- `_compute_fused_network_pressure`, without data when there is no NIC. -/
def computeFusedNetworkPressure
    (interfaces : PressureSnapshot) : Option NetworkGauge :=
  let ranked := thresholds.perNic interfaces
  ranked.head?.map fun worst =>
    let busyNics := (ranked.filter fun nic =>
      thresholds.medium.getD (1 / 2) ≤ nic.score).map (·.name)
    let busyRatio : ℚ := busyNics.length / ranked.length
    { busyNics := busyNics
      totalNics := ranked.length
      busyRatio := pyRound4 busyRatio
      busyPct := pyRound2 (busyRatio * 100)
      level := thresholds.networkPressureLevel worst.score
      pressurePct := pyRound2 (worst.score * 100)
      worstNic := worst.name
      worstDirection := worst.direction }

/-- The table as `get_pressure_level` reads it. -/
def forAnalyzer : Thresholds where
  low := thresholds.low.getD (2 / 5)
  medium := thresholds.medium.getD (3 / 5)
  high := thresholds.high.getD (4 / 5)
  critical := thresholds.critical.getD 1

/-- `update_network_pressure_level`: the levels and scores of transmission and
reception. -/
def updateNetworkPressureLevel (networkData : NicPressure) :
    PressureLevel × PressureLevel × ℚ × ℚ :=
  let txLevel := thresholds.forAnalyzer.getPressureLevel networkData.tx
  let rxLevel := thresholds.forAnalyzer.getPressureLevel networkData.rx
  let rxLevel :=
    if rxLevel = .critical ∧ ¬ networkData.rxCapacityExhausted then .high
    else rxLevel
  (txLevel, rxLevel, networkData.tx, networkData.rx)

def shaperLevel (pressure : NicPressure) : DisplayDirection → PressureLevel
  | .rx => (thresholds.updateNetworkPressureLevel pressure).2.1
  | .tx => (thresholds.updateNetworkPressureLevel pressure).1

/-! ## Agreement -/

/-- The gauge is at the greatest level any direction is shown at, at the NIC
and direction it names, and every direction is shown at the level that the
shaper is handed for it. -/
structure ViewsAgree (interfaces : PressureSnapshot) : Prop where
  shaped : ∀ entry ∈ interfaces.entries, ∀ direction,
    (thresholds.displayLevel entry.2 direction).SameUpToCase
      (thresholds.shaperLevel entry.2 direction)
  gauged : interfaces.entries ≠ [] →
    ∃ gauge, thresholds.computeFusedNetworkPressure interfaces = some gauge ∧
      (∀ entry ∈ interfaces.entries, ∀ direction,
        (thresholds.displayLevel entry.2 direction).rank ≤ gauge.level.rank) ∧
      ∃ pressure, interfaces.get? gauge.worstNic = some pressure ∧
        thresholds.displayLevel pressure gauge.worstDirection = gauge.level

/-- No band below critical starts above the score that directions are held to
and within reach. -/
def BandsClear : Prop :=
  0 < thresholds.critical.getD (9 / 10) →
    ∀ band ∈ [thresholds.medium.getD (1 / 2), thresholds.high.getD (7 / 10)],
      band ≤ thresholds.heldScore ∨ 1 < band

instance : Decidable thresholds.BandsClear :=
  inferInstanceAs (Decidable (_ → _))

/-- The scores of a NIC are fractions. -/
structure InRange (pressure : NicPressure) : Prop where
  rx_nonneg : 0 ≤ pressure.rx
  rx_le_one : pressure.rx ≤ 1
  tx_nonneg : 0 ≤ pressure.tx
  tx_le_one : pressure.tx ≤ 1

variable {thresholds} {pressure : NicPressure}

theorem heldScore_nonneg : 0 ≤ thresholds.heldScore := le_max_left _ _

theorem heldScore_lt_critical
    (positive : 0 < thresholds.critical.getD (9 / 10)) :
    thresholds.heldScore < thresholds.critical.getD (9 / 10) := by
  apply max_lt positive
  linarith

variable {score : ℚ} {interfaces : PressureSnapshot}

theorem rank_networkPressureLevel_le {other : ℚ} (ordered : thresholds.Ordered)
    (scores : score ≤ other) :
    (thresholds.networkPressureLevel score).rank ≤
      (thresholds.networkPressureLevel other).rank := by
  obtain ⟨low, medium, high, critical, rfl, -, mediumHigh, highCritical⟩ :=
    ordered
  simp only [networkPressureLevel, Option.getD_some, true_and]
  split_ifs <;> first | decide | (exfalso; linarith)

theorem sameUpToCase_of_eligible (ordered : thresholds.Ordered) (score : ℚ) :
    (thresholds.networkPressureLevel score).SameUpToCase
      (thresholds.forAnalyzer.getPressureLevel score) := by
  obtain ⟨low, medium, high, critical, rfl, -⟩ := ordered
  simp only [networkPressureLevel, Thresholds.getPressureLevel, forAnalyzer,
    Option.getD_some, true_and]
  by_cases top : critical ≤ score
  · simp only [top, if_true]
    decide
  by_cases upper : high ≤ score
  · simp only [top, upper, if_true, if_false]
    decide
  by_cases middle : medium ≤ score
  · simp only [top, upper, middle, if_true, if_false]
    decide
  · simp only [top, upper, middle, if_false]
    decide

/-- A receive score whose capacity is not exhausted. -/
theorem networkPressureLevel_of_ineligible (ordered : thresholds.Ordered)
    (score : ℚ) :
    thresholds.networkPressureLevel score false =
      if thresholds.networkPressureLevel score = .critical then .high
      else thresholds.networkPressureLevel score := by
  obtain ⟨low, medium, high, critical, rfl, -, -, highCritical⟩ := ordered
  simp only [networkPressureLevel, Option.getD_some, true_and,
    Bool.false_eq_true, false_and, if_false]
  by_cases top : critical ≤ score
  · simp [top, highCritical.trans top]
  · simp only [top, if_false]
    split_ifs <;> first | rfl | simp_all

theorem sameUpToCase_critical_iff {level : DisplayLevel}
    {shaped : PressureLevel} (same : level.SameUpToCase shaped) :
    level = .critical ↔ shaped = .critical := by
  revert same
  cases level <;> cases shaped <;> decide

theorem sameUpToCase_shaperLevel (ordered : thresholds.Ordered)
    (direction : DisplayDirection) :
    (thresholds.displayLevel pressure direction).SameUpToCase
      (thresholds.shaperLevel pressure direction) := by
  cases direction with
  | tx => exact sameUpToCase_of_eligible ordered pressure.tx
  | rx =>
    have same := sameUpToCase_of_eligible ordered pressure.rx
    have top := sameUpToCase_critical_iff same
    simp only [displayLevel, shaperLevel, updateNetworkPressureLevel]
    by_cases exhausted : pressure.rxCapacityExhausted = true
    · simpa only [exhausted, not_true_eq_false, and_false, if_false] using same
    · rw [Bool.not_eq_true] at exhausted
      rw [exhausted, networkPressureLevel_of_ineligible ordered]
      by_cases critical :
          thresholds.networkPressureLevel pressure.rx = .critical
      · rw [if_pos critical, if_pos ⟨top.mp critical, by decide⟩]
        decide
      · rw [if_neg critical, if_neg fun both => critical (top.mpr both.1)]
        exact same

/-! ## The gauge -/

theorem networkPressureLevel_gaugeRxScore
    (positive : 0 < thresholds.critical.getD (9 / 10))
    (clear : thresholds.BandsClear) (range : InRange pressure) :
    thresholds.networkPressureLevel (thresholds.gaugeRxScore pressure) =
      thresholds.displayLevel pressure .rx := by
  unfold gaugeRxScore displayLevel
  by_cases exhausted : pressure.rxCapacityExhausted = true
  · rw [if_pos exhausted, exhausted]
  · have calm : pressure.rxCapacityExhausted = false := by simpa using exhausted
    rw [if_neg exhausted, calm]
    have below : ¬ thresholds.critical.getD (9 / 10) ≤
        min pressure.rx thresholds.heldScore := fun reached =>
      absurd (reached.trans (min_le_right _ _))
        (not_le.mpr (heldScore_lt_critical positive))
    have bands : ∀ band ∈ [thresholds.medium.getD (1 / 2),
        thresholds.high.getD (7 / 10)],
        band ≤ min pressure.rx thresholds.heldScore ↔ band ≤ pressure.rx := by
      intro band member
      refine ⟨fun reached => reached.trans (min_le_left _ _), ?_⟩
      intro reached
      rcases clear positive band member with held | beyond
      · exact le_min reached held
      · exact absurd (reached.trans range.rx_le_one) (not_le.mpr beyond)
    simp only [networkPressureLevel, below, and_false, if_false,
      Bool.false_eq_true, false_and, bands _ (List.mem_cons_self),
      bands _ (List.mem_cons_of_mem _ (List.mem_singleton_self _))]

theorem networkPressureLevel_of_nonpos
    (nonpos : thresholds.critical.getD (9 / 10) ≤ 0) (nonneg : 0 ≤ score) :
    thresholds.networkPressureLevel score = .critical := by
  simp only [networkPressureLevel, nonpos.trans nonneg, and_self, if_true]

theorem networkPressureLevel_rankNic (ordered : thresholds.Ordered)
    (clear : thresholds.BandsClear) {entry : String × NicPressure}
    (range : InRange entry.2) :
    thresholds.networkPressureLevel (thresholds.rankNic entry).score =
        thresholds.displayLevel entry.2 (thresholds.rankNic entry).direction ∧
      ∀ direction, (thresholds.displayLevel entry.2 direction).rank ≤
        (thresholds.networkPressureLevel
          (thresholds.rankNic entry).score).rank := by
  have txBelow := le_max_right (thresholds.gaugeRxScore entry.2) entry.2.tx
  by_cases positive : 0 < thresholds.critical.getD (9 / 10)
  · have shown := networkPressureLevel_gaugeRxScore positive clear range
    constructor
    · simp only [rankNic]
      split
      · next receiving => rw [max_eq_left receiving.le, shown]
      · next sending => rw [max_eq_right (not_lt.mp sending), displayLevel]
    · intro direction
      cases direction with
      | rx =>
        rw [← shown]
        exact rank_networkPressureLevel_le ordered (le_max_left _ _)
      | tx => exact rank_networkPressureLevel_le ordered txBelow
  · have nonpos := not_lt.mp positive
    have top := networkPressureLevel_of_nonpos nonpos
      (range.tx_nonneg.trans txBelow)
    refine ⟨?_, fun direction => ?_⟩
    · refine top.trans ?_
      simp only [rankNic]
      split
      · next receiving =>
        have exhausted : entry.2.rxCapacityExhausted = true := by
          by_contra calm
          have held : thresholds.heldScore = 0 :=
            max_eq_left (by linarith)
          rw [gaugeRxScore, if_neg calm, held] at receiving
          exact absurd (receiving.trans_le (min_le_right _ _))
            (not_lt.mpr range.tx_nonneg)
        rw [displayLevel, exhausted,
          networkPressureLevel_of_nonpos nonpos range.rx_nonneg]
      · rw [displayLevel, networkPressureLevel_of_nonpos nonpos range.tx_nonneg]
    · rw [show (thresholds.rankNic entry).score =
        max (thresholds.gaugeRxScore entry.2) entry.2.tx from rfl, top]
      exact DisplayLevel.rank_le_critical _

theorem computeFusedNetworkPressure_spec (filled : interfaces.entries ≠ []) :
    ∃ gauge entry,
      thresholds.computeFusedNetworkPressure interfaces = some gauge ∧
      entry ∈ interfaces.entries ∧
      gauge.worstNic = entry.1 ∧
      gauge.worstDirection = (thresholds.rankNic entry).direction ∧
      gauge.level =
        thresholds.networkPressureLevel (thresholds.rankNic entry).score ∧
      ∀ other ∈ interfaces.entries,
        (thresholds.rankNic other).score ≤ (thresholds.rankNic entry).score := by
  have ranked : thresholds.perNic interfaces ≠ [] := by
    intro none_
    have length := (Latest.chronological_perm (fun nic : RankedNic =>
        toLex (-nic.score, toLex (nic.name, nic.direction.text)))
      (interfaces.entries.map thresholds.rankNic)).length_eq
    rw [show Latest.chronological _ _ = [] from none_, List.length_map] at length
    exact filled (List.length_eq_zero_iff.mp length.symm)
  obtain ⟨worst, others, split⟩ := List.exists_cons_of_ne_nil ranked
  have first : (thresholds.perNic interfaces).head? = some worst := by
    rw [split]
    rfl
  have member : worst ∈ interfaces.entries.map thresholds.rankNic :=
    (Latest.mem_chronological _).mp (List.mem_of_head? first)
  obtain ⟨entry, inside, rfl⟩ := List.mem_map.mp member
  refine ⟨_, entry, by rw [computeFusedNetworkPressure, first]; rfl, inside,
    rfl, rfl, rfl, ?_⟩
  intro other otherInside
  have earliest : toLex (-(thresholds.rankNic entry).score, _) ≤
      toLex (-(thresholds.rankNic other).score, _) :=
    Latest.noLater_of_head? first (List.mem_map_of_mem otherInside)
  rcases Prod.Lex.le_iff.mp earliest with less | ⟨same, -⟩
  · exact (neg_lt_neg_iff.mp less).le
  · exact (neg_inj.mp same).ge

theorem viewsAgree_of_bandsClear (ordered : thresholds.Ordered)
    (clear : thresholds.BandsClear)
    (range : ∀ entry ∈ interfaces.entries, InRange entry.2) :
    thresholds.ViewsAgree interfaces where
  shaped := fun _ _ direction => sameUpToCase_shaperLevel ordered direction
  gauged := by
    intro filled
    obtain ⟨gauge, entry, computed, inside, nic, direction, level, most⟩ :=
      computeFusedNetworkPressure_spec filled
    have worst := networkPressureLevel_rankNic ordered clear
      (range entry inside)
    refine ⟨gauge, computed, ?_, entry.2, ?_, ?_⟩
    · intro other otherInside direction
      rw [level]
      exact ((networkPressureLevel_rankNic ordered clear
        (range other otherInside)).2 direction).trans
          (rank_networkPressureLevel_le ordered (most other otherInside))
    · rw [nic]
      exact (interfaces.get?_eq_some_iff _ _).mpr inside
    · rw [direction, level, worst.1]

/-- A single NIC that only receives, its capacity not exhausted. -/
def receiving (rx : ℚ) : PressureSnapshot :=
  ⟨[("eth0", ⟨rx, 0, false⟩)], List.nodup_singleton _⟩

theorem computeFusedNetworkPressure_receiving {rx : ℚ}
    (above : thresholds.heldScore ≤ rx) :
    ∃ gauge,
      thresholds.computeFusedNetworkPressure (receiving rx) = some gauge ∧
      gauge.level = thresholds.networkPressureLevel thresholds.heldScore := by
  refine ⟨_, rfl, ?_⟩
  change thresholds.networkPressureLevel (max (min rx thresholds.heldScore) 0) =
    _
  rw [min_eq_right above, max_eq_left heldScore_nonneg]

theorem not_viewsAgree_receiving (ordered : thresholds.Ordered)
    (positive : 0 < thresholds.critical.getD (9 / 10)) {band : ℚ}
    (listed : band ∈ [thresholds.medium.getD (1 / 2),
      thresholds.high.getD (7 / 10)])
    (lost : thresholds.heldScore < band) :
    ¬ thresholds.ViewsAgree (receiving band) := by
  intro agree
  obtain ⟨gauge, computed, level⟩ :=
    computeFusedNetworkPressure_receiving lost.le
  obtain ⟨other, same, most, -⟩ := agree.gauged (List.cons_ne_nil _ _)
  obtain rfl := Option.some.inj (computed.symm.trans same)
  have shown := most ("eth0", ⟨band, 0, false⟩) List.mem_cons_self .rx
  have below := not_le.mpr (heldScore_lt_critical positive)
  rw [level] at shown
  simp only [displayLevel, networkPressureLevel, below, and_false, if_false,
    Bool.false_eq_true, false_and] at shown
  obtain ⟨low, medium, high, critical, rfl, -, mediumHigh, -⟩ := ordered
  simp only [Option.getD_some, List.mem_cons, List.not_mem_nil,
    or_false] at listed shown
  rcases listed with rfl | rfl
  · rw [if_neg (not_le.mpr (lost.trans_le mediumHigh)),
      if_neg (not_le.mpr lost)] at shown
    split at shown
    · exact absurd shown (by decide)
    · rw [if_pos le_rfl] at shown
      exact absurd shown (by decide)
  · rw [if_pos le_rfl, if_neg (not_le.mpr lost)] at shown
    split at shown <;> exact absurd shown (by decide)

/-- The three views agree on every snapshot exactly when no band below
critical starts between the score that directions are held to and one. -/
theorem viewsAgree_iff_bandsClear (thresholds : NetworkThresholds)
    (ordered : thresholds.Ordered) :
    (∀ interfaces : PressureSnapshot,
      (∀ entry ∈ interfaces.entries, InRange entry.2) →
        thresholds.ViewsAgree interfaces) ↔ thresholds.BandsClear := by
  constructor
  · intro agree positive band listed
    by_contra neither
    obtain ⟨lost, reachable⟩ := not_or.mp neither
    have above := not_le.mp lost
    apply not_viewsAgree_receiving ordered positive listed above
    apply agree
    intro entry member
    rw [List.mem_singleton.mp member]
    exact ⟨heldScore_nonneg.trans above.le, not_lt.mp reachable, le_rfl,
      zero_le_one⟩
  · intro clear interfaces range
    exact viewsAgree_of_bandsClear ordered clear range

/-- The shipped table. -/
def shipped : NetworkThresholds :=
  ⟨some (3 / 10), some (1 / 2), some (7 / 10), some (9 / 10)⟩

theorem shipped_ordered : shipped.Ordered :=
  ⟨_, _, _, _, rfl, by norm_num, by norm_num, by norm_num⟩

theorem inRange_receiving :
    ∀ entry ∈ (receiving (19 / 20)).entries, InRange entry.2 := by
  intro entry member
  rw [List.mem_singleton.mp member]
  constructor <;> norm_num

/-- On the shipped table the views agree on a receive score of 0.95 whose
capacity is not exhausted. -/
theorem shipped_viewsAgree : shipped.ViewsAgree (receiving (19 / 20)) :=
  (viewsAgree_iff_bandsClear shipped shipped_ordered).mpr (by decide +kernel)
    (receiving (19 / 20)) inRange_receiving

/-- A table whose high band is empty: high and critical both start at 0.9. -/
def emptyHighBand : NetworkThresholds :=
  ⟨some (3 / 10), some (1 / 2), some (9 / 10), some (9 / 10)⟩

/-- There a receive score of 0.95 whose capacity is not exhausted is shown and
shaped as high, and the gauge stays at medium. -/
theorem gauge_below_display :
    emptyHighBand.Ordered ∧
      (∀ entry ∈ (receiving (19 / 20)).entries, InRange entry.2) ∧
      emptyHighBand.displayLevel ⟨19 / 20, 0, false⟩ .rx = .high ∧
      emptyHighBand.shaperLevel ⟨19 / 20, 0, false⟩ .rx = .high ∧
      (emptyHighBand.computeFusedNetworkPressure (receiving (19 / 20))).map
        (·.level) = some .medium ∧
      ¬ emptyHighBand.ViewsAgree (receiving (19 / 20)) := by
  have gauge : (emptyHighBand.computeFusedNetworkPressure
      (receiving (19 / 20))).map (·.level) = some .medium := by
    decide +kernel
  refine ⟨⟨_, _, _, _, rfl, by norm_num, by norm_num, by norm_num⟩,
    inRange_receiving, by decide +kernel, by decide +kernel, gauge, ?_⟩
  intro agree
  obtain ⟨other, same, most, -⟩ := agree.gauged (List.cons_ne_nil _ _)
  rw [same] at gauge
  have level : other.level = .medium := Option.some.inj gauge
  have shown := most ("eth0", ⟨19 / 20, 0, false⟩) List.mem_cons_self .rx
  rw [level] at shown
  exact absurd shown (by decide +kernel)

end NetworkThresholds

end SmarTune
