import SmarTune.Diagnostics.AlertState
import SmarTune.Library.IsoTime
import SmarTune.Library.Latest

/-!
# Alerts of a window

`query_alerts` compares the texts of timestamps with the texts of the bounds of
the window, which are whole seconds of UTC.  So it asks whether the local clocks
read a time in the window, not whether the occurrence overlaps it.
-/

namespace SmarTune

open IsoTime

/-- A time as it was written into the alert tables. -/
structure WrittenTime where
  time : AwareTime
  timespec : Timespec
  deriving DecidableEq

namespace WrittenTime

/-- The text in the table. -/
def text (stamp : WrittenTime) : String :=
  stamp.time.isoformat stamp.timespec

def instant (stamp : WrittenTime) : ℤ :=
  stamp.time.instant stamp.timespec

/-- Written by `_now_iso`. -/
def ofNowIso (clock : LocalTime) : WrittenTime where
  time := .utc clock
  timespec := .seconds

end WrittenTime

/-- An active alert or an archived occurrence. -/
abbrev AlertRecord (Id : Type*) :=
  AlertRow WrittenTime Id ⊕ AlertEpisode WrittenTime Id

/-- The columns that both tables have. -/
def AlertRecord.occurrence {Id : Type*} :
    AlertRecord Id → Occurrence WrittenTime Id
  | .inl row => row.occurrence
  | .inr episode => episode.occurrence

/-- `start_time` and `end_time`, as UTC times. -/
structure AlertWindow where
  startTime : Option LocalTime
  endTime : Option LocalTime

section Query

variable {Id : Type*}

/-- Sorted by `last_fired_at`, the latest first. -/
def byLastFired (records : List (AlertRecord Id)) : List (AlertRecord Id) :=
  Latest.chronological
    (fun record => OrderDual.toDual record.occurrence.lastFiredAt.text) records

/-- `isoformat(timespec="seconds")` of a UTC time. -/
def secondsIso (clock : LocalTime) : String :=
  (AwareTime.utc clock).isoformat .seconds

/-- `first_fired_at <= end_iso`. -/
def AlertWindow.firedBefore (window : AlertWindow)
    (occurrence : Occurrence WrittenTime Id) : Bool :=
  window.endTime.all fun bound =>
    decide (occurrence.firstFiredAt.text ≤ secondsIso bound)

/-- `resolved_at >= start_iso`. -/
def AlertWindow.resolvedAfter (window : AlertWindow)
    (episode : AlertEpisode WrittenTime Id) : Bool :=
  window.startTime.all fun bound =>
    decide (secondsIso bound ≤ episode.resolvedAt.text)

/-- Not acknowledged, and not silenced at the time. -/
def notifyableAt (now : LocalTime)
    (occurrence : Occurrence WrittenTime Id) : Bool :=
  occurrence.acknowledgedAt.isNone &&
    occurrence.silencedUntil.all fun silencedUntil =>
      decide (silencedUntil.text ≤ secondsIso now)

def selectedRows (window : AlertWindow) (notifyableOnly : Bool)
    (now : LocalTime)
    (rows : List (AlertRow WrittenTime Id)) : List (AlertRecord Id) :=
  (rows.filter fun row =>
    decide (row.status = .active) && window.firedBefore row.occurrence &&
      (!notifyableOnly || notifyableAt now row.occurrence)).map .inl

def selectedEpisodes (window : AlertWindow)
    (episodes : List (AlertEpisode WrittenTime Id)) : List (AlertRecord Id) :=
  (episodes.filter fun episode =>
    window.firedBefore episode.occurrence && window.resolvedAfter episode).map
      .inr

/-- `query_alerts`. -/
def queryAlerts (activeOnly notifyableOnly : Bool) (limit : ℤ)
    (window : AlertWindow) (now : LocalTime)
    (rows : List (AlertRow WrittenTime Id))
    (episodes : List (AlertEpisode WrittenTime Id)) : List (AlertRecord Id) :=
  let limit := (max 1 limit).toNat
  let rows := (byLastFired (selectedRows window notifyableOnly now rows)).take
    limit
  -- Closed occurrences are never notifyable.
  if activeOnly || notifyableOnly then rows
  else
    (byLastFired (rows ++
      (byLastFired (selectedEpisodes window episodes)).take limit)).take limit

/-! ## What overlaps the window -/

/-- The active alerts and the archived occurrences. -/
def occurrences (rows : List (AlertRow WrittenTime Id))
    (episodes : List (AlertEpisode WrittenTime Id)) : List (AlertRecord Id) :=
  (rows.filter fun row => row.status = .active).map .inl ++ episodes.map .inr

/-- The end of an occurrence: when it was resolved, or now. -/
def AlertRecord.endsAt (now : LocalTime) : AlertRecord Id → ℤ
  | .inl _ => (AwareTime.utc now).instant .auto
  | .inr episode => episode.resolvedAt.instant

/-- The span of the occurrence overlaps the window. -/
def Overlaps (window : AlertWindow) (now : LocalTime)
    (record : AlertRecord Id) : Prop :=
  (∀ bound ∈ window.endTime, record.occurrence.firstFiredAt.instant ≤
      (AwareTime.utc bound).instant .auto) ∧
  ∀ bound ∈ window.startTime,
    (AwareTime.utc bound).instant .auto ≤ record.endsAt now

instance (window : AlertWindow) (now : LocalTime) (record : AlertRecord Id) :
    Decidable (Overlaps window now record) :=
  inferInstanceAs (Decidable (_ ∧ _))

/-- The alert is active, not acknowledged, and its silence has ended. -/
def Notifyable (now : LocalTime) : AlertRecord Id → Prop
  | .inl row =>
    row.occurrence.acknowledgedAt = none ∧
      ∀ silencedUntil ∈ row.occurrence.silencedUntil,
        silencedUntil.instant ≤ (AwareTime.utc now).instant .auto
  | .inr _ => False

instance (now : LocalTime) (record : AlertRecord Id) :
    Decidable (Notifyable now record) :=
  match record with
  | .inl _ => inferInstanceAs (Decidable (_ ∧ _))
  | .inr _ => inferInstanceAs (Decidable False)

/-! ## What the local clocks read -/

/-- The local clocks read times in the window: the first fire in an earlier
second than the end, or in that second when it is written bare, and the
resolution not in an earlier second than the start. -/
def ReadsWithin (window : AlertWindow) (record : AlertRecord Id) : Prop :=
  (∀ bound ∈ window.endTime,
    record.occurrence.firstFiredAt.time.clock.seconds < bound.seconds ∨
      record.occurrence.firstFiredAt.time.clock.seconds = bound.seconds ∧
        record.occurrence.firstFiredAt.time.Bare
          record.occurrence.firstFiredAt.timespec) ∧
  match record with
  | .inl _ => True
  | .inr episode => ∀ bound ∈ window.startTime,
      bound.seconds ≤ episode.resolvedAt.time.clock.seconds

instance (window : AlertWindow) (record : AlertRecord Id) :
    Decidable (ReadsWithin window record) :=
  match record with
  | .inl _ => inferInstanceAs (Decidable (_ ∧ True))
  | .inr _ => inferInstanceAs (Decidable (_ ∧ ∀ bound ∈ window.startTime, _))

variable {window : AlertWindow} {now : LocalTime}

theorem firedBefore_iff {occurrence : Occurrence WrittenTime Id} :
    window.firedBefore occurrence = true ↔ ∀ bound ∈ window.endTime,
        occurrence.firstFiredAt.time.clock.seconds < bound.seconds ∨
          occurrence.firstFiredAt.time.clock.seconds = bound.seconds ∧
            occurrence.firstFiredAt.time.Bare
              occurrence.firstFiredAt.timespec := by
  unfold AlertWindow.firedBefore
  cases window.endTime with
  | none => simp
  | some bound =>
    simp [WrittenTime.text, secondsIso, AwareTime.isoformat_le_utc_iff]

theorem resolvedAfter_iff {episode : AlertEpisode WrittenTime Id} :
    window.resolvedAfter episode = true ↔ ∀ bound ∈ window.startTime,
        bound.seconds ≤ episode.resolvedAt.time.clock.seconds := by
  unfold AlertWindow.resolvedAfter
  cases window.startTime with
  | none => simp
  | some bound =>
    simp [WrittenTime.text, secondsIso, AwareTime.utc_le_isoformat_iff]

/-- A silence is written in whole seconds of UTC, so its end is seen in time. -/
theorem notifyableAt_iff {row : AlertRow WrittenTime Id}
    (silence : ∀ silencedUntil ∈ row.occurrence.silencedUntil,
      ∃ clock, silencedUntil = .ofNowIso clock) :
    notifyableAt now row.occurrence = true ↔ Notifyable now (.inl row) := by
  unfold notifyableAt Notifyable
  rw [Bool.and_eq_true, Option.isNone_iff_eq_none]
  refine and_congr_right fun _ => ?_
  cases silenced : row.occurrence.silencedUntil with
  | none => simp
  | some silencedUntil =>
    obtain ⟨clock, rfl⟩ := silence silencedUntil silenced
    have bound := now.microsecond_lt
    have bare : (AwareTime.utc clock).Bare .seconds := ⟨rfl, rfl⟩
    simp only [Option.all_some, decide_eq_true_eq, Option.mem_def,
      Option.some.injEq, forall_eq', WrittenTime.ofNowIso, WrittenTime.text,
      WrittenTime.instant, secondsIso, AwareTime.isoformat_le_utc_iff, bare,
      AwareTime.instant_utc_auto, and_true]
    simp only [AwareTime.instant, AwareTime.reading, AwareTime.utc,
      UtcOffset.utc, Timespec.shown]
    omega

/-! ## What is returned -/

variable {rows : List (AlertRow WrittenTime Id)}
  {episodes : List (AlertEpisode WrittenTime Id)} {limit : ℤ}

theorem byLastFired_perm (records : List (AlertRecord Id)) :
    (byLastFired records).Perm records :=
  Latest.chronological_perm _ records

theorem selected_eq_filter :
    selectedRows window false now rows ++ selectedEpisodes window episodes =
      (occurrences rows episodes).filter fun record =>
        ReadsWithin window record := by
  unfold selectedRows selectedEpisodes occurrences
  rw [List.filter_append, List.filter_map, List.filter_map, List.filter_filter]
  congr 2
  · apply List.filter_congr
    intro row _
    rw [Bool.eq_iff_iff]
    simp [ReadsWithin, firedBefore_iff, AlertRecord.occurrence, and_comm]
  · apply List.filter_congr
    intro episode _
    rw [Bool.eq_iff_iff]
    simp [ReadsWithin, firedBefore_iff, resolvedAfter_iff,
      AlertRecord.occurrence]

theorem selectedRows_notifyable
    (silences : ∀ row ∈ rows, ∀ silencedUntil ∈ row.occurrence.silencedUntil,
      ∃ clock, silencedUntil = .ofNowIso clock) :
    selectedRows window true now rows =
      (occurrences rows episodes).filter fun record =>
        ReadsWithin window record ∧ Notifyable now record := by
  unfold selectedRows occurrences
  have closed : (episodes.map Sum.inr).filter (fun record : AlertRecord Id =>
      decide (ReadsWithin window record ∧ Notifyable now record)) = [] := by
    simp [List.filter_eq_nil_iff, Notifyable]
  rw [List.filter_append, closed, List.append_nil, List.filter_map,
    List.filter_filter]
  congr 1
  apply List.filter_congr
  intro row member
  have notifyable := @notifyableAt_iff Id now row (silences row member)
  rw [Bool.eq_iff_iff]
  simp [ReadsWithin, firedBefore_iff, AlertRecord.occurrence, notifyable]
  tauto

/-- A limit that does not bind cuts nothing off. -/
theorem queryAlerts_perm
    (roomy : ((selectedRows window false now rows).length +
      (selectedEpisodes window episodes).length : ℤ) ≤ max 1 limit) :
    (queryAlerts false false limit window now rows episodes).Perm
      (selectedRows window false now rows ++
        selectedEpisodes window episodes) := by
  have rowsFit : (byLastFired (selectedRows window false now rows)).length ≤
      (max 1 limit).toNat := by
    rw [(byLastFired_perm _).length_eq]
    omega
  have episodesFit : (byLastFired (selectedEpisodes window episodes)).length ≤
      (max 1 limit).toNat := by
    rw [(byLastFired_perm _).length_eq]
    omega
  simp only [queryAlerts, Bool.or_self, Bool.false_eq_true, if_false]
  rw [List.take_of_length_le rowsFit, List.take_of_length_le episodesFit,
    List.take_of_length_le]
  · exact (byLastFired_perm _).trans
      ((byLastFired_perm _).append (byLastFired_perm _))
  · rw [(byLastFired_perm _).length_eq, List.length_append,
      (byLastFired_perm _).length_eq, (byLastFired_perm _).length_eq]
    omega

theorem length_selectedRows_le (notifyableOnly : Bool) :
    (selectedRows window notifyableOnly now rows).length ≤
      (selectedRows window false now rows).length := by
  unfold selectedRows
  rw [List.length_map, List.length_map]
  apply List.Sublist.length_le
  apply List.monotone_filter_right
  intro row
  simp only [Bool.and_eq_true, Bool.not_false, Bool.true_or, and_true]
  exact And.left

theorem queryAlerts_notifyable_perm
    (roomy : ((selectedRows window false now rows).length : ℤ) ≤ max 1 limit) :
    (queryAlerts false true limit window now rows episodes).Perm
      (selectedRows window true now rows) := by
  have fewer := @length_selectedRows_le Id window now rows true
  have fits : (byLastFired (selectedRows window true now rows)).length ≤
      (max 1 limit).toNat := by
    rw [(byLastFired_perm _).length_eq]
    omega
  simp only [queryAlerts, Bool.or_true, if_true]
  rw [List.take_of_length_le fits]
  exact byLastFired_perm _

/-- Two selections from one list are the same when they agree on its members. -/
private theorem filter_perm_filter_iff {α : Type*} {items : List α}
    {keeps selects : α → Bool} :
    (items.filter keeps).Perm (items.filter selects) ↔
      ∀ item ∈ items, keeps item = selects item := by
  constructor
  · intro perm item member
    have same := perm.mem_iff (a := item)
    simp only [List.mem_filter, member, true_and] at same
    exact Bool.eq_iff_iff.mpr same
  · intro same
    rw [List.filter_congr same]

variable (window now rows episodes limit) in
/-- The query returns exactly the occurrences that overlap the window, and with
`notifyable_only` exactly the notifyable ones among them. -/
def AnswersWindow : Prop :=
  (queryAlerts false false limit window now rows episodes).Perm
      ((occurrences rows episodes).filter fun record =>
        Overlaps window now record) ∧
    (queryAlerts false true limit window now rows episodes).Perm
      ((occurrences rows episodes).filter fun record =>
        Overlaps window now record ∧ Notifyable now record)

/-- The query answers rightly exactly when the local clocks read a time in the
window for the occurrences that overlap it and for no others. -/
theorem answersWindow_iff
    (silences : ∀ row ∈ rows, ∀ silencedUntil ∈ row.occurrence.silencedUntil,
      ∃ clock, silencedUntil = .ofNowIso clock)
    (roomy : ((selectedRows window false now rows).length +
      (selectedEpisodes window episodes).length : ℤ) ≤ max 1 limit) :
    AnswersWindow window now rows episodes limit ↔
      ∀ record ∈ occurrences rows episodes,
        ReadsWithin window record ↔ Overlaps window now record := by
  have all := queryAlerts_perm roomy
  rw [selected_eq_filter] at all
  have notifyable := @queryAlerts_notifyable_perm Id window now rows episodes
    limit (by omega)
  rw [selectedRows_notifyable silences] at notifyable
  constructor
  · rintro ⟨answer, -⟩ record member
    have same := filter_perm_filter_iff.mp (all.symm.trans answer) record member
    simpa using same
  · intro agrees
    refine ⟨all.trans (filter_perm_filter_iff.mpr ?_),
      notifyable.trans (filter_perm_filter_iff.mpr ?_)⟩
    · intro record member
      simp [agrees record member]
    · intro record member
      simp [agrees record member]

end Query

/-! ## A window on a host east of UTC -/

/-- Ten o'clock in summer in Central Europe, eight in UTC. -/
def tenInSummer : WrittenTime where
  time :=
    { clock :=
        { year := 2026, month := 7, day := 1, hour := 10, minute := 0
          second := 0 }
      utcoffset := { seconds := 7200 } }
  timespec := .milliseconds

/-- A given minute on the same day, in UTC. -/
def thatDay (hour minute : ℕ) (hour_lt : hour < 24)
    (minute_lt : minute < 60) : LocalTime where
  year := 2026
  month := 7
  day := 1
  hour := hour
  minute := minute
  second := 0
  hour_lt := hour_lt
  minute_lt := minute_lt

def firedAtTen : AlertRow WrittenTime String where
  occurrence :=
    { firstFiredAt := tenInSummer
      lastFiredAt := tenInSummer
      fireCount := 1
      lastEventId := "event"
      severity := .error
      summary := "GPU hang" }
  lastSeenAt := tenInSummer
  updateTime := 0

def sevenToNine : AlertWindow where
  startTime := some (thatDay 7 0 (by decide) (by decide))
  endTime := some (thatDay 9 0 (by decide) (by decide))

theorem answersWindow_firedAtTen_iff :
    AnswersWindow sevenToNine (thatDay 9 0 (by decide) (by decide)) [firedAtTen]
        [] 100 ↔
      ∀ record ∈ occurrences [firedAtTen] [], ReadsWithin sevenToNine record ↔
          Overlaps sevenToNine (thatDay 9 0 (by decide) (by decide)) record :=
  answersWindow_iff (by simp [firedAtTen]) (by decide)

/-- The alert fired within the last two hours and is not returned. -/
theorem active_alert_is_missed :
    ¬AnswersWindow sevenToNine (thatDay 9 0 (by decide) (by decide))
      [firedAtTen] [] 100 := by
  rintro ⟨answer, -⟩
  have missed : (queryAlerts false false 100 sevenToNine
      (thatDay 9 0 (by decide) (by decide)) [firedAtTen] []).length = 0 := by
    decide
  rw [answer.length_eq] at missed
  exact absurd missed (by decide)

end SmarTune
