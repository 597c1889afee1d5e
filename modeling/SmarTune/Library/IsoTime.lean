import SmarTune.Library.FixedWidth
import Mathlib.Data.String.Basic
import Mathlib.Tactic.Ring

/-!
# ISO 8601 timestamps

A timestamp is a reading of a local clock together with the offset of that clock
from UTC.  Its text begins with the reading, in fields of fixed width, so texts
are ordered by the readings first; the instant is the reading less the offset.
-/

namespace IsoTime

open FixedWidth

/-! ## The calendar -/

/-- `_is_leap`. -/
def isLeap (year : ℕ) : Bool :=
  decide (year % 4 = 0 ∧ (year % 100 ≠ 0 ∨ year % 400 = 0))

/-- `_days_in_month`. -/
def daysInMonth (leap : Bool) : ℕ → ℕ
  | 2 => if leap then 29 else 28
  | 4 | 6 | 9 | 11 => 30
  | 1 | 3 | 5 | 7 | 8 | 10 | 12 => 31
  | _ => 0

/-- `_days_before_month`. -/
def daysBeforeMonth (leap : Bool) : ℕ → ℕ
  | 0 => 0
  | month + 1 => daysBeforeMonth leap month + daysInMonth leap month

/-- `_days_before_year`. -/
def daysBeforeYear (year : ℕ) : ℕ :=
  (year - 1) * 365 + (year - 1) / 4 - (year - 1) / 100 + (year - 1) / 400

theorem daysBeforeMonth_of_lt (leap : Bool) {month later : ℕ}
    (earlier : month < later) :
    daysBeforeMonth leap month + daysInMonth leap month ≤
      daysBeforeMonth leap later := by
  induction later, earlier using Nat.le_induction with
  | base => exact le_refl _
  | succ later _ ih =>
    rw [daysBeforeMonth]
    omega

theorem daysBeforeMonth_thirteen (leap : Bool) :
    daysBeforeMonth leap 13 = if leap then 366 else 365 := by
  cases leap <;> rfl

theorem daysBeforeYear_succ {year : ℕ} (positive : 1 ≤ year) :
    daysBeforeYear (year + 1) =
      daysBeforeYear year + daysBeforeMonth (isLeap year) 13 := by
  obtain ⟨before, rfl⟩ := Nat.exists_eq_add_of_le' positive
  have fourth : (before + 1) / 4 = _ := Nat.succ_div
  have century : (before + 1) / 100 = _ := Nat.succ_div
  have fourCenturies : (before + 1) / 400 = _ := Nat.succ_div
  have fewer : before / 100 ≤ before / 4 :=
    Nat.div_le_div_left (by omega) (by omega)
  have centuryFourth : 100 ∣ before + 1 → 4 ∣ before + 1 :=
    Dvd.dvd.trans (by decide)
  have fourCenturiesCentury : 400 ∣ before + 1 → 100 ∣ before + 1 :=
    Dvd.dvd.trans (by decide)
  rw [daysBeforeMonth_thirteen]
  simp only [daysBeforeYear, isLeap, decide_eq_true_eq, Nat.add_sub_cancel,
    ne_eq, ← Nat.dvd_iff_mod_eq_zero, fourth, century, fourCenturies]
  -- Only divisibility is left to decide, the quotients are like any numbers.
  clear fourth century fourCenturies
  generalize before / 4 = fourths at fewer ⊢
  generalize before / 100 = centuries at fewer ⊢
  generalize before / 400 = fours
  by_cases byFour : 4 ∣ before + 1
  · by_cases byCentury : 100 ∣ before + 1
    · by_cases byFours : 400 ∣ before + 1
      · simp only [byFour, byCentury, byFours, not_true, false_or, and_self,
          if_true]
        omega
      · simp only [byFour, byCentury, byFours, not_true, or_self, and_false,
          if_true, if_false]
        omega
    · have byFours := mt fourCenturiesCentury byCentury
      simp only [byFour, byCentury, byFours, not_false_eq_true, true_or,
        and_self, if_true, if_false]
      omega
  · have byCentury := mt centuryFourth byFour
    have byFours := mt fourCenturiesCentury byCentury
    simp only [byFour, byCentury, byFours, false_and, if_false]
    omega

theorem daysBeforeYear_of_lt {year later : ℕ} (positive : 1 ≤ year)
    (earlier : year < later) :
    daysBeforeYear year + daysBeforeMonth (isLeap year) 13 ≤
      daysBeforeYear later := by
  induction later, earlier using Nat.le_induction with
  | base => exact (daysBeforeYear_succ positive).ge
  | succ later above ih =>
    rw [daysBeforeYear_succ (by omega)]
    omega

/-! ## Clock readings -/

/-- A `datetime` without an offset. -/
structure LocalTime where
  year : ℕ
  month : ℕ
  day : ℕ
  hour : ℕ
  minute : ℕ
  second : ℕ
  microsecond : ℕ := 0
  year_bounds : 1 ≤ year ∧ year ≤ 9999 := by decide
  month_bounds : 1 ≤ month ∧ month ≤ 12 := by decide
  day_bounds : 1 ≤ day ∧ day ≤ daysInMonth (isLeap year) month := by decide
  hour_lt : hour < 24 := by decide
  minute_lt : minute < 60 := by decide
  second_lt : second < 60 := by decide
  microsecond_lt : microsecond < 1000000 := by decide
  deriving DecidableEq

namespace LocalTime

/-- `toordinal`. -/
def toordinal (time : LocalTime) : ℕ :=
  daysBeforeYear time.year +
    daysBeforeMonth (isLeap time.year) time.month + time.day

/-- The whole seconds that the clock reads. -/
def seconds (time : LocalTime) : ℕ :=
  ((time.toordinal * 24 + time.hour) * 60 + time.minute) * 60 + time.second

/-- `YYYY-MM-DD`. -/
def dateText (time : LocalTime) : List Char :=
  digits 4 time.year ++ ['-'] ++ digits 2 time.month ++ ['-'] ++
    digits 2 time.day

/-- `YYYY-MM-DDTHH:MM:SS`. -/
def secondsText (time : LocalTime) : List Char :=
  time.dateText ++ ['T'] ++ digits 2 time.hour ++ [':'] ++
    digits 2 time.minute ++ [':'] ++ digits 2 time.second

theorem day_le (time : LocalTime) : time.day ≤ 31 := by
  have bound := time.day_bounds.2
  have longest : ∀ leap month, daysInMonth leap month ≤ 31 := by
    intro leap month
    unfold daysInMonth
    split <;> (try split) <;> omega
  exact bound.trans (longest _ _)

/-- The place of a date among the dates, field by field. -/
private def dateFields (time : LocalTime) : ℕ :=
  (time.year * 13 + time.month) * 32 + time.day

/-- A later date has the greater ordinal. -/
private theorem toordinal_lt_of_dateFields {first second : LocalTime}
    (earlier : first.dateFields < second.dateFields) :
    first.toordinal < second.toordinal := by
  have firstMonth := first.month_bounds
  have secondMonth := second.month_bounds
  have firstDay := first.day_bounds
  have secondDay := second.day_bounds
  have firstShort := first.day_le
  have secondShort := second.day_le
  unfold dateFields at earlier
  unfold toordinal
  rcases lt_trichotomy first.year second.year with before | same | after
  · have years := daysBeforeYear_of_lt first.year_bounds.1 before
    have months := daysBeforeMonth_of_lt (isLeap first.year)
      (show first.month < 13 by omega)
    omega
  · rw [same] at earlier firstDay ⊢
    rcases lt_trichotomy first.month second.month with before | sameMonth | after
    · have months := daysBeforeMonth_of_lt (isLeap second.year) before
      omega
    · rw [sameMonth] at earlier ⊢
      omega
    · omega
  · omega

private theorem dateFields_lt_iff (first second : LocalTime) :
    first.dateFields < second.dateFields ↔
      first.toordinal < second.toordinal := by
  refine ⟨toordinal_lt_of_dateFields, fun below => ?_⟩
  by_contra notBelow
  rcases Nat.lt_or_ge second.dateFields first.dateFields with above | notAbove
  · have contrary := toordinal_lt_of_dateFields above
    omega
  · have same : first.dateFields = second.dateFields := by omega
    have firstMonth := first.month_bounds
    have secondMonth := second.month_bounds
    have firstShort := first.day_le
    have secondShort := second.day_le
    unfold dateFields at same
    have sameYear : first.year = second.year := by omega
    have sameMonth : first.month = second.month := by omega
    have sameDay : first.day = second.day := by omega
    unfold toordinal at below
    rw [sameYear, sameMonth, sameDay] at below
    exact lt_irrefl _ below

theorem tracks_dateText : Tracks dateText toordinal := by
  have year : Tracks (fun time : LocalTime => digits 4 time.year) year :=
    Tracks.of_digits fun time => by have := time.year_bounds; omega
  have month : Tracks (fun time : LocalTime => digits 2 time.month) month :=
    Tracks.of_digits fun time => by have := time.month_bounds; omega
  have day : Tracks (fun time : LocalTime => digits 2 time.day) day :=
    Tracks.of_digits fun time => by have := time.day_le; omega
  have fields := ((year.separator '-').append month
    fun time => Nat.lt_succ_of_le time.month_bounds.2).separator '-' |>.append
      day fun time => Nat.lt_succ_of_le time.day_le
  exact fields.congr dateFields_lt_iff

/-- Clock readings are ordered as their texts. -/
theorem tracks_secondsText : Tracks secondsText seconds := by
  have hour : Tracks (fun time : LocalTime => digits 2 time.hour) hour :=
    Tracks.of_digits fun time => by have := time.hour_lt; omega
  have minute : Tracks (fun time : LocalTime => digits 2 time.minute) minute :=
    Tracks.of_digits fun time => by have := time.minute_lt; omega
  have second : Tracks (fun time : LocalTime => digits 2 time.second) second :=
    Tracks.of_digits fun time => by have := time.second_lt; omega
  have hours := (tracks_dateText.separator 'T').append hour hour_lt
  have minutes := (hours.separator ':').append minute minute_lt
  exact (minutes.separator ':').append second second_lt

end LocalTime

/-! ## Offsets -/

/-- An offset from UTC in seconds, less than a day. -/
structure UtcOffset where
  seconds : ℤ
  bounds : -86400 < seconds ∧ seconds < 86400 := by decide
  deriving DecidableEq

namespace UtcOffset

def utc : UtcOffset where
  seconds := 0

/-- `+` or `-`. -/
def sign (offset : UtcOffset) : List Char :=
  if offset.seconds < 0 then ['-'] else ['+']

/-- `+HH:MM`. -/
def minutesText (offset : UtcOffset) : List Char :=
  offset.sign ++ digits 2 (offset.seconds.natAbs / 3600) ++ [':'] ++
    digits 2 (offset.seconds.natAbs / 60 % 60)

/-- `:SS`, when there are any seconds. -/
def secondsText (offset : UtcOffset) : List Char :=
  if offset.seconds.natAbs % 60 = 0 then []
  else ':' :: digits 2 (offset.seconds.natAbs % 60)

/-- `+HH:MM[:SS]`. -/
def text (offset : UtcOffset) : List Char :=
  offset.minutesText ++ offset.secondsText

/-- The place of an offset among the texts: what is ahead of UTC comes before
what is behind it, the smaller offset first. -/
def rank (offset : UtcOffset) : ℕ :=
  if offset.seconds < 0 then 86400 + offset.seconds.natAbs
  else offset.seconds.natAbs

/-- The place of a sign. -/
private def signRank (offset : UtcOffset) : ℕ :=
  if offset.seconds < 0 then 1 else 0

private theorem tracks_sign : Tracks sign signRank where
  length_eq first second := by
    unfold sign
    split <;> split <;> rfl
  lt_iff first second := by
    unfold sign signRank
    split <;> split <;> decide

private theorem tracks_minutesText :
    Tracks minutesText fun offset =>
      (offset.signRank * 24 + offset.seconds.natAbs / 3600) * 60 +
        offset.seconds.natAbs / 60 % 60 := by
  have hours : ∀ offset : UtcOffset, offset.seconds.natAbs / 3600 < 24 := by
    intro offset
    have bounds := offset.bounds
    omega
  have minutes : ∀ offset : UtcOffset, offset.seconds.natAbs / 60 % 60 < 60 :=
    fun offset => Nat.mod_lt _ (by decide)
  have hour : Tracks
      (fun offset : UtcOffset => digits 2 (offset.seconds.natAbs / 3600))
      fun offset => offset.seconds.natAbs / 3600 :=
    Tracks.of_digits fun offset => (hours offset).trans (by decide)
  have minute : Tracks
      (fun offset : UtcOffset => digits 2 (offset.seconds.natAbs / 60 % 60))
      fun offset => offset.seconds.natAbs / 60 % 60 :=
    Tracks.of_digits fun offset => (minutes offset).trans (by decide)
  exact ((tracks_sign.append hour hours).separator ':').append minute minutes

private theorem secondsText_lt_iff (first second : UtcOffset) :
    first.secondsText < second.secondsText ↔
      first.seconds.natAbs % 60 < second.seconds.natAbs % 60 := by
  have firstFits : first.seconds.natAbs % 60 < 10 ^ 2 := by omega
  have secondFits : second.seconds.natAbs % 60 < 10 ^ 2 := by omega
  unfold secondsText
  by_cases firstZero : first.seconds.natAbs % 60 = 0
  · rw [if_pos firstZero, firstZero]
    by_cases secondZero : second.seconds.natAbs % 60 = 0
    · simp [secondZero]
    · simp [secondZero, Nat.pos_iff_ne_zero]
  · rw [if_neg firstZero]
    by_cases secondZero : second.seconds.natAbs % 60 = 0
    · simp [secondZero]
    · rw [if_neg secondZero, List.cons_lt_cons_iff,
        digits_lt_digits_iff firstFits secondFits]
      simp

theorem text_lt_iff (first second : UtcOffset) :
    first.text < second.text ↔ first.rank < second.rank := by
  have firstBounds := first.bounds
  have secondBounds := second.bounds
  rw [text, text, tracks_minutesText.append_lt_iff, secondsText_lt_iff]
  unfold signRank rank
  split <;> split <;> omega

/-- No offset comes before UTC. -/
theorem rank_utc : utc.rank = 0 := rfl

theorem text_utc : utc.text = ['+', '0', '0', ':', '0', '0'] := by decide

theorem rank_eq_zero_iff (offset : UtcOffset) :
    offset.rank = 0 ↔ offset.seconds = 0 := by
  unfold rank
  split <;> omega

end UtcOffset

/-! ## Timestamps -/

/-- How much of the fraction of a second `isoformat` shows. -/
inductive Timespec
  | auto
  | seconds
  | milliseconds
  deriving DecidableEq

namespace Timespec

/-- The microseconds that are shown. -/
def shown : Timespec → ℕ → ℕ
  | .auto, microsecond => microsecond
  | .seconds, _ => 0
  | .milliseconds, microsecond => microsecond / 1000 * 1000

/-- The text of the fraction. -/
def fraction : Timespec → ℕ → List Char
  | .auto, microsecond =>
    if microsecond = 0 then [] else '.' :: digits 6 microsecond
  | .seconds, _ => []
  | .milliseconds, microsecond => '.' :: digits 3 (microsecond / 1000)

/-- There is no fraction, or it begins with a point. -/
theorem fraction_cases (timespec : Timespec) (microsecond : ℕ) :
    timespec.fraction microsecond = [] ∨
      ∃ rest, timespec.fraction microsecond = '.' :: rest := by
  cases timespec with
  | auto =>
    by_cases whole : microsecond = 0
    · exact Or.inl (if_pos whole)
    · exact Or.inr ⟨_, if_neg whole⟩
  | seconds => exact Or.inl rfl
  | milliseconds => exact Or.inr ⟨_, rfl⟩

end Timespec

/-- A `datetime` with an offset. -/
structure AwareTime where
  clock : LocalTime
  utcoffset : UtcOffset
  deriving DecidableEq

namespace AwareTime

/-- The time with the fields, unless one of them is out of range. -/
def ofFields? (year month day hour minute second microsecond : ℕ)
    (offset : ℤ) : Option AwareTime :=
  if valid : (1 ≤ year ∧ year ≤ 9999) ∧ (1 ≤ month ∧ month ≤ 12) ∧
      (1 ≤ day ∧ day ≤ daysInMonth (isLeap year) month) ∧
      (hour < 24 ∧ minute < 60 ∧ second < 60 ∧ microsecond < 1000000) ∧
      -86400 < offset ∧ offset < 86400 then
    let ⟨yearBounds, monthBounds, dayBounds, clock, offsetBounds⟩ := valid
    some ⟨⟨year, month, day, hour, minute, second, microsecond, yearBounds,
      monthBounds, dayBounds, clock.1, clock.2.1, clock.2.2.1, clock.2.2.2⟩,
      ⟨offset, offsetBounds⟩⟩
  else none

/-- What follows the seconds in a timestamp. -/
def tail (timespec : Timespec) (time : AwareTime) : List Char :=
  timespec.fraction time.clock.microsecond ++ time.utcoffset.text

/-- `isoformat`. -/
def isoformat (timespec : Timespec) (time : AwareTime) : String :=
  String.ofList (time.clock.secondsText ++ time.tail timespec)

/-- The microseconds that the local clock reads in a timestamp. -/
def reading (timespec : Timespec) (time : AwareTime) : ℕ :=
  time.clock.seconds * 1000000 + timespec.shown time.clock.microsecond

/-- The instant of a timestamp, in microseconds. -/
def instant (timespec : Timespec) (time : AwareTime) : ℤ :=
  time.reading timespec - time.utcoffset.seconds * 1000000

theorem isoformat_lt_iff (firstSpec secondSpec : Timespec)
    (first second : AwareTime) :
    first.isoformat firstSpec < second.isoformat secondSpec ↔
      first.clock.seconds < second.clock.seconds ∨
        first.clock.seconds = second.clock.seconds ∧
          first.tail firstSpec < second.tail secondSpec := by
  rw [isoformat, isoformat, String.lt_iff_toList_lt, String.toList_ofList,
    String.toList_ofList, LocalTime.tracks_secondsText.append_lt_iff]

/-- Timestamps in milliseconds are ordered by the readings of the local clocks,
and equal readings by the offsets. -/
theorem isoformat_milliseconds_lt_iff (first second : AwareTime) :
    first.isoformat .milliseconds < second.isoformat .milliseconds ↔
      first.reading .milliseconds < second.reading .milliseconds ∨
        first.reading .milliseconds = second.reading .milliseconds ∧
          first.utcoffset.rank < second.utcoffset.rank := by
  have firstBound := first.clock.microsecond_lt
  have secondBound := second.clock.microsecond_lt
  have milliseconds : Tracks
      (fun time : AwareTime => digits 3 (time.clock.microsecond / 1000))
      fun time => time.clock.microsecond / 1000 :=
    Tracks.of_digits fun time => by
      have bound := time.clock.microsecond_lt
      omega
  have tails : first.tail .milliseconds < second.tail .milliseconds ↔
      first.clock.microsecond / 1000 < second.clock.microsecond / 1000 ∨
        first.clock.microsecond / 1000 = second.clock.microsecond / 1000 ∧
          first.utcoffset.rank < second.utcoffset.rank := by
    rw [tail, tail, Timespec.fraction, Timespec.fraction, List.cons_append,
      List.cons_append, List.cons_lt_cons_iff,
      milliseconds.append_lt_iff first second, UtcOffset.text_lt_iff]
    simp
  rw [isoformat_lt_iff, tails]
  simp only [reading, Timespec.shown]
  omega

/-! ### Against a whole second of UTC -/

def utc (clock : LocalTime) : AwareTime where
  clock := clock
  utcoffset := .utc

theorem instant_utc_auto (clock : LocalTime) :
    (utc clock).instant .auto =
      (clock.seconds : ℤ) * 1000000 + clock.microsecond := by
  simp [instant, reading, utc, UtcOffset.utc, Timespec.shown]

/-- A timestamp shows no fraction and an offset of zero. -/
def Bare (timespec : Timespec) (time : AwareTime) : Prop :=
  timespec.fraction time.clock.microsecond = [] ∧ time.utcoffset.seconds = 0

instance (timespec : Timespec) (time : AwareTime) :
    Decidable (time.Bare timespec) :=
  inferInstanceAs (Decidable (_ ∧ _))

private theorem tail_utc (clock : LocalTime) :
    (utc clock).tail .seconds = UtcOffset.utc.text := rfl

/-- What follows the seconds comes after the offset of UTC unless the timestamp
is a bare one. -/
private theorem utc_lt_tail_iff (timespec : Timespec) (time : AwareTime)
    (clock : LocalTime) :
    (utc clock).tail .seconds < time.tail timespec ↔ ¬time.Bare timespec := by
  have offsets := UtcOffset.text_lt_iff .utc time.utcoffset
  rw [UtcOffset.rank_utc, Nat.pos_iff_ne_zero, ne_eq,
    UtcOffset.rank_eq_zero_iff] at offsets
  rw [tail_utc, tail, Bare]
  rcases timespec.fraction_cases time.clock.microsecond with
    plain | ⟨rest, shown⟩
  · rw [plain, List.nil_append, offsets]
    simp
  · rw [shown, UtcOffset.text_utc, List.cons_append, List.cons_lt_cons_iff]
    simp only [reduceCtorEq, false_and, not_false_eq_true, iff_true]
    exact Or.inl (by decide)

private theorem not_tail_lt_utc (timespec : Timespec) (time : AwareTime)
    (clock : LocalTime) :
    ¬time.tail timespec < (utc clock).tail .seconds := by
  rw [tail_utc, tail]
  rcases timespec.fraction_cases time.clock.microsecond with
    plain | ⟨rest, shown⟩
  · rw [plain, List.nil_append, UtcOffset.text_lt_iff, UtcOffset.rank_utc]
    exact Nat.not_lt_zero _
  · rw [shown, UtcOffset.text_utc, List.cons_append, List.cons_lt_cons_iff]
    simp only [Char.reduceEq, false_and, or_false]
    decide

theorem isoformat_le_utc_iff (timespec : Timespec) (time : AwareTime)
    (clock : LocalTime) :
    time.isoformat timespec ≤ (utc clock).isoformat .seconds ↔
      time.clock.seconds < clock.seconds ∨
        time.clock.seconds = clock.seconds ∧ time.Bare timespec := by
  rw [← not_lt, isoformat_lt_iff, utc_lt_tail_iff]
  simp only [utc]
  by_cases bare : time.Bare timespec <;> simp [bare] <;> omega

theorem utc_le_isoformat_iff (timespec : Timespec) (time : AwareTime)
    (clock : LocalTime) :
    (utc clock).isoformat .seconds ≤ time.isoformat timespec ↔
      clock.seconds ≤ time.clock.seconds := by
  rw [← not_lt, isoformat_lt_iff]
  simp only [not_tail_lt_utc, and_false, or_false, not_lt]
  rfl

end AwareTime

end IsoTime
