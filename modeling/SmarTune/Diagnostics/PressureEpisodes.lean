import SmarTune.Library.Runs
import SmarTune.Library.StabilityTimer
import Mathlib.Algebra.Order.Group.Int
import Mathlib.Data.List.ReduceOption

/-!
# Debounced pressure transitions

`PressureLevelTracker` confirms another band once the samples have diverged from
the confirmed one in one direction for a dwell time.  The dwell is that of the
direction, so it speaks for having left the confirmed band; which band is
confirmed instead is up to the last sample.
-/

namespace SmarTune

/-- The recorded bands. -/
inductive PressureBand
  | normal
  | high
  | critical
  deriving DecidableEq

namespace PressureBand

/-- `_BAND_RANK`. -/
def rank : PressureBand → ℕ
  | .normal => 0
  | .high => 1
  | .critical => 2

/-- `_BAND_SEVERITY`. -/
def severity : PressureBand → String
  | .normal => "info"
  | .high => "warning"
  | .critical => "critical"

theorem rank_injective : Function.Injective rank := by
  intro first second same
  cases first <;> cases second <;> simp_all [rank]

end PressureBand

/-- The direction of a divergence. -/
inductive Divergence
  | up
  | down
  deriving DecidableEq

/-- The band lies beyond the other in the direction. -/
def Divergence.Beyond : Divergence → PressureBand → PressureBand → Prop
  | .up, reference, band => reference.rank < band.rank
  | .down, reference, band => band.rank < reference.rank

/-- The band is the target or lies beyond it. -/
def Divergence.Reaches (direction : Divergence)
    (target band : PressureBand) : Prop :=
  band = target ∨ direction.Beyond target band

instance (direction : Divergence) (reference band : PressureBand) :
    Decidable (direction.Beyond reference band) :=
  match direction with
  | .up => inferInstanceAs (Decidable (_ < _))
  | .down => inferInstanceAs (Decidable (_ < _))

instance (direction : Divergence) (target band : PressureBand) :
    Decidable (direction.Reaches target band) :=
  inferInstanceAs (Decidable (_ ∨ _))

/-- A pressure sample, but for its time. -/
structure PressureSignal (Score : Type*) where
  level : Option String
  score : Score

/-- `(level or "").lower()`. -/
def PressureSignal.rawLevel {Score : Type*} (reading : PressureSignal Score) :
    String :=
  String.ofList ((reading.level.getD "").toList.map Char.toLower)

/-- `_band`. -/
def PressureSignal.band {Score : Type*} (reading : PressureSignal Score) :
    PressureBand :=
  if reading.rawLevel = "high" then .high
  else if reading.rawLevel = "critical" then .critical
  else .normal

/-- The action that a confirmed change yields. -/
structure PressureChange (Score : Type*) where
  fromLevel : PressureBand
  toLevel : PressureBand
  rawLevel : String
  score : Score
  severity : String
  deriving DecidableEq

/-- The change passes over the high band. -/
def PressureChange.SkipsBand {Score : Type*} (change : PressureChange Score) :
    Prop :=
  change.fromLevel ≠ .high ∧ change.toLevel ≠ .high

/-- `PressureLevelTracker`. -/
structure PressureLevelTracker (Time : Type*) where
  triggerSeconds : Time
  clearSeconds : Time
  confirmed : PressureBand := .normal
  /-- `_pending_dir` and `_pending_since`, unless settled. -/
  pending : Option (Divergence × Time) := none

namespace PressureLevelTracker

variable {Time Score : Type*} [AddCommGroup Time] [LinearOrder Time]
  (tracker : PressureLevelTracker Time)
  (sample : Observation Time (PressureSignal Score))

/-- The dwell of a direction. -/
def dwell : Divergence → Time
  | .up => tracker.triggerSeconds
  | .down => tracker.clearSeconds

/-- The direction in which a sample diverges. -/
def direction : Divergence :=
  if tracker.confirmed.rank < sample.signal.band.rank then .up else .down

/-- Since when the samples have diverged in the direction of this one. -/
def divergedSince : Time :=
  match tracker.pending with
  | none => sample.time
  | some (pendingDir, pendingSince) =>
    if pendingDir = tracker.direction sample then pendingSince
    else sample.time

/-- The change that a sample confirms when the dwell is over. -/
def confirmedChange : PressureChange Score where
  fromLevel := tracker.confirmed
  toLevel := sample.signal.band
  rawLevel := sample.signal.rawLevel
  score := sample.signal.score
  severity := sample.signal.band.severity

/-! ## One sample -/

variable {tracker sample} in
omit [AddCommGroup Time] [LinearOrder Time] in
theorem beyond_direction (outside : sample.signal.band ≠ tracker.confirmed) :
    (tracker.direction sample).Beyond tracker.confirmed
      sample.signal.band := by
  unfold direction
  split
  · next above => exact above
  · next notAbove =>
    have different := mt (@PressureBand.rank_injective _ _) outside
    exact lt_of_le_of_ne (not_lt.mp notAbove) different

omit [AddCommGroup Time] [LinearOrder Time] in
/-- A divergence has been going on as long as the pending one in its direction,
or begins with the sample. -/
theorem divergedSince_cases :
    tracker.pending =
        some (tracker.direction sample, tracker.divergedSince sample) ∨
      tracker.divergedSince sample = sample.time := by
  unfold divergedSince
  cases pending : tracker.pending with
  | none => exact Or.inr rfl
  | some entry =>
    obtain ⟨pendingDir, pendingSince⟩ := entry
    by_cases same : pendingDir = tracker.direction sample
    · simp [same]
    · simp [same]

/-- `observe`. -/
def observe :
    Option (PressureChange Score) × PressureLevelTracker Time :=
  let band := sample.signal.band
  if band = tracker.confirmed then (none, { tracker with pending := none })
  else
    let direction := tracker.direction sample
    let since := tracker.divergedSince sample
    if sample.time - since < tracker.dwell direction then
      (none, { tracker with pending := some (direction, since) })
    else
      (some (tracker.confirmedChange sample),
        { tracker with confirmed := band, pending := none })

def next : PressureLevelTracker Time := (tracker.observe sample).2

/-- `run_once`, on what `_latest_pressure` reads. -/
def runOnce (reading : Option (Observation Time (PressureSignal Score))) :
    Option (PressureChange Score) × PressureLevelTracker Time :=
  match reading with
  | none => (none, tracker)
  | some sample => tracker.observe sample

/-- The changes that the samples yield, in order. -/
def changes (samples : List (Observation Time (PressureSignal Score))) :
    List (PressureChange Score) :=
  (Runs.observations next (fun tracker sample => (tracker.observe sample).1)
    tracker samples).reduceOption

theorem observe_cases :
    (sample.signal.band = tracker.confirmed ∧
      tracker.observe sample = (none, { tracker with pending := none })) ∨
    (sample.signal.band ≠ tracker.confirmed ∧ tracker.observe sample =
        (none, { tracker with
          pending := some (tracker.direction sample,
            tracker.divergedSince sample) })) ∨
    (sample.signal.band ≠ tracker.confirmed ∧
      tracker.dwell (tracker.direction sample) ≤
        sample.time - tracker.divergedSince sample ∧
      tracker.observe sample = (some (tracker.confirmedChange sample),
          { tracker with
            confirmed := sample.signal.band, pending := none })) := by
  by_cases settled : sample.signal.band = tracker.confirmed
  · left
    refine ⟨settled, ?_⟩
    unfold observe
    rw [if_pos settled]
  · right
    unfold observe
    rw [if_neg settled]
    by_cases waiting : sample.time - tracker.divergedSince sample <
        tracker.dwell (tracker.direction sample)
    · exact Or.inl ⟨settled, if_pos waiting⟩
    · exact Or.inr ⟨settled, not_lt.mp waiting, if_neg waiting⟩

theorem observe_eq_some {change : PressureChange Score}
    (emitted : (tracker.observe sample).1 = some change) :
    sample.signal.band ≠ tracker.confirmed ∧
      tracker.dwell (tracker.direction sample) ≤
        sample.time - tracker.divergedSince sample ∧
      tracker.confirmedChange sample = change := by
  rcases tracker.observe_cases sample with
    ⟨_, same⟩ | ⟨_, same⟩ | ⟨outside, elapsed, same⟩
  · rw [same] at emitted
    cases emitted
  · rw [same] at emitted
    cases emitted
  · rw [same] at emitted
    exact ⟨outside, elapsed, Option.some_inj.mp emitted⟩

/-! ## A run of samples -/

variable {tracker sample}
  {history samples : List (Observation Time (PressureSignal Score))}

variable (tracker history) in
/-- While a divergence is pending, every sample since its start has been beyond
the confirmed band in its direction. -/
def PendingSound : Prop :=
  ∀ direction since, tracker.pending = some (direction, since) →
    StabilityTimer.StartedIn (fun _ => True)
      (fun reading => direction.Beyond tracker.confirmed reading.band) history
      (some since)

omit [AddCommGroup Time] [LinearOrder Time] in
theorem PendingSound.diverged (sound : tracker.PendingSound history)
    (outside : sample.signal.band ≠ tracker.confirmed) :
    StabilityTimer.StartedIn (fun _ => True)
      (fun reading => (tracker.direction sample).Beyond tracker.confirmed
        reading.band)
      (history ++ [sample]) (some (tracker.divergedSince sample)) := by
  have beyond := beyond_direction outside
  rcases tracker.divergedSince_cases sample with pending | now
  · exact (sound _ _ pending).append fun _ => beyond
  · rw [now]
    rintro start started
    cases started
    refine ⟨history, sample, [], rfl, rfl, trivial, ?_⟩
    intro seen member _
    rw [List.mem_singleton.mp member]
    exact beyond

theorem PendingSound.next (sound : tracker.PendingSound history) :
    (tracker.next sample).PendingSound (history ++ [sample]) := by
  unfold PressureLevelTracker.next
  rcases tracker.observe_cases sample with ⟨_, same⟩ | ⟨outside, same⟩ | ⟨_, _, same⟩
  · rw [same]
    exact fun _ _ pending => by cases pending
  · rw [same]
    rintro direction since pending
    obtain ⟨rfl, rfl⟩ := Prod.mk.inj (Option.some_inj.mp pending)
    exact sound.diverged outside
  · rw [same]
    exact fun _ _ pending => by cases pending

theorem dwell_next (direction : Divergence) :
    (tracker.next sample).dwell direction = tracker.dwell direction := by
  unfold PressureLevelTracker.next dwell
  rcases tracker.observe_cases sample with ⟨_, same⟩ | ⟨_, same⟩ | ⟨_, _, same⟩
  · rw [same]
  · rw [same]
  · rw [same]

theorem dwell_run (direction : Divergence) :
    (Runs.run next tracker samples).dwell direction =
      tracker.dwell direction := by
  induction samples generalizing tracker with
  | nil => rfl
  | cons sample samples ih => rw [Runs.run_cons, ih, dwell_next]

theorem PendingSound.run (sound : tracker.PendingSound history) :
    (Runs.run PressureLevelTracker.next tracker samples).PendingSound (history ++ samples) := by
  induction samples generalizing tracker history with
  | nil => simpa using sound
  | cons sample samples ih =>
    have later := ih (@PendingSound.next _ _ _ _ _ sample _ sound)
    simpa using later

/-! ## What is emitted -/

/-- Every change goes from the level of the one before it, the first from the
given level. -/
def Chained : PressureBand → List (PressureChange Score) → Prop
  | _, [] => True
  | level, change :: changes =>
    change.fromLevel = level ∧ Chained change.toLevel changes

theorem chained_changes (tracker : PressureLevelTracker Time)
    (samples : List (Observation Time (PressureSignal Score))) :
    Chained tracker.confirmed (tracker.changes samples) := by
  induction samples generalizing tracker with
  | nil => trivial
  | cons sample samples ih =>
    have later := ih (tracker.next sample)
    unfold changes at later ⊢
    rw [Runs.observations]
    unfold PressureLevelTracker.next at later ⊢
    rcases tracker.observe_cases sample with
      ⟨_, same⟩ | ⟨_, same⟩ | ⟨_, _, same⟩
    · rw [same] at later ⊢
      exact later
    · rw [same] at later ⊢
      exact later
    · rw [same] at later ⊢
      exact ⟨rfl, later⟩

/-- From an observation at least the dwell ago on every reading meets the
condition: so do all that are less than the dwell old, and, when no two have one
time, those that are just as old. -/
structure HeldFor (seen : List (Observation Time (PressureSignal Score)))
    (now dwell : Time) (holds : PressureSignal Score → Prop) : Prop where
  fromFirst : ∃ earlier first later, seen = earlier ++ first :: later ∧
    dwell ≤ now - first.time ∧
    ∀ reading ∈ first :: later, holds reading.signal
  within : ∀ reading ∈ seen, now - reading.time < dwell → holds reading.signal
  upTo : (seen.Pairwise fun first second => first.time < second.time) →
    ∀ reading ∈ seen, now - reading.time ≤ dwell → holds reading.signal

theorem HeldFor.mono {now dwell : Time}
    {holds weaker : PressureSignal Score → Prop}
    (held : HeldFor history now dwell holds)
    (implies : ∀ reading, holds reading → weaker reading) :
    HeldFor history now dwell weaker where
  fromFirst := by
    obtain ⟨earlier, first, later, split, long, all⟩ := held.fromFirst
    exact ⟨earlier, first, later, split, long,
      fun reading member => implies _ (all reading member)⟩
  within reading member recent :=
    implies _ (held.within reading member recent)
  upTo strict reading member recent :=
    implies _ (held.upTo strict reading member recent)

theorem heldFor_of_startedIn [IsOrderedAddMonoid Time] {now dwell since : Time}
    {holds : PressureSignal Score → Prop}
    (ordered : history.Pairwise fun first second => first.time ≤ second.time)
    (started : StabilityTimer.StartedIn (fun _ => True) holds history
      (some since))
    (elapsed : dwell ≤ now - since) :
    HeldFor history now dwell holds where
  fromFirst := by
    obtain ⟨earlier, first, later, split, rfl, _, all⟩ := started since rfl
    exact ⟨earlier, first, later, split, elapsed,
      fun reading member => all reading member trivial⟩
  within reading member recent := by
    have after : since < reading.time := by
      have shorter : now - reading.time < now - since := recent.trans_le elapsed
      exact (sub_lt_sub_iff_left now).mp shorter
    exact started.calm_of_lt ordered member after trivial
  upTo strict reading member recent := by
    have after : since ≤ reading.time := by
      have shorter : now - reading.time ≤ now - since := recent.trans elapsed
      exact (sub_le_sub_iff_left now).mp shorter
    exact started.calm_of_le strict member after trivial

variable (tracker) in
/-- The change that a sample emits after others. -/
def emittedAt (before : List (Observation Time (PressureSignal Score)))
    (sample : Observation Time (PressureSignal Score)) :
    Option (PressureChange Score) :=
  ((Runs.run PressureLevelTracker.next tracker before).observe sample).1

theorem reaches_of_beyond {direction : Divergence}
    {source target band : PressureBand}
    (adjacent : source = .high ∨ target = .high)
    (forward : direction.Beyond source target)
    (beyond : direction.Beyond source band) :
    direction.Reaches target band := by
  revert adjacent forward beyond
  cases direction <;> cases source <;> cases target <;> cases band <;> decide

/-- The changes of time-ordered samples form a chain from normal.  A change is to
the band of its sample; over the dwell of its direction every sample was beyond
the band that is left, and so at least at the new band unless the change passes
over a band. -/
theorem debounced_transitions [IsOrderedAddMonoid Time]
    (triggerSeconds clearSeconds : Time)
    (ordered : samples.Pairwise fun first second =>
      first.time ≤ second.time) :
    let tracker : PressureLevelTracker Time :=
      { triggerSeconds := triggerSeconds, clearSeconds := clearSeconds }
    Chained .normal (tracker.changes samples) ∧
    ∀ before last after change, samples = before ++ last :: after →
      tracker.emittedAt before last = some change →
        change.toLevel = last.signal.band ∧
        ∃ direction : Divergence,
          direction.Beyond change.fromLevel change.toLevel ∧
          HeldFor (before ++ [last]) last.time (tracker.dwell direction)
            (fun reading => direction.Beyond change.fromLevel reading.band) ∧
          (¬change.SkipsBand →
            HeldFor (before ++ [last]) last.time (tracker.dwell direction)
              fun reading =>
                direction.Reaches change.toLevel reading.band) := by
  intro tracker
  refine ⟨chained_changes tracker samples, ?_⟩
  rintro before last after change rfl emitted
  have initially : tracker.PendingSound
      ([] : List (Observation Time (PressureSignal Score))) :=
    fun _ _ pending => by cases pending
  have sound : (Runs.run PressureLevelTracker.next tracker before).PendingSound
      before := initially.run
  have soFar : (before ++ [last]).Pairwise fun first second =>
      first.time ≤ second.time := by
    refine ordered.sublist ?_
    exact (List.Sublist.refl before).append
      (List.singleton_sublist.mpr List.mem_cons_self)
  obtain ⟨outside, elapsed, rfl⟩ :=
    (Runs.run PressureLevelTracker.next tracker before).observe_eq_some last
      emitted
  rw [dwell_run] at elapsed
  have held := heldFor_of_startedIn soFar (sound.diverged outside) elapsed
  have forward := beyond_direction outside
  refine ⟨rfl, _, forward, held, fun keeps => ?_⟩
  have adjacent := not_and_or.mp keeps
  rw [not_not, not_not] at adjacent
  exact held.mono fun _ beyond => reaches_of_beyond adjacent forward beyond

end PressureLevelTracker

/-! ## A single critical sample -/

/-- The tracker that the driver runs. -/
def pressureTracker : PressureLevelTracker ℤ where
  triggerSeconds := 30
  clearSeconds := 60

/-- A rise is to a band at or beyond which every sample of the trigger time
was. -/
def RisesSustained (samples : List (Observation ℤ (PressureSignal ℕ))) : Prop :=
  ∀ before last after change, samples = before ++ last :: after →
    pressureTracker.emittedAt before last = some change →
    Divergence.up.Beyond change.fromLevel change.toLevel →
    ∀ reading ∈ before ++ [last],
      last.time - reading.time ≤ pressureTracker.triggerSeconds →
        Divergence.up.Reaches change.toLevel reading.signal.band

/-- High for half a minute, then critical. -/
def lastMinuteCritical : List (Observation ℤ (PressureSignal ℕ)) :=
  [⟨0, ⟨some "high", 60⟩⟩, ⟨15, ⟨some "high", 60⟩⟩, ⟨30, ⟨some "critical", 90⟩⟩]

/-- Low and high within the second in which the trigger time begins. -/
def highWithinSecond : List (Observation ℤ (PressureSignal ℕ)) :=
  [⟨0, ⟨some "low", 20⟩⟩, ⟨0, ⟨some "high", 60⟩⟩, ⟨30, ⟨some "high", 60⟩⟩]

theorem debounced_transitions_lastMinuteCritical :
    PressureLevelTracker.Chained .normal
      (pressureTracker.changes lastMinuteCritical) :=
  (PressureLevelTracker.debounced_transitions 30 60 (by decide)).1

/-- One sample confirms critical although the others of the dwell were high, and
a sample of the very second in which the dwell begins may be low. -/
theorem critical_without_dwell :
    ¬RisesSustained lastMinuteCritical ∧ ¬RisesSustained highWithinSecond := by
  constructor
  · intro sustained
    have held := sustained (lastMinuteCritical.take 2)
      ⟨30, ⟨some "critical", 90⟩⟩ []
      ⟨.normal, .critical, "critical", 90, "critical"⟩ rfl (by decide)
      (by decide) ⟨0, ⟨some "high", 60⟩⟩ (by simp [lastMinuteCritical])
      (by decide)
    exact absurd held (by decide)
  · intro sustained
    have held := sustained (highWithinSecond.take 2) ⟨30, ⟨some "high", 60⟩⟩ []
      ⟨.normal, .high, "high", 60, "warning"⟩ rfl (by decide)
      (by decide) ⟨0, ⟨some "low", 20⟩⟩ (by simp [highWithinSecond])
      (by decide)
    exact absurd held (by decide)

end SmarTune
