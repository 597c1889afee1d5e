import SmarTune.Library.Runs
import SmarTune.Quiet.QuietMode
import Mathlib.Algebra.Field.Rat

/-!
# The quiet-mode watchdog

Callers and the watchdog thread interleave at the granularity of the lock.  The
watchdog decides in one section that the lease has lapsed and releases the hold
in another one, through `exit()` without an owner.
-/

namespace SmarTune

/-- Quiet mode, the monotonic clock and the watchdog thread. -/
structure QuietSystem (Owner : Type*) where
  quiet : QuietMode Owner
  now : ℚ
  /-- The watchdog has seen a lapsed lease and is about to call `exit()`. -/
  reclaiming : Bool

/-- What can happen next. -/
inductive QuietStep (Owner : Type*)
  | elapse (seconds : ℚ≥0)
  | enter (owner : Owner) (ttl : Option Ttl) (wall : ℚ)
  | exit (owner : Option Owner)
  | heartbeat (owner : Owner)
  | setGate (up : Bool)
  /-- The locked section of `_watch`. -/
  | observe
  /-- The forced exit of `_watch`. -/
  | reclaim

namespace QuietSystem

variable {Owner : Type*} [DecidableEq Owner]

/-- The service starts without a hold. -/
def init (ttlS : Ttl) (now : ℚ) : QuietSystem Owner :=
  ⟨.init ttlS, now, false⟩

def step (system : QuietSystem Owner) : QuietStep Owner → QuietSystem Owner
  | .elapse seconds => { system with now := system.now + seconds }
  | .enter owner ttl wall =>
    { system with quiet := system.quiet.enter owner ttl system.now wall }
  | .exit owner => { system with quiet := (system.quiet.exit owner).2 }
  | .heartbeat owner =>
    { system with quiet := system.quiet.heartbeat owner system.now }
  | .setGate up => { system with quiet := (system.quiet.setGate up).2 }
  | .observe =>
    if system.quiet.watchdogArmed && !system.reclaiming then
      { system with reclaiming := system.quiet.expired system.now }
    else system
  | .reclaim =>
    if system.reclaiming then
      { system with quiet := (system.quiet.exit none).2, reclaiming := false }
    else system

/-- When the watchdog ends a hold, its lease has expired by then. -/
def ReclaimsOnlyExpired (system : QuietSystem Owner) : QuietStep Owner → Prop
  | .reclaim =>
    system.quiet.owner ≠ none → (system.step .reclaim).quiet.owner = none →
        system.quiet.expired system.now = true
  | _ => True

/-- No run enters between the watchdog's look at the lease and its exit. -/
def NoEntryWhileReclaiming (system : QuietSystem Owner) :
    QuietStep Owner → Prop
  | .enter _ _ _ => system.reclaiming = false
  | _ => True

instance (system : QuietSystem Owner) (label : QuietStep Owner) :
    Decidable (system.ReclaimsOnlyExpired label) := by
  cases label <;> unfold ReclaimsOnlyExpired <;> infer_instance

instance (system : QuietSystem Owner) (label : QuietStep Owner) :
    Decidable (system.NoEntryWhileReclaiming label) := by
  cases label <;> unfold NoEntryWhileReclaiming <;> infer_instance

/-! ## A lapsed lease stays lapsed -/

/-- What the watchdog is about to release has lapsed. -/
def ReclaimsLapsed (system : QuietSystem Owner) : Prop :=
  system.reclaiming = true →
    system.quiet.owner ≠ none → system.quiet.expired system.now = true

omit [DecidableEq Owner] in
/-- Time passing does not renew a lease. -/
theorem expired_later {quiet : QuietMode Owner} {now : ℚ}
    (lapsed : quiet.expired now = true) (seconds : ℚ≥0) :
    quiet.expired (now + seconds) = true := by
  rw [QuietMode.expired_iff] at lapsed ⊢
  refine ⟨lapsed.1, lapsed.2.trans_le ?_⟩
  exact WithTop.coe_le_coe.mpr (le_add_of_nonneg_right seconds.2)

omit [DecidableEq Owner] in
/-- Moving the gate leaves the holder and the lease alone. -/
theorem expired_setGate (quiet : QuietMode Owner) (up : Bool) (now : ℚ) :
    (quiet.setGate up).2.expired now = quiet.expired now := by
  unfold QuietMode.setGate
  split <;> rfl

/-- A hold that survives an exit is the hold there was. -/
theorem exit_eq_self_of_held {quiet : QuietMode Owner} {owner : Option Owner}
    (held : (quiet.exit owner).2.owner ≠ none) :
    (quiet.exit owner).2 = quiet := by
  unfold QuietMode.exit at held ⊢
  split
  · rfl
  · rename_i present
    split
    · rfl
    · rename_i matching
      rw [if_neg present, if_neg matching] at held
      exact absurd rfl held

/-- Only an entry can put a live hold under a watchdog that is about to
release one. -/
theorem reclaimsLapsed_step {system : QuietSystem Owner}
    {label : QuietStep Owner} (lapsed : system.ReclaimsLapsed)
    (allowed : system.NoEntryWhileReclaiming label) :
    (system.step label).ReclaimsLapsed := by
  intro reclaiming held
  cases label with
  | elapse seconds => exact expired_later (lapsed reclaiming held) seconds
  | enter owner ttl wall =>
    have idle : system.reclaiming = false := allowed
    simp [step, idle] at reclaiming
  | exit owner =>
    have same : (system.quiet.exit owner).2 = system.quiet :=
      exit_eq_self_of_held held
    simp only [step, same] at held ⊢
    exact lapsed reclaiming held
  | heartbeat owner =>
    by_cases present : system.quiet.owner = none
    · simp [step, QuietMode.heartbeat_of_stale, present] at held
    · have late := lapsed reclaiming present
      simpa [step, QuietMode.heartbeat_of_expired late] using late
  | setGate up =>
    simp only [step, expired_setGate]
    apply lapsed reclaiming
    intro free
    simp [step, QuietMode.setGate, free] at held
  | observe =>
    simp only [step] at reclaiming held ⊢
    split at reclaiming
    · rename_i looking
      simpa [looking] using reclaiming
    · rename_i busy
      simp only [busy, Bool.false_eq_true, if_false] at held ⊢
      exact lapsed reclaiming held
  | reclaim =>
    simp only [step] at reclaiming
    split at reclaiming
    · cases reclaiming
    · rename_i idle
      exact absurd reclaiming idle

/-- A watchdog that is about to release a lapsed hold releases no live one. -/
theorem reclaimsOnlyExpired_of_lapsed {system : QuietSystem Owner}
    (lapsed : system.ReclaimsLapsed) (label : QuietStep Owner) :
    system.ReclaimsOnlyExpired label := by
  cases label with
  | reclaim =>
    intro held released
    by_cases reclaiming : system.reclaiming = true
    · exact lapsed reclaiming held
    · simp only [step, reclaiming] at released
      exact absurd released held
  | _ => trivial

/-! ## The watchdog over whole runs -/

/-- While no run enters between the watchdog's look and its exit, the watchdog
only ends holds whose lease has expired. -/
theorem watchdog_reclaims_only_expired (ttlS : Ttl) (now : ℚ)
    (labels : List (QuietStep Owner))
    (allowed : Runs.EveryStep step NoEntryWhileReclaiming (init ttlS now)
      labels) :
    Runs.EveryStep step ReclaimsOnlyExpired (init ttlS now) labels := by
  apply Runs.everyStep_of_guarded ReclaimsLapsed _ _ _ allowed
  · intro system label lapsed entry
    exact reclaimsLapsed_step lapsed entry
  · intro system label lapsed _
    exact reclaimsOnlyExpired_of_lapsed lapsed label
  · intro reclaiming
    cases reclaiming

/-- The entries of two runs, the second one after the watchdog has looked. -/
def entryInTheGap : List (QuietStep String) :=
  [.enter "first" (some ((1 : ℚ) : WithTop ℚ)) 0, .elapse 2, .observe,
    .enter "second" none 2, .reclaim]

theorem watchdog_reclaims_only_expired_witness :
    Runs.EveryStep step ReclaimsOnlyExpired
      (init ((120 : ℚ) : WithTop ℚ) 0 : QuietSystem String)
      [.enter "first" (some ((1 : ℚ) : WithTop ℚ)) 0, .elapse 2, .observe,
        .reclaim, .enter "second" none 2] :=
  watchdog_reclaims_only_expired _ _ _ (by decide +kernel)

theorem entryInTheGap_is_ended :
    ¬ Runs.EveryStep step ReclaimsOnlyExpired
      (init ((120 : ℚ) : WithTop ℚ) 0) entryInTheGap := by
  decide +kernel

/-- A run that enters in the gap with a lease of its own is ended by the
watchdog's next section. -/
theorem entry_while_reclaiming_is_ended {system : QuietSystem Owner}
    (reclaiming : system.reclaiming = true) (owner : Owner) (ttl : Ttl)
    (lives : ((0 : ℚ) : WithTop ℚ) ≤ ttl) (wall : ℚ) :
    ¬ (system.step (.enter owner (some ttl) wall)).ReclaimsOnlyExpired
      .reclaim := by
  intro property
  have holder : (system.step (.enter owner (some ttl) wall)).quiet.owner =
      some owner := QuietMode.enter_owner
  have fresh : (system.now : WithTop ℚ) ≤
      (system.step (.enter owner (some ttl) wall)).quiet.deadline := by
    change _ ≤ (system.quiet.enter owner (some ttl) system.now wall).deadline
    rw [QuietMode.enter_deadline]
    exact le_add_of_nonneg_right lives
  have lapsed := property (by simp [holder]) (by simp [step, reclaiming])
  exact absurd (QuietMode.expired_iff.mp lapsed).2 (not_lt.mpr fresh)

end QuietSystem

end SmarTune
