import Mathlib.Algebra.Order.Monoid.WithTop
import Mathlib.Algebra.Order.Ring.Rat

/-!
# Quiet mode

The gate that suspends the service's own background activity while a benchmark
run holds it.  The holder keeps its hold through a lease, renewed by
heartbeats; the gate itself can be dropped and raised during a hold.

`now` is a reading of the monotonic clock; a section under the lock is one
instant.  A time to live is a number of seconds or `⊤` for `inf`.
-/

namespace SmarTune

/-- The time to live of a lease, in seconds. -/
abbrev Ttl := WithTop ℚ

/-- The state of `QuietModeManager` that its lock guards. -/
structure QuietMode (Owner : Type*) where
  /-- The lease of a heartbeat, and of an `enter` without a `ttl`. -/
  ttlS : Ttl
  /-- Which run holds quiet mode. -/
  owner : Option Owner
  /-- Whether collectors should stand down. -/
  gateUp : Bool
  /-- Wall clock at the start of the hold. -/
  since : Option ℚ
  /-- Monotonic expiry of the lease. -/
  deadline : WithTop ℚ
  /-- The gate was dropped during this hold. -/
  userExited : Bool
  /-- The watchdog thread runs. -/
  watchdogArmed : Bool
  deriving DecidableEq

/-- What `state` reports. -/
structure QuietState (Owner : Type*) where
  active : Bool
  held : Bool
  owner : Option Owner
  since : Option ℚ
  userExited : Bool
  deriving DecidableEq

namespace QuietMode

variable {Owner : Type*}

/-- `__init__`. -/
def init (ttlS : Ttl) : QuietMode Owner where
  ttlS := ttlS
  owner := none
  gateUp := false
  since := none
  deadline := ((0 : ℚ) : WithTop ℚ)
  userExited := false
  watchdogArmed := false

/-- The test of `enter`, `state` and the watchdog for a lapsed lease. -/
def expired (quiet : QuietMode Owner) (now : ℚ) : Bool :=
  quiet.owner.isSome && decide (quiet.deadline < (now : WithTop ℚ))

/-- `is_active`. -/
def isActive (quiet : QuietMode Owner) (now : ℚ) : Bool :=
  if quiet.owner.isNone || !quiet.gateUp then false
  else if quiet.deadline < (now : WithTop ℚ) then false
  else true

/-- `held_clean`. -/
def heldClean (quiet : QuietMode Owner) : Bool :=
  quiet.owner.isSome && !quiet.userExited

/-- `state`. -/
def state (quiet : QuietMode Owner) (now : ℚ) : QuietState Owner where
  active := quiet.owner.isSome && quiet.gateUp && !quiet.expired now
  held := quiet.owner.isSome && !quiet.expired now
  owner := quiet.owner
  since := quiet.since
  userExited := quiet.userExited

/-- `set_gate`, with the new state of the gate. -/
def setGate (quiet : QuietMode Owner) (up : Bool) : Bool × QuietMode Owner :=
  if quiet.owner.isNone then (false, quiet)
  else
    (up, { quiet with
      gateUp := up
      userExited := quiet.userExited || !up })

/-- The holder `enter` finds: an expired hold counts as absent. -/
def previous (quiet : QuietMode Owner) (now : ℚ) : Option Owner :=
  if quiet.expired now then none else quiet.owner

/-! ## What the readings say -/

variable {quiet : QuietMode Owner} {now : ℚ}

theorem expired_iff :
    quiet.expired now = true ↔
      quiet.owner ≠ none ∧ quiet.deadline < (now : WithTop ℚ) := by
  simp [expired, Option.isSome_iff_ne_none]

theorem isActive_iff :
    quiet.isActive now = true ↔ quiet.owner ≠ none ∧ quiet.gateUp = true ∧
        (now : WithTop ℚ) ≤ quiet.deadline := by
  unfold isActive
  split
  · rename_i closed
    simp only [Bool.or_eq_true, Option.isNone_iff_eq_none,
      Bool.not_eq_true'] at closed
    rcases closed with free | down
    · simp [free]
    · simp [down]
  · rename_i raised
    simp only [Bool.or_eq_true, Option.isNone_iff_eq_none, Bool.not_eq_true',
      not_or, Bool.not_eq_false] at raised
    simp [raised.1, raised.2]

theorem heldClean_iff :
    quiet.heldClean = true ↔ quiet.owner ≠ none ∧ quiet.userExited = false := by
  simp [heldClean, Option.isSome_iff_ne_none]

/-- `state` reports as active what the hot path reports. -/
theorem state_active : (quiet.state now).active = quiet.isActive now := by
  rw [Bool.eq_iff_iff, isActive_iff]
  simp only [state, Bool.and_eq_true, Option.isSome_iff_ne_none, expired,
    Bool.not_eq_true', Bool.and_eq_false_iff, decide_eq_false_iff_not, not_lt]
  constructor
  · rintro ⟨⟨held, up⟩, free | fresh⟩
    · simp_all
    · exact ⟨held, up, fresh⟩
  · rintro ⟨held, up, fresh⟩
    exact ⟨⟨held, up⟩, .inr fresh⟩

variable {owner : Owner} {ttl : Option Ttl} {wall : ℚ}

/-- `enter` finds a holder when that run holds an unexpired lease. -/
theorem previous_eq_some_iff :
    quiet.previous now = some owner ↔
      quiet.owner = some owner ∧ (now : WithTop ℚ) ≤ quiet.deadline := by
  unfold previous
  split
  · rename_i lapsed
    have late := (expired_iff.mp lapsed).2
    simp [late]
  · rename_i kept
    rw [expired_iff, not_and, not_lt] at kept
    constructor
    · intro held
      exact ⟨held, kept (by simp [held])⟩
    · exact And.left

/-! ## The lifecycle of a hold -/

variable [DecidableEq Owner]

/-- `enter`, at `now` on the monotonic and `wall` on the wall clock. -/
def enter (quiet : QuietMode Owner) (owner : Owner) (ttl : Option Ttl)
    (now wall : ℚ) : QuietMode Owner :=
  let ttlS := ttl.getD quiet.ttlS
  if quiet.previous now = some owner then
    { quiet with deadline := (now : WithTop ℚ) + ttlS }
  else
    { quiet with
      owner := some owner
      gateUp := true
      userExited := false
      since := some wall
      deadline := (now : WithTop ℚ) + ttlS
      watchdogArmed := true }

/-- `exit`, with whether this call released the gate; `none` forces it. -/
def exit (quiet : QuietMode Owner)
    (owner : Option Owner) : Bool × QuietMode Owner :=
  if quiet.owner.isNone then (false, quiet)
  else if owner.isSome && decide (owner ≠ quiet.owner) then (false, quiet)
  else
    (true, { quiet with
      owner := none
      gateUp := false
      since := none
      deadline := ((0 : ℚ) : WithTop ℚ)
      userExited := false })

/-- `heartbeat`. -/
def heartbeat (quiet : QuietMode Owner) (owner : Owner)
    (now : ℚ) : QuietMode Owner :=
  if quiet.owner = some owner ∧ (now : WithTop ℚ) ≤ quiet.deadline then
    { quiet with deadline := (now : WithTop ℚ) + quiet.ttlS }
  else quiet

/-- `enter` leaves the run as holder, with a fresh lease. -/
@[simp] theorem enter_owner :
    (quiet.enter owner ttl now wall).owner = some owner := by
  unfold enter
  split
  · rename_i found
    exact (previous_eq_some_iff.mp found).1
  · rfl

@[simp] theorem enter_deadline :
    (quiet.enter owner ttl now wall).deadline =
      (now : WithTop ℚ) + ttl.getD quiet.ttlS := by
  unfold enter
  split <;> rfl

/-- A call for another run than the holder changes nothing. -/
theorem heartbeat_of_stale (stale : quiet.owner ≠ some owner) :
    quiet.heartbeat owner now = quiet := by
  simp [heartbeat, stale]

theorem exit_of_stale (stale : quiet.owner ≠ some owner) :
    quiet.exit (some owner) = (false, quiet) := by
  unfold exit
  split
  · rfl
  · rw [if_pos]
    simpa using stale.symm

theorem heartbeat_of_expired (lapsed : quiet.expired now = true)
    (owner : Owner) :
    quiet.heartbeat owner now = quiet := by
  have late := (expired_iff.mp lapsed).2
  simp [heartbeat, late]

/-- A forced exit leaves no holder. -/
@[simp] theorem exit_none_owner : (quiet.exit none).2.owner = none := by
  unfold exit
  split
  · rename_i free
    simpa using free
  · simp

end QuietMode

end SmarTune
