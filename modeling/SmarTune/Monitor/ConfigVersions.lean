import SmarTune.Library.Runs
import Mathlib.Data.Int.Notation

/-!
# Versions of configuration sections

A settable section carries an `updated_at` that a GET returns and a POST echoes
as `expected_updated_at`.  The handlers of many clients interleave: reading the
section, reading its `updated_at`, the check, the save, the reading of the clock
and the write of the new `updated_at` are steps of their own.
-/

namespace SmarTune

/-! ## The check -/

/-- `expected_updated_at` of a request body. -/
inductive ExpectedRaw
  | missing
  /-- What `int(value)` makes of a number or a numeral. -/
  | integer (value : ℤ)
  | malformed
  deriving DecidableEq

/-- `_coerce_expected_ts`. -/
def coerceExpectedTs : ExpectedRaw → Option ℤ
  | .missing => none
  | .integer value => some value
  | .malformed => some (-1)

/-- The return codes of the check. -/
inductive RetCode
  | argumentError
  | conflict
  deriving DecidableEq

/-- A response that refuses a write, with the state it reports. -/
structure Refusal (Current : Type*) where
  retcode : RetCode
  retmsg : String
  current : Option Current

/-- `_check_config_conflict` against the persisted `updated_at`; `none` when the
write may proceed. -/
def checkConfigConflict {Current : Type*} (expectedRaw : ExpectedRaw)
    (currentTs : ℕ) (current : Current) : Option (Refusal Current) :=
  let expectedTs := coerceExpectedTs expectedRaw
  if expectedTs = some (-1) then
    some ⟨.argumentError, "expected_updated_at must be an integer", none⟩
  else if (expectedTs = none ∧ currentTs ≠ 0) ∨
      (expectedTs ≠ none ∧ expectedTs ≠ some (currentTs : ℤ)) then
    some ⟨.conflict,
      "Configuration was modified by another client; please reload.",
      some current⟩
  else none

/-- A write proceeds on the current `updated_at`, or on none at all before the
first save. -/
theorem checkConfigConflict_eq_none_iff {Current : Type*}
    {expectedRaw : ExpectedRaw} {currentTs : ℕ} {current : Current} :
    checkConfigConflict expectedRaw currentTs current = none ↔
      expectedRaw = .integer currentTs ∨
        (expectedRaw = .missing ∧ currentTs = 0) := by
  cases expectedRaw with
  | missing => simp [checkConfigConflict, coerceExpectedTs]
  | integer value =>
    simp only [checkConfigConflict, coerceExpectedTs]
    split_ifs with malformed differs
    · simp only [Option.some.injEq] at malformed
      simp [malformed]
    · simpa using differs
    · simpa using differs
  | malformed => simp [checkConfigConflict, coerceExpectedTs]

/-! ## The new version -/

/-- `_bump_config_updated_at` and `_save_retention_settings` take the second of
the clock. -/
def newUpdatedAt (now : ℕ) : ℕ := now

/-- `_get_monitored_sections_updated_at`, with what it persists: the version of
that section moves with the resolved list. -/
def monitoredSectionsUpdatedAt (snapshot : Option (List String))
    (storedTs now : ℕ) (current : List String) : ℕ :=
  if snapshot = some current ∧ 0 < storedTs then storedTs
  else max (storedTs + 1) now

/-! ## Requests in flight -/

/-- How the handler of a section saves. -/
inductive ConfigHandler
  /-- Write the section, then `_bump_config_updated_at`. -/
  | bump
  /-- `_save_retention_settings`: both in one section under the lock. -/
  | retention
  deriving DecidableEq

/-- A write the check has let through. -/
structure ConfigUpdate (Value : Type*) where
  apply : Value → Value
  /-- Ghost: the POST carried what its client last read, or no version. -/
  honest : Bool

/-- Where a client is. -/
inductive ConfigPhase (Value : Type*)
  | idle
  /-- A GET has the section, as of so many saves, but not its `updated_at`. -/
  | reading (seen : ℕ)
  | accepted (update : ConfigUpdate Value)
  | saved
  /-- The clock has been read; the retention handler still has to save. -/
  | stamped (update : Option (ConfigUpdate Value)) (newTs : ℕ)
  /-- The response is still to be built. -/
  | stored (newTs : ℕ)

namespace ConfigPhase

variable {Value : Type*}

/-- Between the check and the write of `updated_at`. -/
def inFlight : ConfigPhase Value → Bool
  | .accepted _ | .saved | .stamped _ _ => true
  | .idle | .reading _ | .stored _ => false

/-- The saves that the section of an unfinished GET has seen. -/
def torn : ConfigPhase Value → Option ℕ
  | .reading seen => some seen
  | .idle | .accepted _ | .saved | .stamped _ _ | .stored _ => none

/-- The write that the client is still to make. -/
def unsaved : ConfigPhase Value → Option (ConfigUpdate Value)
  | .accepted update => some update
  | .stamped update _ => update
  | .idle | .reading _ | .saved | .stored _ => none

end ConfigPhase

/-- One client, with one request at a time. -/
structure ConfigClient (Value : Type*) where
  phase : ConfigPhase Value
  /-- The `updated_at` it last read. -/
  lastRead : Option ℕ
  /-- Ghost: how many saves the section it last read had seen. -/
  seen : ℕ
  /-- Ghost: another client's POST was accepted since that read. -/
  othersAccepted : Bool

/-- The version is the one the client last read. -/
def ConfigClient.carries {Value : Type*} (client : ConfigClient Value)
    (expected : ExpectedRaw) : Prop :=
  client.lastRead.map (fun lastRead : ℕ => ExpectedRaw.integer lastRead) =
    some expected

instance
    {Value : Type*}
    (client : ConfigClient Value)
    (expected : ExpectedRaw) : Decidable (client.carries expected) :=
  inferInstanceAs (Decidable (_ = _))

/-- What one client sees and changes in a step. -/
structure ConfigTurn (Value : Type*) where
  value : Value
  /-- The persisted `updated_at`, 0 when there is none. -/
  updatedAt : ℕ
  /-- Ghost: the saves so far. -/
  saves : ℕ
  client : ConfigClient Value

/-- What a client can do next. -/
inductive ConfigMove (Value : Type*)
  /-- The first read of a GET, or of the payload of a conflict. -/
  | getSection
  /-- The second read. -/
  | getUpdatedAt
  /-- The check of a POST. -/
  | post (expected : ExpectedRaw) (update : Value → Value)
  | save
  | stamp
  /-- The write of the settings file, which may fail. -/
  | store (persists : Bool)
  /-- The response, which shows the section and the new `updated_at`. -/
  | respond

namespace ConfigTurn

variable {Value : Type*}

/-- The client goes on without touching the section. -/
def goto (turn : ConfigTurn Value) (phase : ConfigPhase Value) :
    ConfigTurn Value :=
  { turn with client := { turn.client with phase := phase } }

/-- The section is overwritten. -/
def overwrite (turn : ConfigTurn Value) (update : ConfigUpdate Value) :
    ConfigTurn Value :=
  { turn with
    value := update.apply turn.value
    saves := turn.saves + 1
    client := { turn.client with seen := turn.saves + 1 } }

/-- The client learns a version of the section. -/
def learn (turn : ConfigTurn Value) (seen updatedAt : ℕ) : ConfigTurn Value :=
  { turn with
    client := ⟨.idle, some updatedAt, seen, false⟩ }

/-- The POST carries what its client last read, or no version. -/
def honest (turn : ConfigTurn Value) (expected : ExpectedRaw) : Bool :=
  decide (expected = .missing ∨ turn.client.carries expected)

/-- The check of a POST. -/
def post (turn : ConfigTurn Value) (expected : ExpectedRaw)
    (update : Value → Value) : ConfigTurn Value :=
  match checkConfigConflict expected turn.updatedAt turn.value with
  | some _ => turn
  | none => turn.goto (.accepted ⟨update, turn.honest expected⟩)

/-- The write of `updated_at`, with the section when it is still to be saved.
A write that fails is an exception in the one handler and a version 0 in the
other, whose value in memory has changed all the same. -/
def store (turn : ConfigTurn Value) (update : Option (ConfigUpdate Value))
    (newTs : ℕ) (persists : Bool) : ConfigTurn Value :=
  let saved := match update with
    | none => turn
    | some update => turn.overwrite update
  if persists then
    { saved with updatedAt := newTs }.goto (.stored newTs)
  else
    saved.goto (if update.isSome then .stored 0 else .idle)

/-- One move; a move that does not fit the phase does nothing. -/
def move (handler : ConfigHandler) (now : ℕ) (turn : ConfigTurn Value)
    (move : ConfigMove Value) : ConfigTurn Value :=
  match move, turn.client.phase with
  | .getSection, .idle => turn.goto (.reading turn.saves)
  | .getUpdatedAt, .reading seen => turn.learn seen turn.updatedAt
  | .post expected update, .idle => turn.post expected update
  | .save, .accepted update =>
    match handler with
    | .bump => (turn.overwrite update).goto .saved
    | .retention => turn
  | .stamp, .accepted update =>
    match handler with
    | .bump => turn
    | .retention => turn.goto (.stamped (some update) (newUpdatedAt now))
  | .stamp, .saved => turn.goto (.stamped none (newUpdatedAt now))
  | .store persists, .stamped update newTs => turn.store update newTs persists
  | .respond, .stored newTs => turn.learn turn.saves newTs
  | _, _ => turn

end ConfigTurn

/-! ## All clients -/

/-- One section and its clients. -/
structure ConfigSystem (Client Value : Type*) where
  value : Value
  updatedAt : ℕ
  saves : ℕ
  /-- The wall clock, in seconds. -/
  now : ℕ
  clients : Client → ConfigClient Value

/-- The clock advances, or a client makes a move. -/
inductive ConfigStep (Client Value : Type*)
  | tick (seconds : ℕ)
  | move (client : Client) (move : ConfigMove Value)

namespace ConfigSystem

variable {Client Value : Type*}

/-- The section as stored, before any client has read it. -/
def init (value : Value) (updatedAt now : ℕ) : ConfigSystem Client Value where
  value := value
  updatedAt := updatedAt
  saves := 0
  now := now
  clients := fun _ => ⟨.idle, none, 0, false⟩

/-- The view of one client. -/
def turn (system : ConfigSystem Client Value) (client : Client) :
    ConfigTurn Value :=
  ⟨system.value, system.updatedAt, system.saves, system.clients client⟩

variable [DecidableEq Client]

/-- A client's turn ends.  Its POST is accepted when it comes in flight. -/
def put (system : ConfigSystem Client Value) (client : Client)
    (after : ConfigTurn Value) : ConfigSystem Client Value where
  value := after.value
  updatedAt := after.updatedAt
  saves := after.saves
  now := system.now
  clients := fun other =>
    if other = client then after.client
    else
      { system.clients other with
        othersAccepted := (system.clients other).othersAccepted ||
          (!(system.clients client).phase.inFlight &&
            after.client.phase.inFlight) }

def step (handler : ConfigHandler) (system : ConfigSystem Client Value) :
    ConfigStep Client Value → ConfigSystem Client Value
  | .tick seconds => { system with now := system.now + seconds }
  | .move client move =>
    system.put client ((system.turn client).move handler system.now move)

end ConfigSystem

end SmarTune
