import SmarTune.Diagnostics.EventStore

/-!
# Alert states and alert episodes

One row stands for every occurrence of an alert, one after another; what was
known of an occurrence when it ended is kept as an episode.  The operations of
the two tables act on one key at a time, so they are stated for the row of a key
and for the log of a key, its row together with its episodes.

The id of an episode is a hash of the key and of the start of the occurrence.
It stands for the two, and within a log for the start.
-/

namespace SmarTune

/-- Severities, the mildest first. -/
inductive Severity
  | info
  | warning
  | error
  | critical
  deriving DecidableEq

/-- `sev_order`. -/
def Severity.order : Severity → ℕ
  | .info => 0
  | .warning => 1
  | .error => 2
  | .critical => 3

/-- The states of a row. -/
inductive AlertStatus
  | pending
  | active
  | resolved
  deriving DecidableEq

/-- Who has decided on the severity. -/
inductive SeverityOrigin
  | producer
  | ruleEscalated
  deriving DecidableEq

/-- The data that an escalation was judged by. -/
structure EscalationEvidence (Ts Id : Type*) where
  triggerEventId : Id
  fireCount : ℕ
  windowSeconds : ℕ
  firstFiredAt : Ts
  deriving DecidableEq

/-- The columns that only an escalation writes. -/
structure Escalation (Ts Id : Type*) where
  severityOrigin : SeverityOrigin := .producer
  baselineSeverity : Option Severity := none
  ruleId : Option String := none
  ruleVersion : Option ℕ := none
  reason : Option String := none
  evidence : Option (EscalationEvidence Ts Id) := none
  escalatedAt : Option Ts := none
  deriving DecidableEq

/-- The columns that describe one occurrence and are copied on archive. -/
structure Occurrence (Ts Id : Type*) where
  firstFiredAt : Ts
  lastFiredAt : Ts
  fireCount : ℕ := 0
  lastEventId : Id
  acknowledgedAt : Option Ts := none
  silencedUntil : Option Ts := none
  silenceReason : Option String := none
  severity : Severity
  escalation : Escalation Ts Id := {}
  summary : String
  deriving DecidableEq

/-- `AlertState`, but for the key. -/
structure AlertRow (Ts Id : Type*) where
  occurrence : Occurrence Ts Id
  status : AlertStatus := .active
  pendingSince : Option Ts := none
  lastSeenAt : Ts
  resolvedAt : Option Ts := none
  resolvedEventId : Option Id := none
  updateTime : ℤ
  deriving DecidableEq

/-- `AlertEpisode`, but for the key and the id. -/
structure AlertEpisode (Ts Id : Type*) where
  occurrence : Occurrence Ts Id
  resolvedAt : Ts
  resolvedEventId : Option Id
  deriving DecidableEq

/-- The row and the episodes of a key. -/
structure AlertLog (Ts Id : Type*) where
  row : Option (AlertRow Ts Id) := none
  episodes : List (AlertEpisode Ts Id) := []
  deriving DecidableEq

/-- What an event brings to its alert. -/
structure AlertFire (Ts Id : Type*) where
  tsUtc : Ts
  eventId : Id
  severity : Severity
  summary : String

/-- An entry of `_ESCALATION_RULES`. -/
structure EscalationRule where
  ruleId : String
  ruleVersion : ℕ
  windowSeconds : ℕ
  threshold : ℕ
  escalateTo : Severity
  deriving DecidableEq

variable {Ts Id : Type*}

namespace AlertRow

/-- `record_pending` on the row of the key, with the start of the wait. -/
def recordPending (row : Option (AlertRow Ts Id)) (fire : AlertFire Ts Id)
    (now : ℤ) : Option Ts × AlertRow Ts Id :=
  match row with
  | none =>
    (some fire.tsUtc,
      { occurrence :=
          { firstFiredAt := fire.tsUtc
            lastFiredAt := fire.tsUtc
            lastEventId := fire.eventId
            severity := fire.severity
            summary := fire.summary }
        status := .pending
        pendingSince := some fire.tsUtc
        lastSeenAt := fire.tsUtc
        updateTime := now })
  | some row =>
    if row.status = .active then (none, row)
    else
      let pendingSince := row.pendingSince.getD fire.tsUtc
      (some pendingSince,
        { row with
          occurrence :=
            { row.occurrence with
              lastFiredAt := fire.tsUtc
              lastEventId := fire.eventId
              severity := fire.severity
              summary := fire.summary }
          status := .pending
          pendingSince := some pendingSince
          lastSeenAt := fire.tsUtc
          resolvedAt := none
          resolvedEventId := none
          updateTime := now })

/-- `record_fire` on the row of the key, with `(should_notify, fire_count)`. -/
def recordFire (row : Option (AlertRow Ts Id)) (fire : AlertFire Ts Id)
    (cooldownSeconds now : ℤ) : (Bool × ℕ) × AlertRow Ts Id :=
  match row with
  | none =>
    ((true, 1),
      { occurrence :=
          { firstFiredAt := fire.tsUtc
            lastFiredAt := fire.tsUtc
            fireCount := 1
            lastEventId := fire.eventId
            severity := fire.severity
            summary := fire.summary }
        lastSeenAt := fire.tsUtc
        updateTime := now })
  | some row =>
    let becameActive := decide (row.status ≠ .active)
    let shouldNotify :=
      becameActive || decide (max 0 cooldownSeconds ≤ now - row.updateTime)
    let count := if becameActive then 1 else row.occurrence.fireCount + 1
    let fired : Occurrence Ts Id :=
      { row.occurrence with
        lastFiredAt := fire.tsUtc
        fireCount := count
        lastEventId := fire.eventId
        severity :=
          if row.status = .active ∧
              row.occurrence.escalation.severityOrigin = .ruleEscalated then
            row.occurrence.severity
          else fire.severity
        summary := fire.summary }
    let occurrence :=
      if becameActive then
        { fired with
          firstFiredAt := fire.tsUtc
          acknowledgedAt := none
          silencedUntil := none
          silenceReason := none }
      else fired
    ((shouldNotify, count),
      { occurrence := occurrence
        status := .active
        pendingSince := none
        lastSeenAt := fire.tsUtc
        resolvedAt := none
        resolvedEventId := none
        updateTime := if shouldNotify then now else row.updateTime })

theorem recordFire_spec (row : Option (AlertRow Ts Id)) (fire : AlertFire Ts Id)
    (cooldownSeconds now : ℤ) :
    (recordFire row fire cooldownSeconds now).2.status = .active ∧
      (recordFire row fire cooldownSeconds now).2.lastSeenAt = fire.tsUtc := by
  cases row <;> exact ⟨rfl, rfl⟩

theorem recordFire_start (row : Option (AlertRow Ts Id))
    (fire : AlertFire Ts Id) (cooldownSeconds now : ℤ) :
    (∃ earlier, row = some earlier ∧ earlier.status = .active ∧
        (recordFire row fire cooldownSeconds now).2.occurrence.firstFiredAt =
          earlier.occurrence.firstFiredAt) ∨
      ((∀ earlier, row = some earlier → earlier.status ≠ .active) ∧
        (recordFire row fire cooldownSeconds now).2.occurrence.firstFiredAt =
          fire.tsUtc) := by
  cases row with
  | none =>
    right
    exact ⟨fun _ found => (Option.some_ne_none _ found.symm).elim, rfl⟩
  | some earlier =>
    by_cases active : earlier.status = .active
    · left
      exact ⟨earlier, rfl, active, by simp [recordFire, active]⟩
    · right
      refine ⟨?_, by simp [recordFire, active]⟩
      intro other found
      cases found
      exact active

/-- `acknowledge`. -/
def acknowledge (row : AlertRow Ts Id) (tsUtc : Ts) (now : ℤ) :
    AlertRow Ts Id :=
  if row.status = .active then
    { row with
      occurrence := { row.occurrence with acknowledgedAt := some tsUtc }
      updateTime := now }
  else row

/-- `silence`. -/
def silence (row : AlertRow Ts Id) (silencedUntil : Ts) (reason : Option String)
    (now : ℤ) : AlertRow Ts Id :=
  if row.status = .active then
    { row with
      occurrence :=
        { row.occurrence with
          silencedUntil := some silencedUntil
          silenceReason := reason }
      updateTime := now }
  else row

/-- `escalate`, by a rule on the evidence of an event. -/
def escalate (row : AlertRow Ts Id) (rule : EscalationRule)
    (evidence : EscalationEvidence Ts Id) (tsUtc : Ts)
    (now : ℤ) : AlertRow Ts Id :=
  let escalation := row.occurrence.escalation
  if escalation.severityOrigin = .ruleEscalated ∧
      rule.escalateTo.order ≤ row.occurrence.severity.order then row
  else
    { row with
      occurrence :=
        { row.occurrence with
          severity := rule.escalateTo
          acknowledgedAt := none
          escalation :=
            { severityOrigin := .ruleEscalated
              baselineSeverity :=
                some (escalation.baselineSeverity.getD row.occurrence.severity)
              ruleId := some rule.ruleId
              ruleVersion := some rule.ruleVersion
              reason := some
                ("Threshold " ++ toString rule.threshold ++ " fires within " ++
                  toString rule.windowSeconds ++ "s reached")
              evidence := some evidence
              escalatedAt := some tsUtc } }
      updateTime := now }

section Escalate

variable (row : AlertRow Ts Id) (rule : EscalationRule)
  (evidence : EscalationEvidence Ts Id) (tsUtc : Ts) (now : ℤ)

@[simp] theorem escalate_status :
    (row.escalate rule evidence tsUtc now).status = row.status := by
  simp only [escalate]
  split <;> rfl

@[simp] theorem escalate_pendingSince :
    (row.escalate rule evidence tsUtc now).pendingSince = row.pendingSince := by
  simp only [escalate]
  split <;> rfl

@[simp] theorem escalate_lastSeenAt :
    (row.escalate rule evidence tsUtc now).lastSeenAt = row.lastSeenAt := by
  simp only [escalate]
  split <;> rfl

@[simp] theorem escalate_lastFiredAt :
    (row.escalate rule evidence tsUtc now).occurrence.lastFiredAt =
      row.occurrence.lastFiredAt := by
  simp only [escalate]
  split <;> rfl

@[simp] theorem escalate_fireCount :
    (row.escalate rule evidence tsUtc now).occurrence.fireCount =
      row.occurrence.fireCount := by
  simp only [escalate]
  split <;> rfl

@[simp] theorem escalate_firstFiredAt :
    (row.escalate rule evidence tsUtc now).occurrence.firstFiredAt =
      row.occurrence.firstFiredAt := by
  simp only [escalate]
  split <;> rfl

end Escalate

/-- The update that closes an active row. -/
def resolved (row : AlertRow Ts Id) (tsUtc : Ts) (eventId : Option Id)
    (now : ℤ) : AlertRow Ts Id :=
  { row with
    status := .resolved
    resolvedAt := some tsUtc
    resolvedEventId := eventId
    updateTime := now }

end AlertRow

namespace AlertLog

def modifyRow (log : AlertLog Ts Id)
    (change : AlertRow Ts Id → AlertRow Ts Id) : AlertLog Ts Id :=
  { log with row := log.row.map change }

/-- The occurrence that is going on. -/
def occurrence (log : AlertLog Ts Id) : Option (Occurrence Ts Id) :=
  (log.row.filter fun row => row.status = .active).map (·.occurrence)

variable {log : AlertLog Ts Id} {row : AlertRow Ts Id}

theorem occurrence_eq_some_iff {going : Occurrence Ts Id} :
    log.occurrence = some going ↔
      ∃ row, log.row = some row ∧ row.status = .active ∧
        row.occurrence = going := by
  unfold occurrence
  cases log.row with
  | none => simp
  | some row => by_cases active : row.status = .active <;> simp [active]

theorem occurrence_of_active {episodes : List (AlertEpisode Ts Id)}
    (active : row.status = .active) :
    (⟨some row, episodes⟩ : AlertLog Ts Id).occurrence = some row.occurrence :=
  occurrence_eq_some_iff.mpr ⟨row, rfl, active, rfl⟩

theorem occurrence_eq_none_iff :
    log.occurrence = none ↔
      ∀ row, log.row = some row → row.status ≠ .active := by
  unfold occurrence
  cases log.row <;> simp

theorem inactive_of_idle (idle : log.occurrence = none)
    (found : log.row = some row) :
    row.status ≠ .active :=
  occurrence_eq_none_iff.mp idle row found

theorem modifyRow_of_idle (idle : log.occurrence = none)
    {change : AlertRow Ts Id → AlertRow Ts Id}
    (keeps : ∀ row, row.status ≠ .active → change row = row) :
    log.modifyRow change = log := by
  have same : log.row.map change = log.row := by
    cases found : log.row with
    | none => rfl
    | some row => simp [keeps row (inactive_of_idle idle found)]
  rw [modifyRow, same]

theorem modifyRow_acknowledge_of_idle (idle : log.occurrence = none)
    (tsUtc : Ts) (now : ℤ) :
    (log.modifyRow fun row => row.acknowledge tsUtc now) = log :=
  modifyRow_of_idle idle fun _ inactive => if_neg inactive

theorem modifyRow_silence_of_idle (idle : log.occurrence = none)
    (silencedUntil : Ts) (reason : Option String) (now : ℤ) :
    (log.modifyRow fun row => row.silence silencedUntil reason now) = log :=
  modifyRow_of_idle idle fun _ inactive => if_neg inactive

variable [DecidableEq Ts]

/-- `archive`: an episode that starts when a stored one does is ignored. -/
def archive (episodes : List (AlertEpisode Ts Id)) (row : AlertRow Ts Id)
    (resolvedAt : Ts)
    (resolvedEventId : Option Id) : List (AlertEpisode Ts Id) :=
  UniqueIndex.insert (fun episode => some episode.occurrence.firstFiredAt)
    episodes ⟨row.occurrence, resolvedAt, resolvedEventId⟩

def close (log : AlertLog Ts Id) (row : AlertRow Ts Id) (tsUtc : Ts)
    (eventId : Option Id) (now : ℤ) : AlertLog Ts Id where
  row := some (row.resolved tsUtc eventId now)
  episodes := archive log.episodes row tsUtc eventId

def Archived (log : AlertLog Ts Id) (start : Ts) : Prop :=
  ∃ episode ∈ log.episodes, episode.occurrence.firstFiredAt = start

instance (log : AlertLog Ts Id) (start : Ts) : Decidable (log.Archived start) :=
  inferInstanceAs (Decidable (∃ episode ∈ log.episodes, _))

theorem episodes_close (log : AlertLog Ts Id) (row : AlertRow Ts Id)
    (tsUtc : Ts) (eventId : Option Id) (now : ℤ) :
    (log.close row tsUtc eventId now).episodes =
      if log.Archived row.occurrence.firstFiredAt then log.episodes
      else log.episodes ++ [⟨row.occurrence, tsUtc, eventId⟩] := by
  have found : UniqueIndex.taken (fun episode : AlertEpisode Ts Id =>
        some episode.occurrence.firstFiredAt)
      log.episodes ⟨row.occurrence, tsUtc, eventId⟩ = true ↔
        log.Archived row.occurrence.firstFiredAt := by
    simp [UniqueIndex.taken, Archived]
  by_cases archived : log.Archived row.occurrence.firstFiredAt
  · rw [if_pos archived]
    exact if_pos (found.mpr archived)
  · rw [if_neg archived]
    exact if_neg fun taken => archived (found.mp taken)

/-- `resolve` at the key of the log, with the number of resolved rows. -/
def resolve (log : AlertLog Ts Id) (tsUtc : Ts) (eventId : Option Id)
    (now : ℤ) : ℕ × AlertLog Ts Id :=
  match log.row with
  | none => (0, log)
  | some row =>
    if row.status = .active then (1, log.close row tsUtc eventId now)
    else (0, log)

/-- `close_acknowledged`. -/
def closeAcknowledged (log : AlertLog Ts Id) (tsUtc : Ts)
    (now : ℤ) : Bool × AlertLog Ts Id :=
  match log.row with
  | none => (false, log)
  | some row =>
    if row.status = .active then
      (true, log.close (row.acknowledge tsUtc now) tsUtc none now)
    else (false, log)

/-- A log without an active row is not changed by a resolution. -/
theorem resolve_of_idle (idle : log.occurrence = none) (tsUtc : Ts)
    (eventId : Option Id) (now : ℤ) :
    log.resolve tsUtc eventId now = (0, log) := by
  unfold resolve
  cases found : log.row with
  | none => rfl
  | some row => simp [inactive_of_idle idle found]

/-- A log without an active row is not changed by an acknowledgement. -/
theorem closeAcknowledged_of_idle (idle : log.occurrence = none) (tsUtc : Ts)
    (now : ℤ) :
    log.closeAcknowledged tsUtc now = (false, log) := by
  unfold closeAcknowledged
  cases found : log.row with
  | none => rfl
  | some row => simp [inactive_of_idle idle found]

theorem resolve_of_active (found : log.row = some row)
    (active : row.status = .active) (tsUtc : Ts) (eventId : Option Id)
    (now : ℤ) :
    log.resolve tsUtc eventId now = (1, log.close row tsUtc eventId now) := by
  simp [resolve, found, active]

@[simp] theorem occurrence_resolve (log : AlertLog Ts Id) (tsUtc : Ts)
    (eventId : Option Id) (now : ℤ) :
    (log.resolve tsUtc eventId now).2.occurrence = none := by
  cases going : log.occurrence with
  | none => rw [resolve_of_idle going, going]
  | some occurrence =>
    obtain ⟨row, found, active, _⟩ := occurrence_eq_some_iff.mp going
    rw [resolve_of_active found active]
    rfl

end AlertLog

end SmarTune
