import SmarTune.Diagnostics.AlertState

/-!
# Alerts

A policy promotes an event of its type to an alert.  The alert is named by the
event type and the narrowest scope of the event; a recovery event resolves the
alert of the fault it recovers from in the same scope.

`epoch` parses a timestamp.  A protection id is a digest, which no other
identifier equals.
-/

namespace SmarTune

/-- What an alert is about. -/
inductive AlertScope
  | protection (protectionId : ProtectionId)
  | named (name : String)
  deriving DecidableEq

/-- `dedup_key`: `{event_type}::{scope}`. -/
structure AlertKey where
  eventType : EventType
  scope : AlertScope
  deriving DecidableEq

/-- An entry of `ALERT_POLICIES`. -/
structure AlertPolicy where
  severity : Severity
  forSeconds : ℚ := 0
  ttlSeconds : Option ℚ := none
  closeOnAck : Bool := false
  deriving DecidableEq

/-- `ALERT_POLICIES`. -/
def alertPolicy : EventType → Option AlertPolicy
  | .platformKernelPanic | .resourceMemoryOomKill | .deviceGpuHang =>
    some { severity := .critical, closeOnAck := true }
  | .platformServiceCrashed => some { severity := .critical }
  | .platformSystemdRestartLoop =>
    some { severity := .error, ttlSeconds := some 120 }
  | .controlLimit _ .failed => some { severity := .error }
  | _ => none

/-- `_ESCALATION_RULES`. -/
def escalationRule : EventType → Option EscalationRule
  | .platformSystemdRestartLoop =>
    some
      { ruleId := "restart_storm_v1"
        ruleVersion := 1
        windowSeconds := 300
        threshold := 3
        escalateTo := .critical }
  | _ => none

/-- `_COOLDOWN_SECONDS`. -/
def cooldownSeconds : ℤ := 300

/-- `_recovery_target`. -/
def recoveryTarget : EventType → Option EventType
  | .platformServiceStarted => some .platformServiceCrashed
  | .controlLimit resource .recovered => some (.controlLimit resource .failed)
  | _ => none

/-- `closes_on_ack`. -/
def closesOnAck (eventType : EventType) : Bool :=
  (alertPolicy eventType).any (·.closeOnAck)

/-- The first name that is given and not empty. -/
def firstName (names : List (Option String)) : String :=
  ((names.filterMap id).find? (· ≠ "")).getD "-"

variable {Ts Id : Type*}

/-- `scope_for`. -/
def scopeFor (event : OperationalEvent Ts Id) : AlertScope :=
  match event.protectionId with
  | some protectionId => .protection protectionId
  | none =>
    .named (firstName [event.jobId, event.appId, event.service, event.source])

/-- `dedup_key_for`. -/
def dedupKeyFor (event : OperationalEvent Ts Id) : AlertKey :=
  ⟨event.eventType, scopeFor event⟩

def recoveredKey (event : OperationalEvent Ts Id) : Option AlertKey :=
  (recoveryTarget event.eventType).map fun eventType =>
    ⟨eventType, scopeFor event⟩

/-- The fields of an event that its alert records. -/
def fireOf (event : OperationalEvent Ts Id)
    (policy : AlertPolicy) : AlertFire Ts Id :=
  ⟨event.tsUtc, event.eventId, policy.severity, event.summary⟩

/-! ## The alerts of all keys -/

abbrev AlertDb (Ts Id : Type*) := OrderedDict AlertKey (AlertLog Ts Id)

namespace AlertDb

/-- The tables without rows. -/
def empty : AlertDb Ts Id := OrderedDict.empty

def log (db : AlertDb Ts Id) (key : AlertKey) : AlertLog Ts Id :=
  (db.get? key).getD {}

def put (db : AlertDb Ts Id) (key : AlertKey)
    (log : AlertLog Ts Id) : AlertDb Ts Id :=
  db.set key log

def putRow (db : AlertDb Ts Id) (key : AlertKey)
    (row : AlertRow Ts Id) : AlertDb Ts Id :=
  db.put key { db.log key with row := some row }

def modifyRow (db : AlertDb Ts Id) (key : AlertKey)
    (change : AlertRow Ts Id → AlertRow Ts Id) : AlertDb Ts Id :=
  db.put key ((db.log key).modifyRow change)

@[simp] theorem log_empty (key : AlertKey) :
    (empty : AlertDb Ts Id).log key = {} := rfl

theorem log_put (db : AlertDb Ts Id) (key other : AlertKey)
    (log : AlertLog Ts Id) :
    (db.put key log).log other = if other = key then log else db.log other := by
  unfold AlertDb.log put
  rw [OrderedDict.get?_set]
  split <;> rfl

@[simp] theorem log_put_self (db : AlertDb Ts Id) (key : AlertKey)
    (log : AlertLog Ts Id) :
    (db.put key log).log key = log := by
  rw [log_put, if_pos rfl]

theorem log_putRow (db : AlertDb Ts Id) (key other : AlertKey)
    (row : AlertRow Ts Id) :
    (db.putRow key row).log other =
      if other = key then { db.log key with row := some row }
      else db.log other :=
  db.log_put key other _

@[simp] theorem putRow_putRow (db : AlertDb Ts Id) (key : AlertKey)
    (first second : AlertRow Ts Id) :
    (db.putRow key first).putRow key second = db.putRow key second := by
  simp [putRow, put, AlertDb.log, OrderedDict.set_set]

@[simp] theorem modifyRow_putRow (db : AlertDb Ts Id) (key : AlertKey)
    (row : AlertRow Ts Id) (change : AlertRow Ts Id → AlertRow Ts Id) :
    (db.putRow key row).modifyRow key change = db.putRow key (change row) := by
  simp [modifyRow, putRow, put, AlertDb.log, AlertLog.modifyRow,
    OrderedDict.set_set]

@[simp] theorem row_putRow (db : AlertDb Ts Id) (key : AlertKey)
    (row : AlertRow Ts Id) :
    ((db.putRow key row).log key).row = some row := by
  rw [log_putRow, if_pos rfl]

theorem log_modifyRow (db : AlertDb Ts Id) (key other : AlertKey)
    (change : AlertRow Ts Id → AlertRow Ts Id) :
    (db.modifyRow key change).log other =
      if other = key then (db.log key).modifyRow change else db.log other :=
  db.log_put key other _

end AlertDb

section Evaluate

variable (epoch : Ts → Option ℚ)

/-- The event still has to wait for its alert to fire. -/
def waits (policy : AlertPolicy) (eventTime : ℚ)
    (pendingSince : Option Ts) : Bool :=
  match pendingSince with
  | none => false
  | some pendingSince =>
    match epoch pendingSince with
    | none => true
    | some pendingTime => decide (eventTime - pendingTime < policy.forSeconds)

/-- The judgement of `_try_escalate` on the row it has read. -/
def meetsRule (rule : EscalationRule) (firstFiredAt tsUtc : Ts)
    (fireCount : ℕ) : Bool :=
  decide (rule.threshold ≤ fireCount) &&
    match epoch firstFiredAt, epoch tsUtc with
    | some firstFired, some eventTime =>
      decide (eventTime - firstFired ≤ rule.windowSeconds)
    | _, _ => false

def evidenceFor (rule : EscalationRule) (event : OperationalEvent Ts Id)
    (firstFiredAt : Ts) (fireCount : ℕ) : EscalationEvidence Ts Id :=
  ⟨event.eventId, fireCount, rule.windowSeconds, firstFiredAt⟩

/-- `_try_escalate`. -/
def tryEscalate (row : AlertRow Ts Id) (event : OperationalEvent Ts Id)
    (fireCount : ℕ) (rule : EscalationRule) (now : ℤ) : AlertRow Ts Id :=
  let firstFiredAt := row.occurrence.firstFiredAt
  if meetsRule epoch rule firstFiredAt event.tsUtc fireCount then
    row.escalate rule (evidenceFor rule event firstFiredAt fireCount)
      event.tsUtc now
  else row

/-- What `evaluate` does to the row of an event with a policy. -/
def evaluateFault (row : Option (AlertRow Ts Id))
    (event : OperationalEvent Ts Id) (policy : AlertPolicy) (eventTime : ℚ)
    (now : ℤ) : (Bool × ℕ) × AlertRow Ts Id :=
  let fire := fireOf event policy
  let pended := AlertRow.recordPending row fire now
  if waits epoch policy eventTime pended.1 then ((false, 0), pended.2)
  else
    let fired := AlertRow.recordFire (some pended.2) fire cooldownSeconds now
    match escalationRule event.eventType with
    | none => fired
    | some rule => (fired.1, tryEscalate epoch fired.2 event fired.1.2 rule now)

variable [DecidableEq Ts]

/-- What `evaluate` does first: a recovery resolves the alert of its fault. -/
def recover (db : AlertDb Ts Id) (event : OperationalEvent Ts Id)
    (now : ℤ) : AlertDb Ts Id :=
  match recoveredKey event with
  | none => db
  | some key =>
    db.put key ((db.log key).resolve event.tsUtc (some event.eventId) now).2

/-- `evaluate`, with `(should_notify, fire_count)`. -/
def evaluate (db : AlertDb Ts Id) (event : OperationalEvent Ts Id)
    (now : ℤ) : (Bool × ℕ) × AlertDb Ts Id :=
  let db := recover db event now
  match alertPolicy event.eventType, epoch event.tsUtc with
  | some policy, some eventTime =>
    let key := dedupKeyFor event
    let evaluated :=
      evaluateFault epoch (db.log key).row event policy eventTime now
    (evaluated.1, db.putRow key evaluated.2)
  | _, _ => ((false, 0), db)

/-- `acknowledge`, with `(found, closed)`. -/
def acknowledge (db : AlertDb Ts Id) (key : AlertKey) (nowIso : Ts)
    (now : ℤ) : (Bool × Bool) × AlertDb Ts Id :=
  if ((db.log key).occurrence).isNone then ((false, false), db)
  else if closesOnAck key.eventType then
    let closed := (db.log key).closeAcknowledged nowIso now
    ((closed.1, closed.1), db.put key closed.2)
  else ((true, false), db.modifyRow key fun row => row.acknowledge nowIso now)

def leaseExpiredSince (now : ℚ) (key : AlertKey) (lastSeenAt : Ts) : Bool :=
  match (alertPolicy key.eventType).bind (·.ttlSeconds), epoch lastSeenAt with
  | some ttlSeconds, some lastSeen => decide (ttlSeconds < now - lastSeen)
  | _, _ => false

def leaseExpired (now : ℚ) (key : AlertKey) (row : AlertRow Ts Id) : Bool :=
  leaseExpiredSince epoch now key row.lastSeenAt

/-- The keys of the active alerts whose lease has run out. -/
def expiredKeys (db : AlertDb Ts Id) (now : ℚ) : List AlertKey :=
  db.entries.filterMap fun entry =>
    if entry.2.row.any fun row =>
      decide (row.status = .active) && leaseExpired epoch now entry.1 row
    then some entry.1 else none

/-- `resolve_expired`, with the number of resolved alerts. -/
def resolveExpired (db : AlertDb Ts Id) (nowEpoch : ℚ) (nowIso : Ts)
    (now : ℤ) : ℕ × AlertDb Ts Id :=
  (expiredKeys epoch db nowEpoch).foldl (fun resolved key =>
      let (changed, log) := (resolved.2.log key).resolve nowIso none now
      (resolved.1 + changed, resolved.2.put key log))
    (0, db)

end Evaluate

/-! ## Actions -/

/-- An event, an action of an operator or a sweep, with the readings of the
clock. -/
inductive AlertAction (Ts Id : Type*)
  | evaluate (event : OperationalEvent Ts Id) (now : ℤ)
  | acknowledge (key : AlertKey) (nowIso : Ts) (now : ℤ)
  | silence (key : AlertKey) (silencedUntil : Ts) (reason : Option String)
      (now : ℤ)
  | resolveExpired (nowEpoch : ℚ) (nowIso : Ts) (now : ℤ)

section Act

variable (epoch : Ts → Option ℚ) [DecidableEq Ts]

/-- The tables after an action. -/
def act (db : AlertDb Ts Id) : AlertAction Ts Id → AlertDb Ts Id
  | .evaluate event now => (evaluate epoch db event now).2
  | .acknowledge key nowIso now => (acknowledge db key nowIso now).2
  | .silence key silencedUntil reason now =>
    db.modifyRow key fun row => row.silence silencedUntil reason now
  | .resolveExpired nowEpoch nowIso now =>
    (resolveExpired epoch db nowEpoch nowIso now).2

def actOn (key : AlertKey)
    (log : AlertLog Ts Id) : AlertAction Ts Id → AlertLog Ts Id
  | .evaluate event now =>
    let log :=
      if recoveredKey event = some key then
        (log.resolve event.tsUtc (some event.eventId) now).2
      else log
    match alertPolicy event.eventType, epoch event.tsUtc with
    | some policy, some eventTime =>
      if dedupKeyFor event = key then
        let evaluated :=
          evaluateFault epoch log.row event policy eventTime now
        { log with row := some evaluated.2 }
      else log
    | _, _ => log
  | .acknowledge other nowIso now =>
    if other = key then
      if closesOnAck key.eventType then (log.closeAcknowledged nowIso now).2
      else log.modifyRow fun row => row.acknowledge nowIso now
    else log
  | .silence other silencedUntil reason now =>
    if other = key then
      log.modifyRow fun row => row.silence silencedUntil reason now
    else log
  | .resolveExpired nowEpoch nowIso now =>
    if log.row.any (leaseExpired epoch nowEpoch key) then
      (log.resolve nowIso none now).2
    else log

variable {epoch} {db : AlertDb Ts Id} {key : AlertKey}

omit [DecidableEq Ts] in
theorem mem_expiredKeys {now : ℚ} :
    key ∈ expiredKeys epoch db now ↔
      ∃ row, (db.log key).row = some row ∧ row.status = .active ∧
        leaseExpired epoch now key row = true := by
  rw [expiredKeys, List.mem_filterMap]
  constructor
  · rintro ⟨⟨other, log⟩, member, listed⟩
    split at listed
    · rename_i due
      cases listed
      rw [Option.any_eq_true] at due
      obtain ⟨row, found, active⟩ := due
      rw [Bool.and_eq_true, decide_eq_true_eq] at active
      refine ⟨row, ?_, active⟩
      rw [AlertDb.log, (OrderedDict.get?_eq_some_iff _ _ _).mpr member]
      exact found
    · cases listed
  · rintro ⟨row, found, active, expired⟩
    cases stored : db.get? key with
    | none => simp [AlertDb.log, stored] at found
    | some log =>
      rw [AlertDb.log, stored] at found
      refine ⟨(key, log), (OrderedDict.get?_eq_some_iff _ _ _).mp stored, ?_⟩
      change log.row = some row at found
      simp [found, active, expired]

theorem log_foldl_resolve (keys : List AlertKey) (nowIso : Ts) (now : ℤ)
    (resolved : ℕ × AlertDb Ts Id) :
    (keys.foldl (fun resolved key =>
          let (changed, log) := (resolved.2.log key).resolve nowIso none now
          (resolved.1 + changed, resolved.2.put key log))
        resolved).2.log key =
      if key ∈ keys then ((resolved.2.log key).resolve nowIso none now).2
      else resolved.2.log key := by
  induction keys generalizing resolved with
  | nil => rfl
  | cons first keys ih =>
    rw [List.foldl_cons, ih]
    simp only [AlertDb.log_put, List.mem_cons]
    by_cases same : key = first
    · subst same
      have again := AlertLog.resolve_of_idle
        (AlertLog.occurrence_resolve (resolved.2.log key) nowIso none now)
        nowIso none now
      simp [again]
    · simp [same]

theorem log_recover (db : AlertDb Ts Id) (event : OperationalEvent Ts Id)
    (now : ℤ) :
    (recover db event now).log key =
      if recoveredKey event = some key then
        ((db.log key).resolve event.tsUtc (some event.eventId) now).2
      else db.log key := by
  unfold recover
  cases recoveredKey event with
  | none => rfl
  | some other =>
    by_cases same : other = key
    · subst same
      simp
    · simp [AlertDb.log_put, same, Ne.symm same]

theorem log_act (db : AlertDb Ts Id) (key : AlertKey)
    (action : AlertAction Ts Id) :
    (act epoch db action).log key = actOn epoch key (db.log key) action := by
  cases action with
  | evaluate event now =>
    simp only [act, evaluate, actOn, ← log_recover]
    generalize recover db event now = recovered
    cases alertPolicy event.eventType with
    | none => rfl
    | some policy =>
      cases epoch event.tsUtc with
      | none => rfl
      | some eventTime =>
        by_cases same : dedupKeyFor event = key
        · subst same
          simp [AlertDb.log_putRow]
        · simp [AlertDb.log_putRow, same, Ne.symm same]
  | acknowledge other nowIso now =>
    simp only [act, acknowledge, actOn]
    by_cases same : other = key
    · subst same
      cases going : (db.log other).occurrence with
      | none =>
        rw [AlertLog.closeAcknowledged_of_idle going,
          AlertLog.modifyRow_acknowledge_of_idle going]
        simp
      | some occurrence =>
        cases closesOnAck other.eventType <;> simp [AlertDb.log_modifyRow]
    · cases (db.log other).occurrence <;> cases closesOnAck other.eventType <;>
          simp [AlertDb.log_modifyRow, AlertDb.log_put, same, Ne.symm same]
  | silence other silencedUntil reason now =>
    rw [act, actOn, AlertDb.log_modifyRow]
    by_cases same : key = other
    · simp [same]
    · simp [same, Ne.symm same]
  | resolveExpired nowEpoch nowIso now =>
    rw [act, resolveExpired, log_foldl_resolve, actOn]
    cases going : (db.log key).occurrence with
    | none =>
      rw [AlertLog.resolve_of_idle going]
      simp
    | some occurrence =>
      obtain ⟨row, found, active, _⟩ :=
        AlertLog.occurrence_eq_some_iff.mp going
      simp [mem_expiredKeys, found, active]

end Act

/-- Timestamps in seconds. -/
def secondsEpoch (time : ℕ) : Option ℚ := some time

def journalFault (eventType : EventType)
    (time eventId : ℕ) : OperationalEvent ℕ ℕ :=
  EventRequest.row
    { eventType := eventType
      severity := "error"
      summary := "The journal reports a fault"
      source := some "journal" }
    (some "boot") ⟨eventId, time, time⟩

end SmarTune
