import SmarTune.Diagnostics.Alerts
import SmarTune.Library.Runs

/-!
# Calls of the alert tables

Threads evaluate events, acknowledge, silence and sweep at the same time.  Each
access to the tables holds their lock, so the calls interleave between these
sections.  Uninterrupted, the sections of a call make up the action.
-/

namespace SmarTune

/-- What a call does next. -/
inductive AlertCall (Ts Id : Type*)
  /-- `evaluate`, up to `record_pending`. -/
  | evaluate (event : OperationalEvent Ts Id)
  /-- `record_pending`. -/
  | pend (event : OperationalEvent Ts Id) (policy : AlertPolicy) (eventTime : ℚ)
  /-- `record_fire`. -/
  | fire (event : OperationalEvent Ts Id) (policy : AlertPolicy)
  /-- `_try_escalate`, up to `escalate`. -/
  | judge (event : OperationalEvent Ts Id) (fireCount : ℕ)
      (rule : EscalationRule)
  /-- `escalate`. -/
  | escalate (event : OperationalEvent Ts Id)
      (evidence : EscalationEvidence Ts Id)
      (rule : EscalationRule)
  /-- `acknowledge`, up to the update. -/
  | acknowledge (key : AlertKey) (nowIso : Ts)
  /-- The update of `acknowledge`. -/
  | settle (key : AlertKey) (nowIso : Ts)
  /-- `silence`. -/
  | silence (key : AlertKey) (silencedUntil : Ts) (reason : Option String)
  /-- `resolve_expired`, up to the first resolution. -/
  | sweep (nowEpoch : ℚ) (nowIso : Ts)
  /-- The resolutions of `resolve_expired` that are left. -/
  | expire (nowEpoch : ℚ) (nowIso : Ts) (due : List AlertKey)
  deriving DecidableEq

variable {Ts Id : Type*}

def AlertAction.call : AlertAction Ts Id → AlertCall Ts Id
  | .evaluate event _ => .evaluate event
  | .acknowledge key nowIso _ => .acknowledge key nowIso
  | .silence key silencedUntil reason _ => .silence key silencedUntil reason
  | .resolveExpired nowEpoch nowIso _ => .sweep nowEpoch nowIso

/-- The time of an action. -/
def AlertAction.now : AlertAction Ts Id → ℤ
  | .evaluate _ now => now
  | .acknowledge _ _ now => now
  | .silence _ _ _ now => now
  | .resolveExpired _ _ now => now

section Advance

variable (epoch : Ts → Option ℚ) [DecidableEq Ts]

/-- The next section of a call, and what is left of the call. -/
def advance (db : AlertDb Ts Id) (now : ℤ) :
    AlertCall Ts Id → AlertDb Ts Id × Option (AlertCall Ts Id)
  | .evaluate event =>
    (recover db event now,
      match alertPolicy event.eventType, epoch event.tsUtc with
      | some policy, some eventTime => some (.pend event policy eventTime)
      | _, _ => none)
  | .pend event policy eventTime =>
    let key := dedupKeyFor event
    let pended :=
      AlertRow.recordPending (db.log key).row (fireOf event policy) now
    (db.putRow key pended.2,
      if waits epoch policy eventTime pended.1 then none
      else some (.fire event policy))
  | .fire event policy =>
    let key := dedupKeyFor event
    let fired :=
      AlertRow.recordFire (db.log key).row (fireOf event policy)
        cooldownSeconds now
    (db.putRow key fired.2, (escalationRule event.eventType).map fun rule =>
        .judge event fired.1.2 rule)
  | .judge event fireCount rule =>
    (db, (db.log (dedupKeyFor event)).row.bind fun row =>
        let firstFiredAt := row.occurrence.firstFiredAt
        if meetsRule epoch rule firstFiredAt event.tsUtc fireCount then
          some (.escalate event
            (evidenceFor rule event firstFiredAt fireCount) rule)
        else none)
  | .escalate event evidence rule =>
    (db.modifyRow (dedupKeyFor event) fun row =>
      row.escalate rule evidence event.tsUtc now, none)
  | .acknowledge key nowIso =>
    (db,
      if (db.log key).occurrence.isNone then none
      else some (.settle key nowIso))
  | .settle key nowIso =>
    (if closesOnAck key.eventType then
      db.put key ((db.log key).closeAcknowledged nowIso now).2
    else db.modifyRow key fun row => row.acknowledge nowIso now, none)
  | .silence key silencedUntil reason =>
    (db.modifyRow key fun row => row.silence silencedUntil reason now, none)
  | .sweep nowEpoch nowIso =>
    (db, some (.expire nowEpoch nowIso (expiredKeys epoch db nowEpoch)))
  | .expire _ _ [] => (db, none)
  | .expire nowEpoch nowIso (key :: due) =>
    (db.put key ((db.log key).resolve nowIso none now).2,
      some (.expire nowEpoch nowIso due))

/-- The tables after the rest of a call, when no other call comes between. -/
inductive Completes (now : ℤ) :
    AlertDb Ts Id → Option (AlertCall Ts Id) → AlertDb Ts Id → Prop
  | done (db : AlertDb Ts Id) : Completes now db none db
  | next {db finished : AlertDb Ts Id} {call : AlertCall Ts Id}
      (rest : Completes now (advance epoch db now call).1
        (advance epoch db now call).2 finished) :
      Completes now db (some call) finished

variable {epoch}

theorem completes_expire (db : AlertDb Ts Id) (nowEpoch : ℚ) (nowIso : Ts)
    (now : ℤ) (due : List AlertKey) (count : ℕ) :
    Completes epoch now db (some (.expire nowEpoch nowIso due)) (due.foldl
        (fun resolved key =>
          let (changed, log) := (resolved.2.log key).resolve nowIso none now
          (resolved.1 + changed, resolved.2.put key log))
        (count, db)).2 := by
  induction due generalizing db count with
  | nil => exact .next (.done db)
  | cons key due ih => exact .next (ih _ _)

/-- The sections of a fault carry out its evaluation. -/
theorem completes_pend (db : AlertDb Ts Id) (event : OperationalEvent Ts Id)
    (policy : AlertPolicy) (eventTime : ℚ) (now : ℤ) :
    Completes epoch now db (some (.pend event policy eventTime))
      (db.putRow (dedupKeyFor event)
        (evaluateFault epoch (db.log (dedupKeyFor event)).row event policy
          eventTime now).2) := by
  unfold evaluateFault
  generalize pending : AlertRow.recordPending
    (db.log (dedupKeyFor event)).row (fireOf event policy) now = pended
  cases waiting : waits epoch policy eventTime pended.1 with
  | true =>
    refine .next ?_
    simp only [advance, pending, waiting, if_true]
    exact .done _
  | false =>
    generalize firing : AlertRow.recordFire (some pended.2)
      (fireOf event policy) cooldownSeconds now = fired
    refine .next ?_
    simp only [advance, pending, waiting, firing, Bool.false_eq_true, if_false]
    refine .next ?_
    simp only [advance, AlertDb.row_putRow, AlertDb.putRow_putRow, firing]
    cases escalationRule event.eventType with
    | none => exact .done _
    | some rule =>
      refine .next ?_
      simp only [advance, AlertDb.row_putRow, Option.bind_some, tryEscalate]
      split
      · refine .next ?_
        simp only [advance, AlertDb.modifyRow_putRow]
        exact .done _
      · exact .done _

theorem completes_call (db : AlertDb Ts Id) (action : AlertAction Ts Id) :
    Completes epoch action.now db (some action.call) (act epoch db action) := by
  cases action with
  | evaluate event now =>
    refine .next ?_
    simp only [AlertAction.call, AlertAction.now, advance, act, evaluate]
    cases alertPolicy event.eventType with
    | none => exact .done _
    | some policy =>
      cases epoch event.tsUtc with
      | none => exact .done _
      | some eventTime => exact completes_pend _ event policy eventTime now
  | acknowledge key nowIso now =>
    refine .next ?_
    simp only [AlertAction.call, AlertAction.now, advance, act, acknowledge]
    cases (db.log key).occurrence with
    | none => exact .done _
    | some occurrence =>
      refine .next ?_
      simp only [advance]
      cases closesOnAck key.eventType <;> exact .done _
  | silence key silencedUntil reason now => exact .next (.done _)
  | resolveExpired nowEpoch nowIso now =>
    exact .next (completes_expire db nowEpoch nowIso now _ 0)

end Advance

end SmarTune
