import SmarTune.Diagnostics.Alerts

/-!
# What an action does to an alert

An alert is at rest or an occurrence of it is going on.  A fault starts an
occurrence or fires again, some actions end it, and every other action leaves
the fires of the alert as they are.
-/

namespace SmarTune

variable {Ts Id : Type*}

/-! ## A fault that starts an occurrence -/

/-- The escalation columns that the next occurrence finds. -/
def AlertLog.leftover (log : AlertLog Ts Id) : Escalation Ts Id :=
  (log.row.map (·.occurrence.escalation)).getD {}

/-- No occurrence is going on, and none waits to fire. -/
def AlertLog.Rested (log : AlertLog Ts Id) : Prop :=
  ∀ row, log.row = some row → row.status ≠ .active ∧ row.pendingSince = none

/-- An occurrence is going on. -/
def AlertLog.Going (log : AlertLog Ts Id) (row : AlertRow Ts Id) : Prop :=
  log.row = some row ∧ row.status = .active ∧ row.pendingSince = none

/-- The first fire of an occurrence, over the given escalation columns. -/
def startedOccurrence (escalation : Escalation Ts Id)
    (event : OperationalEvent Ts Id)
    (policy : AlertPolicy) : Occurrence Ts Id where
  firstFiredAt := event.tsUtc
  lastFiredAt := event.tsUtc
  fireCount := 1
  lastEventId := event.eventId
  severity := policy.severity
  escalation := escalation
  summary := event.summary

/-- The row of a first fire. -/
def startedRow (escalation : Escalation Ts Id) (event : OperationalEvent Ts Id)
    (policy : AlertPolicy) (now : ℤ) : AlertRow Ts Id where
  occurrence := startedOccurrence escalation event policy
  lastSeenAt := event.tsUtc
  updateTime := now

variable {eventType : EventType} {policy : AlertPolicy}

theorem forSeconds_of_policy (chosen : alertPolicy eventType = some policy) :
    policy.forSeconds = 0 := by
  unfold alertPolicy at chosen
  split at chosen <;> cases chosen <;> rfl

theorem recoveredKey_of_policy {event : OperationalEvent Ts Id}
    (chosen : alertPolicy event.eventType = some policy) :
    recoveredKey event = none := by
  unfold recoveredKey recoveryTarget
  unfold alertPolicy at chosen
  split at chosen <;> simp_all

/-- One fire never makes a storm. -/
theorem not_meetsRule_once {epoch : Ts → Option ℚ} {rule : EscalationRule}
    (chosen : escalationRule eventType = some rule) (firstFiredAt tsUtc : Ts) :
    meetsRule epoch rule firstFiredAt tsUtc 1 = false := by
  unfold escalationRule at chosen
  split at chosen
  · cases chosen
    rfl
  · cases chosen

section Fault

variable {epoch : Ts → Option ℚ} {event : OperationalEvent Ts Id}
  {policy : AlertPolicy} {eventTime : ℚ}

theorem evaluateFault_of_rested {log : AlertLog Ts Id} (rested : log.Rested)
    (chosen : alertPolicy event.eventType = some policy)
    (parsed : epoch event.tsUtc = some eventTime) (now : ℤ) :
    (evaluateFault epoch log.row event policy eventTime now).2 =
      startedRow log.leftover event policy now := by
  have immediate := forSeconds_of_policy chosen
  have fires : waits epoch policy eventTime (some event.tsUtc) = false := by
    simp [waits, parsed, immediate]
  have pended : ∃ row, AlertRow.recordPending log.row (fireOf event policy) now =
        (some event.tsUtc, row) ∧ row.status = .pending ∧
      row.occurrence.escalation = log.leftover ∧ row.updateTime = now := by
    unfold AlertLog.leftover
    cases found : log.row with
    | none => exact ⟨_, rfl, rfl, rfl, rfl⟩
    | some row =>
      obtain ⟨inactive, unheld⟩ := rested row found
      simp [AlertRow.recordPending, inactive, unheld, fireOf]
  obtain ⟨row, recorded, waiting, kept, touched⟩ := pended
  have fired : AlertRow.recordFire (some row) (fireOf event policy)
      cooldownSeconds now =
        ((true, 1), startedRow log.leftover event policy now) := by
    simp [AlertRow.recordFire, waiting, kept, startedRow, startedOccurrence,
      fireOf]
  unfold evaluateFault
  simp only [recorded, fires, fired]
  cases rule : escalationRule event.eventType with
  | none => rfl
  | some rule => simp [tryEscalate, not_meetsRule_once rule]

/-- What a fault makes of an active row: one more fire, and the escalation
columns of before unless the rule is met. -/
structure FiresAgain (epoch : Ts → Option ℚ) (event : OperationalEvent Ts Id)
    (row next : AlertRow Ts Id) : Prop where
  status : next.status = .active
  unheld : next.pendingSince = none
  start : next.occurrence.firstFiredAt = row.occurrence.firstFiredAt
  last : next.occurrence.lastFiredAt = event.tsUtc
  count : next.occurrence.fireCount = row.occurrence.fireCount + 1
  escalation : next.occurrence.escalation = row.occurrence.escalation ∨
    ∃ rule, escalationRule event.eventType = some rule ∧
      meetsRule epoch rule row.occurrence.firstFiredAt event.tsUtc
        (row.occurrence.fireCount + 1) = true

theorem evaluateFault_of_active {row : AlertRow Ts Id}
    (active : row.status = .active) (now : ℤ) :
    FiresAgain epoch event row
      (evaluateFault epoch (some row) event policy eventTime now).2 := by
  simp only [evaluateFault, AlertRow.recordPending, active, if_true, waits,
    Bool.false_eq_true, if_false]
  cases chosen : escalationRule event.eventType with
  | none => constructor <;> simp [AlertRow.recordFire, active, fireOf]
  | some rule =>
    simp only [tryEscalate]
    split
    · rename_i met
      constructor
      all_goals simp [AlertRow.recordFire, active, fireOf]
      right
      exact ⟨rule, chosen, by simpa [AlertRow.recordFire, active] using met⟩
    · constructor <;> simp [AlertRow.recordFire, active, fireOf]

end Fault

/-! ## Actions on a rested and on an active alert -/

section Step

variable [DecidableEq Ts] (epoch : Ts → Option ℚ) (key : AlertKey)

/-- The action is a fault of the key. -/
def Raises : AlertAction Ts Id → Prop
  | .evaluate event _ =>
    dedupKeyFor event = key ∧ (alertPolicy event.eventType).isSome = true ∧
      (epoch event.tsUtc).isSome = true
  | _ => False

/-- The action ends the occurrence of an active row of the key. -/
def Ends (row : AlertRow Ts Id) : AlertAction Ts Id → Prop
  | .evaluate event _ => recoveredKey event = some key
  | .acknowledge other _ _ => other = key ∧ closesOnAck key.eventType = true
  | .silence _ _ _ _ => False
  | .resolveExpired nowEpoch _ _ => leaseExpired epoch nowEpoch key row = true

variable {epoch key} {log : AlertLog Ts Id} {row : AlertRow Ts Id}
  {action : AlertAction Ts Id}

omit [DecidableEq Ts] in
theorem AlertLog.Rested.occurrence (rested : log.Rested) :
    log.occurrence = none := by
  cases going : log.occurrence with
  | none => rfl
  | some occurrence =>
    obtain ⟨row, found, active, _⟩ := AlertLog.occurrence_eq_some_iff.mp going
    exact absurd active (rested row found).1

theorem AlertLog.rested_close (unheld : row.pendingSince = none) (tsUtc : Ts)
    (eventId : Option Id) (now : ℤ) :
    (log.close row tsUtc eventId now).Rested := by
  intro closed found
  cases found
  exact ⟨by simp [AlertRow.resolved], unheld⟩

/-- Only a fault changes a rested alert. -/
theorem actOn_of_rested (rested : log.Rested)
    (unraised : ¬ Raises epoch key action) :
    actOn epoch key log action = log := by
  have idle := rested.occurrence
  cases action with
  | evaluate event now =>
    simp only [actOn, AlertLog.resolve_of_idle idle, ite_self]
    cases chosen : alertPolicy event.eventType with
    | none => rfl
    | some policy =>
      cases parsed : epoch event.tsUtc with
      | none => rfl
      | some eventTime =>
        have foreign : dedupKeyFor event ≠ key := by
          intro same
          exact unraised ⟨same, by simp [chosen], by simp [parsed]⟩
        simp [foreign]
  | acknowledge other nowIso now =>
    simp [actOn, AlertLog.closeAcknowledged_of_idle idle,
      AlertLog.modifyRow_acknowledge_of_idle idle]
  | silence other silencedUntil reason now =>
    simp [actOn, AlertLog.modifyRow_silence_of_idle idle]
  | resolveExpired nowEpoch nowIso now =>
    simp [actOn, AlertLog.resolve_of_idle idle]

theorem actOn_of_raises (raised : Raises epoch key action) :
    ∃ event policy now, action = .evaluate event now ∧
      ∀ log : AlertLog Ts Id, log.Rested → actOn epoch key log action =
          { log with row := some (startedRow log.leftover event policy now) } := by
  cases action with
  | evaluate event now =>
    obtain ⟨same, governed, timed⟩ := raised
    obtain ⟨policy, chosen⟩ := Option.isSome_iff_exists.mp governed
    obtain ⟨eventTime, parsed⟩ := Option.isSome_iff_exists.mp timed
    refine ⟨event, policy, now, rfl, ?_⟩
    intro log rested
    simp only [actOn, chosen, parsed, same, if_true,
      AlertLog.resolve_of_idle rested.occurrence, ite_self,
      evaluateFault_of_rested rested chosen parsed]
  | _ => exact raised.elim

theorem actOn_of_ends (active : row.status = .active)
    (ended : Ends epoch key row action) :
    ∃ (last : AlertRow Ts Id) (tsUtc : Ts) (eventId : Option Id) (now : ℤ),
      last.occurrence =
          { row.occurrence with
            acknowledgedAt := last.occurrence.acknowledgedAt } ∧
        last.pendingSince = row.pendingSince ∧
        ∀ log : AlertLog Ts Id, log.row = some row →
          actOn epoch key log action = log.close last tsUtc eventId now := by
  cases action with
  | evaluate event now =>
    refine ⟨row, event.tsUtc, some event.eventId, now, rfl, rfl, ?_⟩
    intro log found
    have ungoverned : alertPolicy event.eventType = none := by
      cases chosen : alertPolicy event.eventType with
      | none => rfl
      | some policy =>
        rw [Ends, recoveredKey_of_policy chosen] at ended
        cases ended
    have recovers : recoveredKey event = some key := ended
    simp [actOn, recovers, ungoverned, AlertLog.resolve_of_active found active]
  | acknowledge other nowIso now =>
    obtain ⟨same, closes⟩ := ended
    refine ⟨row.acknowledge nowIso now, nowIso, none, now, ?_, ?_, ?_⟩
    · simp [AlertRow.acknowledge, active]
    · simp [AlertRow.acknowledge, active]
    · intro log found
      simp [actOn, same, closes, AlertLog.closeAcknowledged, found, active]
  | silence other silencedUntil reason now => exact ended.elim
  | resolveExpired nowEpoch nowIso now =>
    refine ⟨row, nowIso, none, now, rfl, rfl, ?_⟩
    intro log found
    have expired : leaseExpired epoch nowEpoch key row = true := ended
    simp [actOn, found, expired, AlertLog.resolve_of_active found active]

/-- The row has fired no more. -/
structure SameFires (row next : AlertRow Ts Id) : Prop where
  status : next.status = row.status
  unheld : next.pendingSince = row.pendingSince
  start : next.occurrence.firstFiredAt = row.occurrence.firstFiredAt
  last : next.occurrence.lastFiredAt = row.occurrence.lastFiredAt
  count : next.occurrence.fireCount = row.occurrence.fireCount
  escalation : next.occurrence.escalation = row.occurrence.escalation

omit [DecidableEq Ts] in
theorem SameFires.refl (row : AlertRow Ts Id) : SameFires row row :=
  ⟨rfl, rfl, rfl, rfl, rfl, rfl⟩

theorem goes_of_kept
    (kept : ∀ log : AlertLog Ts Id, log.row = some row →
      actOn epoch key log action = log) :
    ∃ next : AlertRow Ts Id, ((∃ event now, action = .evaluate event now ∧
          Raises epoch key action ∧ FiresAgain epoch event row next) ∨
        SameFires row next) ∧
      ∀ log : AlertLog Ts Id, log.row = some row →
        actOn epoch key log action = { log with row := some next } := by
  refine ⟨row, .inr (.refl row), ?_⟩
  intro log found
  rw [kept log found, ← found]

theorem actOn_of_goes (active : row.status = .active)
    (goes : ¬ Ends epoch key row action) :
    ∃ next : AlertRow Ts Id, ((∃ event now, action = .evaluate event now ∧
          Raises epoch key action ∧ FiresAgain epoch event row next) ∨
        SameFires row next) ∧
      ∀ log : AlertLog Ts Id, log.row = some row →
        actOn epoch key log action = { log with row := some next } := by
  cases action with
  | evaluate event now =>
    have unrecovered : recoveredKey event ≠ some key := goes
    cases chosen : alertPolicy event.eventType with
    | none =>
      apply goes_of_kept
      intro log _
      simp [actOn, unrecovered, chosen]
    | some policy =>
      cases parsed : epoch event.tsUtc with
      | none =>
        apply goes_of_kept
        intro log _
        simp [actOn, unrecovered, chosen, parsed]
      | some eventTime =>
        by_cases same : dedupKeyFor event = key
        · have raised : Raises epoch key (.evaluate event now) :=
            ⟨same, by simp [chosen], by simp [parsed]⟩
          have fires : FiresAgain epoch event row
              (evaluateFault epoch (some row) event policy eventTime now).2 :=
            evaluateFault_of_active active now
          refine ⟨_, .inl ⟨event, now, rfl, raised, fires⟩, ?_⟩
          intro log found
          simp [actOn, unrecovered, chosen, parsed, same, found]
        · apply goes_of_kept
          intro log _
          simp [actOn, unrecovered, chosen, parsed, same]
  | acknowledge other nowIso now =>
    by_cases same : other = key
    · refine ⟨row.acknowledge nowIso now, .inr ?_, ?_⟩
      · constructor <;> simp [AlertRow.acknowledge, active]
      · intro log found
        have stays : closesOnAck key.eventType = false := by
          rw [← Bool.not_eq_true]
          exact fun closes => goes ⟨same, closes⟩
        simp [actOn, same, stays, AlertLog.modifyRow, found]
    · apply goes_of_kept
      intro log _
      simp [actOn, same]
  | silence other silencedUntil reason now =>
    by_cases same : other = key
    · refine ⟨row.silence silencedUntil reason now, .inr ?_, ?_⟩
      · constructor <;> simp [AlertRow.silence, active]
      · intro log found
        simp [actOn, same, AlertLog.modifyRow, found]
    · apply goes_of_kept
      intro log _
      simp [actOn, same]
  | resolveExpired nowEpoch nowIso now =>
    have held : leaseExpired epoch nowEpoch key row = false := by
      rw [← Bool.not_eq_true]
      exact goes
    apply goes_of_kept
    intro log found
    simp [actOn, found, held]

omit [DecidableEq Ts] in
theorem going_of_goes {next : AlertRow Ts Id} (active : row.status = .active)
    (unheld : row.pendingSince = none)
    (went : (∃ event now, action = .evaluate event now ∧
        Raises epoch key action ∧ FiresAgain epoch event row next) ∨
      SameFires row next) :
    next.status = .active ∧ next.pendingSince = none := by
  rcases went with ⟨event, now, _, _, fires⟩ | same
  · exact ⟨fires.status, fires.unheld⟩
  · exact ⟨same.status.trans active, same.unheld.trans unheld⟩

theorem actOn_settled (settled : (∃ row, log.Going row) ∨ log.Rested)
    (action : AlertAction Ts Id) :
    (∃ row, (actOn epoch key log action).Going row) ∨
      (actOn epoch key log action).Rested := by
  rcases settled with ⟨row, found, active, unheld⟩ | rested
  · by_cases ended : Ends epoch key row action
    · obtain ⟨last, tsUtc, eventId, now, _, free, closes⟩ :=
        actOn_of_ends active ended
      right
      rw [closes log found]
      exact AlertLog.rested_close (free.trans unheld) tsUtc eventId now
    · obtain ⟨next, went, goes⟩ := actOn_of_goes active ended
      left
      rw [goes log found]
      exact ⟨next, rfl, going_of_goes active unheld went⟩
  · by_cases raised : Raises epoch key action
    · obtain ⟨event, policy, now, _, starts⟩ := actOn_of_raises raised
      left
      rw [starts log rested]
      exact ⟨_, rfl, rfl, rfl⟩
    · right
      rw [actOn_of_rested rested raised]
      exact rested

theorem leftover_actOn (settled : (∃ row, log.Going row) ∨ log.Rested)
    (action : AlertAction Ts Id) :
    (actOn epoch key log action).leftover = log.leftover ∨
      ∃ event now row rule, action = .evaluate event now ∧
        Raises epoch key action ∧ log.Going row ∧
        escalationRule event.eventType = some rule ∧
        meetsRule epoch rule row.occurrence.firstFiredAt event.tsUtc
          (row.occurrence.fireCount + 1) = true := by
  rcases settled with ⟨row, going⟩ | rested
  · have before : log.leftover = row.occurrence.escalation := by
      simp [AlertLog.leftover, going.1]
    by_cases ended : Ends epoch key row action
    · obtain ⟨last, tsUtc, eventId, now, known, _, closes⟩ :=
        actOn_of_ends going.2.1 ended
      left
      rw [closes log going.1, before]
      change last.occurrence.escalation = row.occurrence.escalation
      rw [known]
    · obtain ⟨next, went, goes⟩ := actOn_of_goes going.2.1 ended
      rw [goes log going.1, before]
      rcases went with ⟨event, now, is, raised, fires⟩ | same
      · rcases fires.escalation with kept | ⟨rule, chosen, met⟩
        · exact .inl kept
        · exact .inr ⟨event, now, row, rule, is, raised, going, chosen, met⟩
      · exact .inl same.escalation
  · left
    by_cases raised : Raises epoch key action
    · obtain ⟨event, policy, now, _, starts⟩ := actOn_of_raises raised
      rw [starts log rested]
      rfl
    · rw [actOn_of_rested rested raised]

end Step

end SmarTune
