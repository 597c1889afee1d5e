import SmarTune.Diagnostics.AlertState
import SmarTune.Library.Runs

/-!
# How often an alert notifies

The fires of an occurrence should notify at its start and then whenever the
cooldown has passed since the last of them that did.  The row does not hold when
that was.  Its update time stands in for it, which acknowledging, silencing and
escalating write as well.
-/

namespace SmarTune

variable {Ts Id : Type*}

/-- A call of `AlertState` for one key, with the clock that it reads. -/
inductive RowCommand (Ts Id : Type*)
  | recordPending (fire : AlertFire Ts Id) (now : ℤ)
  | recordFire (fire : AlertFire Ts Id) (cooldownSeconds now : ℤ)
  | acknowledge (tsUtc : Ts) (now : ℤ)
  | closeAcknowledged (tsUtc : Ts) (now : ℤ)
  | silence (silencedUntil : Ts) (reason : Option String) (now : ℤ)
  | escalate (rule : EscalationRule) (evidence : EscalationEvidence Ts Id)
      (tsUtc : Ts)
      (now : ℤ)
  | resolve (tsUtc : Ts) (eventId : Option Id) (now : ℤ)
  | deleteResolved (cutoff : ℤ)

/-- The log of a key, with what is to be remembered of the occurrence that is
going on: when it last notified, and when it was written to since then by an
acknowledgement, a silence or an escalation. -/
structure NotifiedLog (Ts Id : Type*) where
  log : AlertLog Ts Id := {}
  notified : Option ℤ := none
  touched : Option ℤ := none

/-- When a command of an operator or an escalation writes to the row. -/
def AlertRow.touchedBy (row : AlertRow Ts Id) : RowCommand Ts Id → Option ℤ
  | .acknowledge _ now => if row.status = .active then some now else none
  | .silence _ _ now => if row.status = .active then some now else none
  | .escalate rule _ _ now =>
    if row.occurrence.escalation.severityOrigin = .ruleEscalated ∧
        rule.escalateTo.order ≤ row.occurrence.severity.order then none
    else some now
  | _ => none

namespace AlertLog

/-- `delete_resolved_older_than` at the key of the log. -/
def deleteResolved (log : AlertLog Ts Id) (cutoff : ℤ) : AlertLog Ts Id :=
  { log with
    row := log.row.filter fun row =>
      ¬(row.status = .resolved ∧ row.updateTime < cutoff) }

variable [DecidableEq Ts]

def perform (log : AlertLog Ts Id) : RowCommand Ts Id → AlertLog Ts Id
  | .recordPending fire now =>
    { log with row := some (AlertRow.recordPending log.row fire now).2 }
  | .recordFire fire cooldownSeconds now =>
    { log with
      row := some (AlertRow.recordFire log.row fire cooldownSeconds now).2 }
  | .acknowledge tsUtc now => log.modifyRow fun row => row.acknowledge tsUtc now
  | .closeAcknowledged tsUtc now => (log.closeAcknowledged tsUtc now).2
  | .silence silencedUntil reason now =>
    log.modifyRow fun row => row.silence silencedUntil reason now
  | .escalate rule evidence tsUtc now =>
    log.modifyRow fun row => row.escalate rule evidence tsUtc now
  | .resolve tsUtc eventId now => (log.resolve tsUtc eventId now).2
  | .deleteResolved cutoff => log.deleteResolved cutoff

/-- `should_notify` of a command, when it is a fire. -/
def notifies (log : AlertLog Ts Id) : RowCommand Ts Id → Bool
  | .recordFire fire cooldownSeconds now =>
    (AlertRow.recordFire log.row fire cooldownSeconds now).1.1
  | _ => false

end AlertLog

namespace NotifiedLog

section Commands

variable [DecidableEq Ts]

def step (state : NotifiedLog Ts Id) (command : RowCommand Ts Id) :
    NotifiedLog Ts Id :=
  let log := state.log.perform command
  match command with
  | .recordFire _ _ now =>
    if state.log.notifies command then ⟨log, some now, none⟩
    else ⟨log, state.notified, state.touched⟩
  | .closeAcknowledged _ _ => ⟨log, none, none⟩
  | .resolve _ _ _ => ⟨log, none, none⟩
  | command =>
    ⟨log, state.notified,
      (state.log.row.bind fun row => row.touchedBy command).or state.touched⟩

/-- A fire notifies when it starts an occurrence, or when the cooldown has
passed since the last fire of the occurrence that did. -/
def NotifiesDuly (state : NotifiedLog Ts Id) : RowCommand Ts Id → Prop
  | .recordFire fire cooldownSeconds now =>
    state.log.notifies (.recordFire fire cooldownSeconds now) = true ↔
      state.log.occurrence = none ∨
        ∃ last ∈ state.notified, max 0 cooldownSeconds ≤ now - last
  | _ => True

/-- Whether the cooldown has passed since the occurrence last notified is not
changed by counting from the last write to it since then. -/
def SparesCooldown (state : NotifiedLog Ts Id) : RowCommand Ts Id → Prop
  | .recordFire _ cooldownSeconds now =>
    ∀ touched ∈ state.touched, ∀ last ∈ state.notified,
      (max 0 cooldownSeconds ≤ now - touched ↔
        max 0 cooldownSeconds ≤ now - last)
  | _ => True

end Commands

instance (state : NotifiedLog Ts Id) (command : RowCommand Ts Id) :
    Decidable (state.NotifiesDuly command) :=
  match command with
  | .recordFire fire cooldownSeconds now =>
    inferInstanceAs (Decidable
      (state.log.notifies (.recordFire fire cooldownSeconds now) = true ↔ _))
  | .recordPending _ _ | .acknowledge _ _ | .closeAcknowledged _ _
  | .silence _ _ _ | .escalate _ _ _ _ | .resolve _ _ _ | .deleteResolved _ =>
    .isTrue trivial

/-- The update time of an active row is that of the last write since it last
notified, else that of the notification. -/
structure Dated (state : NotifiedLog Ts Id) : Prop where
  active : ∀ row, state.log.row = some row → row.status = .active →
    state.notified.isSome ∧ state.touched.or state.notified = some row.updateTime
  idle : state.log.occurrence = none → state.notified = none

/-! ## What the update time stands for -/

theorem dated_init : Dated ({} : NotifiedLog Ts Id) where
  active := fun _ found => nomatch found
  idle := fun _ => rfl

variable {row : AlertRow Ts Id} {touched : Option ℤ} {log : AlertLog Ts Id}
  {fire : AlertFire Ts Id} {cooldownSeconds now : ℤ}

theorem dated_of_active {episodes : List (AlertEpisode Ts Id)}
    {notified : Option ℤ} (active : row.status = .active)
    (known : notified.isSome)
    (date : touched.or notified = some row.updateTime) :
    Dated ⟨⟨some row, episodes⟩, notified, touched⟩ where
  active := by
    intro other found _
    cases found
    exact ⟨known, date⟩
  idle := by
    intro idle
    exact absurd active (AlertLog.inactive_of_idle idle rfl)

/-- or when no occurrence is going on and none is remembered to have notified. -/
theorem dated_of_idle (idle : log.occurrence = none) :
    Dated ⟨log, none, touched⟩ where
  active := fun _ found active =>
    absurd active (AlertLog.inactive_of_idle idle found)
  idle := fun _ => rfl

/-- A write to a row that is no longer followed keeps no occurrence going. -/
theorem occurrence_modifyRow_of_idle {change : AlertRow Ts Id → AlertRow Ts Id}
    (idle : log.occurrence = none)
    (status : ∀ row, (change row).status = row.status) :
    (log.modifyRow change).occurrence = none := by
  rw [AlertLog.occurrence_eq_none_iff]
  intro row found
  obtain ⟨before, stored, rfl⟩ := Option.map_eq_some_iff.mp found
  rw [status]
  exact AlertLog.inactive_of_idle idle stored

theorem Dated.modifyRow {state : NotifiedLog Ts Id} (dated : Dated state)
    (change : AlertRow Ts Id → AlertRow Ts Id)
    (touch : AlertRow Ts Id → Option ℤ)
    (status : ∀ row, (change row).status = row.status)
    (date : ∀ row, row.status = .active →
      some (change row).updateTime = (touch row).or (some row.updateTime)) :
    Dated ⟨state.log.modifyRow change, state.notified,
      (state.log.row.bind touch).or state.touched⟩ := by
  cases going : state.log.occurrence with
  | none =>
    rw [dated.idle going]
    exact dated_of_idle (occurrence_modifyRow_of_idle going status)
  | some occurrence =>
    obtain ⟨row, found, active, _⟩ := AlertLog.occurrence_eq_some_iff.mp going
    obtain ⟨known, dates⟩ := dated.active row found active
    rw [AlertLog.modifyRow, found, Option.map_some, Option.bind_some]
    refine dated_of_active ((status row).trans active) known ?_
    rw [Option.or_assoc, dates, date row active]

theorem recordFire_silent {row : Option (AlertRow Ts Id)}
    (silent : (AlertRow.recordFire row fire cooldownSeconds now).1.1 = false) :
    ∃ earlier, row = some earlier ∧ earlier.status = .active ∧
      (AlertRow.recordFire row fire cooldownSeconds now).2.updateTime =
        earlier.updateTime := by
  cases row with
  | none => cases silent
  | some earlier =>
    refine ⟨earlier, rfl, ?_, ?_⟩
    · by_contra inactive
      simp [AlertRow.recordFire, inactive] at silent
    · simp only [AlertRow.recordFire] at silent ⊢
      rw [silent]
      rfl

theorem recordFire_of_idle (idle : log.occurrence = none)
    (fire : AlertFire Ts Id) (cooldownSeconds now : ℤ) :
    (AlertRow.recordFire log.row fire cooldownSeconds now).1.1 = true := by
  cases found : log.row with
  | none => rfl
  | some row => simp [AlertRow.recordFire, AlertLog.inactive_of_idle idle found]

theorem recordFire_of_active (active : row.status = .active) :
    (AlertRow.recordFire (some row) fire cooldownSeconds now).1.1 = true ↔
      max 0 cooldownSeconds ≤ now - row.updateTime := by
  simp [AlertRow.recordFire, active]

theorem recordFire_notifying {row : Option (AlertRow Ts Id)}
    {fire : AlertFire Ts Id} {cooldownSeconds now : ℤ}
    (notifying : (AlertRow.recordFire row fire cooldownSeconds now).1.1 = true) :
    (AlertRow.recordFire row fire cooldownSeconds now).2.updateTime = now := by
  cases row with
  | none => rfl
  | some earlier =>
    simp only [AlertRow.recordFire] at notifying ⊢
    rw [notifying]
    rfl

theorem recordPending_inactive (idle : log.occurrence = none) :
    (AlertRow.recordPending log.row fire now).2.status ≠ .active := by
  cases found : log.row with
  | none => simp [AlertRow.recordPending]
  | some row =>
    simp [AlertRow.recordPending, AlertLog.inactive_of_idle idle found]

theorem Dated.notifiesDuly_iff {state : NotifiedLog Ts Id} (dated : Dated state)
    (command : RowCommand Ts Id) :
    state.NotifiesDuly command ↔ state.SparesCooldown command := by
  cases command with
  | recordFire fire cooldownSeconds now =>
    simp only [NotifiesDuly, SparesCooldown, AlertLog.notifies]
    cases going : state.log.occurrence with
    | none =>
      have first := recordFire_of_idle going fire cooldownSeconds now
      simp [dated.idle going, first]
    | some occurrence =>
      obtain ⟨row, found, active, _⟩ :=
        AlertLog.occurrence_eq_some_iff.mp going
      obtain ⟨known, date⟩ := dated.active row found active
      obtain ⟨last, notified⟩ := Option.isSome_iff_exists.mp known
      rw [found, recordFire_of_active active, notified]
      rw [notified] at date
      cases touched : state.touched with
      | none =>
        have stamped : last = row.updateTime := by simpa [touched] using date
        simp [stamped]
      | some time =>
        have stamped : time = row.updateTime := by simpa [touched] using date
        simp [stamped]
  | _ => exact Iff.rfl

section Commands

variable [DecidableEq Ts]

theorem occurrence_closeAcknowledged (log : AlertLog Ts Id) (tsUtc : Ts)
    (now : ℤ) :
    (log.closeAcknowledged tsUtc now).2.occurrence = none := by
  cases going : log.occurrence with
  | none => rw [AlertLog.closeAcknowledged_of_idle going, going]
  | some occurrence =>
    obtain ⟨row, found, active, _⟩ := AlertLog.occurrence_eq_some_iff.mp going
    simp only [AlertLog.closeAcknowledged, found, active, if_true]
    rfl

theorem Dated.step {state : NotifiedLog Ts Id} (dated : Dated state)
    (command : RowCommand Ts Id) :
    Dated (state.step command) := by
  cases command with
  | recordPending fire now =>
    cases going : state.log.occurrence with
    | none =>
      simp only [NotifiedLog.step, dated.idle going]
      apply dated_of_idle
      rw [AlertLog.occurrence_eq_none_iff]
      intro row found
      cases found
      exact recordPending_inactive going
    | some occurrence =>
      obtain ⟨row, found, active, _⟩ :=
        AlertLog.occurrence_eq_some_iff.mp going
      obtain ⟨known, date⟩ := dated.active row found active
      simp only [NotifiedLog.step, AlertLog.perform, found,
        AlertRow.recordPending, active, if_true]
      exact dated_of_active active known date
  | recordFire fire cooldownSeconds now =>
    have fired := AlertRow.recordFire_spec state.log.row fire cooldownSeconds now
    cases notifying : (AlertRow.recordFire state.log.row fire
        cooldownSeconds now).1.1 with
    | true =>
      simp only [NotifiedLog.step, AlertLog.notifies, notifying, if_true]
      refine dated_of_active fired.1 rfl ?_
      rw [recordFire_notifying notifying]
      rfl
    | false =>
      simp only [NotifiedLog.step, AlertLog.notifies, notifying,
        Bool.false_eq_true, if_false]
      obtain ⟨earlier, found, active, kept⟩ := recordFire_silent notifying
      obtain ⟨known, date⟩ := dated.active earlier found active
      exact dated_of_active fired.1 known (by rw [kept, date])
  | acknowledge tsUtc now =>
    apply dated.modifyRow (fun row => row.acknowledge tsUtc now)
      (fun row => row.touchedBy (.acknowledge tsUtc now))
    · intro row
      simp only [AlertRow.acknowledge]
      split <;> rfl
    · intro row active
      simp [AlertRow.acknowledge, AlertRow.touchedBy, active]
  | closeAcknowledged tsUtc now =>
    exact dated_of_idle (occurrence_closeAcknowledged state.log tsUtc now)
  | silence silencedUntil reason now =>
    apply dated.modifyRow (fun row => row.silence silencedUntil reason now)
      (fun row => row.touchedBy (.silence silencedUntil reason now))
    · intro row
      simp only [AlertRow.silence]
      split <;> rfl
    · intro row active
      simp [AlertRow.silence, AlertRow.touchedBy, active]
  | escalate rule evidence tsUtc now =>
    apply dated.modifyRow (fun row => row.escalate rule evidence tsUtc now)
      (fun row => row.touchedBy (.escalate rule evidence tsUtc now))
    · intro row
      exact AlertRow.escalate_status row rule evidence tsUtc now
    · intro row _
      simp only [AlertRow.escalate, AlertRow.touchedBy]
      split <;> rfl
  | resolve tsUtc eventId now =>
    exact dated_of_idle
      (AlertLog.occurrence_resolve state.log tsUtc eventId now)
  | deleteResolved cutoff =>
    cases going : state.log.occurrence with
    | none =>
      simp only [NotifiedLog.step, dated.idle going]
      apply dated_of_idle
      rw [AlertLog.occurrence_eq_none_iff]
      intro row found
      exact AlertLog.inactive_of_idle going
        (Option.eq_some_of_filter_eq_some found)
    | some occurrence =>
      obtain ⟨row, found, active, _⟩ :=
        AlertLog.occurrence_eq_some_iff.mp going
      obtain ⟨known, date⟩ := dated.active row found active
      simp only [NotifiedLog.step, AlertLog.perform,
        AlertLog.deleteResolved, found, Option.bind_some,
        AlertRow.touchedBy, Option.none_or]
      simp only [Option.filter_some, active]
      exact dated_of_active active known date

/-- Along every run of commands, the fires notify duly exactly when the writes
in between make no difference to their cooldowns. -/
theorem alerts_notify_duly_iff (commands : List (RowCommand Ts Id)) :
    Runs.EveryStep step NotifiesDuly {} commands ↔
      Runs.EveryStep step SparesCooldown {} commands :=
  Runs.everyStep_congr_of_invariant Dated
    (fun _ command dated => dated.step command)
    (fun _ command dated => dated.notifiesDuly_iff command) commands dated_init

end Commands

def crashed : AlertFire ℕ ℕ := ⟨0, 0, .error, "crashed"⟩

/-- A fire at the end of the cooldown does not notify when the alert has been
acknowledged in between. -/
theorem acknowledgement_delays_notification :
    ¬ Runs.EveryStep step NotifiesDuly {}
      [.recordFire crashed 300 0, .acknowledge 200 200,
        .recordFire crashed 300 300] := by
  decide

end NotifiedLog

end SmarTune
