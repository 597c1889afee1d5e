import SmarTune.Diagnostics.AlertCalls

/-!
# The history of alerts

However the calls interleave, an occurrence that ends should leave one episode
with what was last known of it, nothing else should leave any, and a sweep
should spare an alert that was renewed after it had been read.
-/

namespace SmarTune

variable {Ts Id Caller : Type*}

/-- The tables and the calls under way. -/
structure AlertSystem (Ts Id Caller : Type*) where
  db : AlertDb Ts Id
  calls : Caller → Option (AlertCall Ts Id)

/-- A caller starts an action or goes on to the next section of its call. -/
inductive AlertStep (Ts Id Caller : Type*)
  | start (caller : Caller) (action : AlertAction Ts Id)
  | advance (caller : Caller) (now : ℤ)

/-- What a section may do to a log, but for a fire. -/
inductive LogChange [DecidableEq Ts] (before : AlertLog Ts Id) :
    AlertLog Ts Id → Prop
  | same : LogChange before before
  | touch {row next : AlertRow Ts Id} (found : before.row = some row)
      (status : next.status = row.status)
      (start : next.occurrence.firstFiredAt = row.occurrence.firstFiredAt)
      (seen : next.lastSeenAt = row.lastSeenAt) :
      LogChange before { before with row := some next }
  | pend {next : AlertRow Ts Id} (idle : before.occurrence = none)
      (pending : next.status = .pending) :
      LogChange before { before with row := some next }
  | close {row last : AlertRow Ts Id} (found : before.row = some row)
      (active : row.status = .active)
      (known : last.occurrence =
        { row.occurrence with
          acknowledgedAt := last.occurrence.acknowledgedAt })
      (tsUtc : Ts)
      (eventId : Option Id)
      (now : ℤ) :
      LogChange before (before.close last tsUtc eventId now)

section Sections

variable [DecidableEq Ts] {epoch : Ts → Option ℚ} {key : AlertKey}
  {log : AlertLog Ts Id}

theorem logChange_modifyRow {change : AlertRow Ts Id → AlertRow Ts Id}
    (status : ∀ row, (change row).status = row.status)
    (start : ∀ row, (change row).occurrence.firstFiredAt =
      row.occurrence.firstFiredAt)
    (seen : ∀ row, (change row).lastSeenAt = row.lastSeenAt) :
    LogChange log (log.modifyRow change) := by
  cases found : log.row with
  | none =>
    have same : log.modifyRow change = log := by
      rw [AlertLog.modifyRow, found, Option.map_none, ← found]
    rw [same]
    exact .same
  | some row =>
    rw [AlertLog.modifyRow, found, Option.map_some]
    exact .touch found (status row) (start row) (seen row)

theorem logChange_resolve (tsUtc : Ts) (eventId : Option Id) (now : ℤ) :
    LogChange log (log.resolve tsUtc eventId now).2 := by
  cases going : log.occurrence with
  | none =>
    rw [AlertLog.resolve_of_idle going]
    exact .same
  | some occurrence =>
    obtain ⟨row, found, active, _⟩ := AlertLog.occurrence_eq_some_iff.mp going
    rw [AlertLog.resolve_of_active found active]
    exact .close found active rfl tsUtc eventId now

theorem logChange_closeAcknowledged (tsUtc : Ts) (now : ℤ) :
    LogChange log (log.closeAcknowledged tsUtc now).2 := by
  cases going : log.occurrence with
  | none =>
    rw [AlertLog.closeAcknowledged_of_idle going]
    exact .same
  | some occurrence =>
    obtain ⟨row, found, active, _⟩ := AlertLog.occurrence_eq_some_iff.mp going
    simp only [AlertLog.closeAcknowledged, found, active, if_true]
    refine .close found active ?_ tsUtc none now
    simp [AlertRow.acknowledge, active]

theorem logChange_recordPending (fire : AlertFire Ts Id) (now : ℤ) :
    LogChange log
      { log with row := some (AlertRow.recordPending log.row fire now).2 } := by
  cases found : log.row with
  | none =>
    refine .pend ?_ rfl
    simp [AlertLog.occurrence, found]
  | some row =>
    simp only [AlertRow.recordPending]
    by_cases active : row.status = .active
    · rw [if_pos active, ← found]
      exact .same
    · rw [if_neg active]
      refine .pend ?_ rfl
      simp [AlertLog.occurrence, found, active]

theorem logChange_put {db : AlertDb Ts Id} {other : AlertKey}
    (change : LogChange (db.log other) log) :
    LogChange (db.log key) ((db.put other log).log key) := by
  rw [AlertDb.log_put]
  split
  · rename_i own
    subst own
    exact change
  · exact .same

theorem logChange_acknowledge (tsUtc : Ts) (now : ℤ) :
    LogChange log (log.modifyRow fun row => row.acknowledge tsUtc now) := by
  refine logChange_modifyRow ?_ ?_ ?_ <;> intro row <;>
    simp only [AlertRow.acknowledge] <;> split <;> rfl

theorem logChange_silence (silencedUntil : Ts) (reason : Option String)
    (now : ℤ) :
    LogChange log
      (log.modifyRow fun row => row.silence silencedUntil reason now) := by
  refine logChange_modifyRow ?_ ?_ ?_ <;> intro row <;>
    simp only [AlertRow.silence] <;> split <;> rfl

theorem logChange_advance (db : AlertDb Ts Id) (now : ℤ)
    (call : AlertCall Ts Id)
    (unfired : ∀ event policy, call = .fire event policy →
      dedupKeyFor event ≠ key) :
    LogChange (db.log key) ((advance epoch db now call).1.log key) := by
  cases call with
  | evaluate event =>
    simp only [advance, log_recover]
    split
    · exact logChange_resolve _ _ _
    · exact .same
  | pend event policy eventTime =>
    exact logChange_put (logChange_recordPending _ _)
  | fire event policy =>
    have foreign := unfired event policy rfl
    simp only [advance, AlertDb.log_putRow, if_neg (Ne.symm foreign)]
    exact .same
  | judge event fireCount rule => exact .same
  | escalate event evidence rule =>
    exact logChange_put (logChange_modifyRow (by simp) (by simp) (by simp))
  | acknowledge other nowIso => exact .same
  | settle other nowIso =>
    simp only [advance]
    split
    · exact logChange_put (logChange_closeAcknowledged _ _)
    · exact logChange_put (logChange_acknowledge _ _)
  | silence other silencedUntil reason =>
    exact logChange_put (logChange_silence _ _ _)
  | sweep nowEpoch nowIso => exact .same
  | expire nowEpoch nowIso due =>
    cases due with
    | nil => exact .same
    | cons other due => exact logChange_put (logChange_resolve _ _ _)

end Sections

/-! ## What a change means for the archive -/

section Archive

variable [DecidableEq Ts] {before after : AlertLog Ts Id}

/-- The start of the occurrence that is going on has not been archived. -/
def AlertLog.Fresh (log : AlertLog Ts Id) : Prop :=
  ∀ row, log.row = some row → row.status = .active →
    ¬ log.Archived row.occurrence.firstFiredAt

/-- An occurrence that ends is archived with what was last known of it, and
nothing else is archived. -/
def Archives (before after : AlertLog Ts Id) : Prop :=
  match before.occurrence, after.occurrence with
  | some going, none =>
    ∃ episode : AlertEpisode Ts Id,
      after.episodes = before.episodes ++ [episode] ∧ episode.occurrence =
          { going with acknowledgedAt := episode.occurrence.acknowledgedAt }
  | _, _ => after.episodes = before.episodes

omit [DecidableEq Ts] in
theorem Archives.length_episodes (archives : Archives before after)
    (going : before.occurrence ≠ none) (ended : after.occurrence = none) :
    after.episodes.length = before.episodes.length + 1 := by
  obtain ⟨occurrence, is⟩ := Option.ne_none_iff_exists'.mp going
  rw [Archives, is, ended] at archives
  obtain ⟨episode, added, _⟩ := archives
  simp [added]

omit [DecidableEq Ts] in
theorem archives_of_kept (episodes : after.episodes = before.episodes)
    (goes : before.occurrence ≠ none → after.occurrence ≠ none) :
    Archives before after := by
  unfold Archives
  cases going : before.occurrence with
  | none => exact episodes
  | some occurrence =>
    have going' := goes (by simp [going])
    cases still : after.occurrence with
    | none => exact absurd still going'
    | some next => exact episodes

theorem LogChange.archives (change : LogChange before after)
    (fresh : before.Fresh) :
    Archives before after := by
  cases change with
  | same => exact archives_of_kept rfl id
  | touch found status start seen =>
    refine archives_of_kept rfl fun going => ?_
    obtain ⟨occurrence, is⟩ := Option.ne_none_iff_exists'.mp going
    obtain ⟨row, same, active, _⟩ := AlertLog.occurrence_eq_some_iff.mp is
    cases found.symm.trans same
    rw [AlertLog.occurrence_of_active (status.trans active)]
    simp
  | pend idle pending =>
    exact archives_of_kept rfl fun going => absurd idle going
  | @close row last found active known tsUtc eventId now =>
    have going : before.occurrence = some row.occurrence :=
      AlertLog.occurrence_eq_some_iff.mpr ⟨row, found, active, rfl⟩
    have ended : (before.close last tsUtc eventId now).occurrence = none := rfl
    have start : last.occurrence.firstFiredAt =
        row.occurrence.firstFiredAt := by
      rw [known]
    rw [Archives, going, ended, AlertLog.episodes_close, start,
      if_neg (fresh row found active)]
    exact ⟨_, rfl, known⟩

/-- A change keeps the start of an occurrence out of the archive. -/
theorem LogChange.fresh (change : LogChange before after)
    (fresh : before.Fresh) :
    after.Fresh := by
  cases change with
  | same => exact fresh
  | touch found status start seen =>
    intro row same active
    cases same
    rw [start]
    exact fresh _ found (status.symm.trans active)
  | pend idle pending =>
    intro row same active
    cases same
    rw [pending] at active
    cases active
  | close found active known tsUtc eventId now =>
    intro row same active
    cases same
    cases active

theorem LogChange.seen (change : LogChange before after) {row : AlertRow Ts Id}
    (found : after.row = some row) (active : row.status = .active) :
    ∃ earlier, before.row = some earlier ∧ earlier.status = .active ∧
      earlier.lastSeenAt = row.lastSeenAt := by
  cases change with
  | same => exact ⟨row, found, active, rfl⟩
  | touch earlier status start seen =>
    cases found
    exact ⟨_, earlier, status.symm.trans active, seen.symm⟩
  | pend idle pending =>
    cases found
    rw [pending] at active
    cases active
  | close earlier was known tsUtc eventId now =>
    cases found
    cases active

end Archive

section Advance

variable [DecidableEq Ts] {epoch : Ts → Option ℚ} {db : AlertDb Ts Id}
  {now : ℤ} {call : AlertCall Ts Id} {key : AlertKey}

/-- A section changes a log in one of the ways above, or it is a fire that
leaves an active row. -/
theorem advance_cases (db : AlertDb Ts Id) (now : ℤ) (call : AlertCall Ts Id)
    (key : AlertKey) :
    LogChange (db.log key) ((advance epoch db now call).1.log key) ∨
      ∃ event policy fired,
        call = .fire event policy ∧ dedupKeyFor event = key ∧
          fired = (AlertRow.recordFire (db.log key).row (fireOf event policy)
            cooldownSeconds now).2 ∧
          (advance epoch db now call).1.log key =
            { db.log key with row := some fired } := by
  by_cases fires : ∃ event policy, call = .fire event policy ∧
      dedupKeyFor event = key
  · obtain ⟨event, policy, rfl, rfl⟩ := fires
    right
    refine ⟨event, policy, _, rfl, rfl, rfl, ?_⟩
    simp only [advance, AlertDb.log_putRow, if_true]
  · left
    apply logChange_advance
    intro event policy is own
    exact fires ⟨event, policy, is, own⟩

/-- A section archives what it ends. -/
theorem archives_advance (fresh : (db.log key).Fresh) :
    Archives (db.log key) ((advance epoch db now call).1.log key) := by
  rcases advance_cases db now call key with
    change | ⟨event, policy, fired, _, _, spec, after⟩
  · exact change.archives fresh
  · rw [after]
    refine archives_of_kept rfl fun _ => ?_
    rw [spec, AlertLog.occurrence_of_active
      (AlertRow.recordFire_spec _ _ _ _).1]
    simp

theorem fresh_advance (fresh : (db.log key).Fresh)
    (starts : ∀ event policy, call = .fire event policy →
      dedupKeyFor event = key → (db.log key).occurrence = none →
        ¬ (db.log key).Archived event.tsUtc) :
    ((advance epoch db now call).1.log key).Fresh := by
  rcases advance_cases db now call key with
    change | ⟨event, policy, fired, is, own, spec, after⟩
  · exact change.fresh fresh
  · rw [after]
    intro row found _
    cases found
    rw [spec]
    rcases AlertRow.recordFire_start (db.log key).row (fireOf event policy)
        cooldownSeconds now with
      ⟨earlier, found, active, start⟩ | ⟨idle, start⟩
    · rw [start]
      exact fresh earlier found active
    · rw [start]
      exact starts event policy is own
        (AlertLog.occurrence_eq_none_iff.mpr idle)

theorem seen_advance {row : AlertRow Ts Id}
    (found : ((advance epoch db now call).1.log key).row = some row)
    (active : row.status = .active) :
    (∃ earlier, (db.log key).row = some earlier ∧ earlier.status = .active ∧
        earlier.lastSeenAt = row.lastSeenAt) ∨
      ∃ event policy, call = .fire event policy ∧ dedupKeyFor event = key ∧
        row.lastSeenAt = event.tsUtc := by
  rcases advance_cases db now call key with
    change | ⟨event, policy, fired, is, own, spec, after⟩
  · exact .inl (change.seen found active)
  · right
    rw [after] at found
    cases found
    refine ⟨event, policy, is, own, ?_⟩
    rw [spec]
    exact (AlertRow.recordFire_spec _ _ _ _).2

theorem advance_expire {nowEpoch : ℚ} {nowIso : Ts} {due : List AlertKey}
    (rest : (advance epoch db now call).2 = some (.expire nowEpoch nowIso due)) :
    call = .sweep nowEpoch nowIso ∧ due = expiredKeys epoch db nowEpoch ∨
      ∃ key, call = .expire nowEpoch nowIso (key :: due) := by
  cases call with
  | sweep sweepEpoch sweepIso =>
    cases rest
    exact .inl ⟨rfl, rfl⟩
  | expire sweepEpoch sweepIso keys =>
    cases keys with
    | nil => cases rest
    | cons key keys =>
      cases rest
      exact .inr ⟨key, rfl⟩
  | evaluate event =>
    simp only [advance] at rest
    split at rest <;> cases rest
  | pend event policy eventTime =>
    simp only [advance] at rest
    split at rest <;> cases rest
  | fire event policy =>
    simp only [advance, Option.map_eq_some_iff] at rest
    obtain ⟨_, _, impossible⟩ := rest
    cases impossible
  | judge event fireCount rule =>
    simp only [advance, Option.bind_eq_some_iff] at rest
    obtain ⟨_, _, judged⟩ := rest
    split at judged <;> cases judged
  | escalate event evidence rule => cases rest
  | acknowledge other sweepIso =>
    simp only [advance] at rest
    split at rest <;> cases rest
  | settle other sweepIso => cases rest
  | silence other silencedUntil reason => cases rest

end Advance

/-! ## Interleaved calls -/

section System

variable [DecidableEq Ts] [DecidableEq Caller] (epoch : Ts → Option ℚ)

namespace AlertSystem

/-- No alert and no call yet. -/
def init : AlertSystem Ts Id Caller := ⟨.empty, fun _ => none⟩

def step (system : AlertSystem Ts Id Caller) :
    AlertStep Ts Id Caller → AlertSystem Ts Id Caller
  | .start caller action =>
    match system.calls caller with
    | some _ => system
    | none =>
      { system with
        calls := Function.update system.calls caller (some action.call) }
  | .advance caller now =>
    match system.calls caller with
    | none => system
    | some call =>
      let advanced := advance epoch system.db now call
      ⟨advanced.1, Function.update system.calls caller advanced.2⟩

section Step

variable {system : AlertSystem Ts Id Caller} {caller : Caller}

theorem step_start_of_busy {call : AlertCall Ts Id}
    (busy : system.calls caller = some call) (action : AlertAction Ts Id) :
    system.step epoch (.start caller action) = system := by
  simp [step, busy]

theorem step_start_of_free (free : system.calls caller = none)
    (action : AlertAction Ts Id) :
    system.step epoch (.start caller action) =
      { system with
        calls := Function.update system.calls caller (some action.call) } := by
  simp [step, free]

theorem step_advance_of_free (free : system.calls caller = none) (now : ℤ) :
    system.step epoch (.advance caller now) = system := by
  simp [step, free]

theorem step_advance_of_busy {call : AlertCall Ts Id}
    (busy : system.calls caller = some call) (now : ℤ) :
    system.step epoch (.advance caller now) =
      ⟨(advance epoch system.db now call).1, Function.update system.calls caller
          (advance epoch system.db now call).2⟩ := by
  simp [step, busy]

end Step

/-- The step resolves no alert of a sweep that has been renewed since. -/
def SparesRenewed (system : AlertSystem Ts Id Caller) :
    AlertStep Ts Id Caller → Prop
  | .start _ _ => True
  | .advance caller now =>
    ∀ nowEpoch nowIso key due,
      system.calls caller = some (.expire nowEpoch nowIso (key :: due)) →
        ∀ row, (system.db.log key).row = some row → row.status = .active →
          leaseExpired epoch nowEpoch key row = false →
            ((system.step epoch (.advance caller now)).db.log
              key).occurrence ≠ none

/-- Every alert that ends is archived once, with what was last known of it, and
a sweep spares the renewed ones. -/
def KeepsHistory (system : AlertSystem Ts Id Caller)
    (label : AlertStep Ts Id Caller) : Prop :=
  (∀ key, Archives (system.db.log key) ((system.step epoch label).db.log key)) ∧
    system.SparesRenewed epoch label

/-- The condition on a fire: an occurrence starts at a time at which none has
been archived, and no sweep that would still find the lease valid is about to
resolve the alert. -/
def FiresApart (system : AlertSystem Ts Id Caller) :
    AlertStep Ts Id Caller → Prop
  | .start _ _ => True
  | .advance caller _ =>
    ∀ event policy, system.calls caller = some (.fire event policy) →
      ((system.db.log (dedupKeyFor event)).occurrence = none →
          ¬ (system.db.log (dedupKeyFor event)).Archived event.tsUtc) ∧
        ∀ other nowEpoch nowIso due,
          system.calls other = some (.expire nowEpoch nowIso due) →
            dedupKeyFor event ∈ due →
              leaseExpiredSince epoch nowEpoch (dedupKeyFor event)
                event.tsUtc = true

/-- No occurrence that is going on has an archived start, and the lease of
every active alert that a sweep is about to resolve has run out. -/
structure Orderly (system : AlertSystem Ts Id Caller) : Prop where
  fresh : ∀ key, (system.db.log key).Fresh
  stale : ∀ caller nowEpoch nowIso due,
    system.calls caller = some (.expire nowEpoch nowIso due) →
      ∀ key ∈ due, ∀ row, (system.db.log key).row = some row →
        row.status = .active → leaseExpired epoch nowEpoch key row = true

variable {epoch} {system : AlertSystem Ts Id Caller}
  {label : AlertStep Ts Id Caller}

omit [DecidableEq Caller] in
/-- The rows that a sweep is about to resolve stay stale during a section. -/
theorem Orderly.stale_advance (orderly : system.Orderly epoch) {caller : Caller}
    {now : ℤ} {call : AlertCall Ts Id} (calls : system.calls caller = some call)
    (apart : system.FiresApart epoch (.advance caller now)) {other : Caller}
    {nowEpoch : ℚ} {nowIso : Ts} {due : List AlertKey}
    (sweeps : system.calls other = some (.expire nowEpoch nowIso due))
    {key : AlertKey} (member : key ∈ due) {row : AlertRow Ts Id}
    (found : ((advance epoch system.db now call).1.log key).row = some row)
    (active : row.status = .active) :
    leaseExpired epoch nowEpoch key row = true := by
  rcases seen_advance found active with
    ⟨earlier, was, wasActive, seen⟩ | ⟨event, policy, rfl, rfl, seen⟩
  · rw [leaseExpired, ← seen]
    exact orderly.stale other nowEpoch nowIso due sweeps key member earlier was
      wasActive
  · rw [leaseExpired, seen]
    exact (apart event policy calls).2 other nowEpoch nowIso due sweeps member

theorem Orderly.step (orderly : system.Orderly epoch)
    (apart : system.FiresApart epoch label) :
    (system.step epoch label).Orderly epoch := by
  cases label with
  | start caller action =>
    cases calls : system.calls caller with
    | some call => rwa [step_start_of_busy epoch calls]
    | none =>
      rw [step_start_of_free epoch calls]
      refine ⟨orderly.fresh, ?_⟩
      intro other nowEpoch nowIso due sweeps
      simp only [Function.update_apply] at sweeps
      split at sweeps
      · cases action <;> cases sweeps
      · exact orderly.stale other nowEpoch nowIso due sweeps
  | advance caller now =>
    cases calls : system.calls caller with
    | none => rwa [step_advance_of_free epoch calls]
    | some call =>
      rw [step_advance_of_busy epoch calls]
      constructor
      · intro key
        apply fresh_advance (orderly.fresh key)
        rintro event policy rfl rfl idle
        exact (apart event policy calls).1 idle
      · intro other nowEpoch nowIso due sweeps key member row found active
        simp only [Function.update_apply] at sweeps
        split at sweeps
        · rcases advance_expire sweeps with ⟨rfl, rfl⟩ | ⟨first, rfl⟩
          · obtain ⟨listed, was, _, expired⟩ := mem_expiredKeys.mp member
            cases was.symm.trans found
            exact expired
          · exact orderly.stale_advance calls apart calls
              (List.mem_cons_of_mem _ member) found active
        · exact orderly.stale_advance calls apart sweeps member found active

theorem Orderly.keepsHistory (orderly : system.Orderly epoch) :
    system.KeepsHistory epoch label := by
  cases label with
  | start caller action =>
    refine ⟨fun key => ?_, trivial⟩
    have same : (system.step epoch (.start caller action)).db = system.db := by
      cases calls : system.calls caller with
      | none => rw [step_start_of_free epoch calls]
      | some call => rw [step_start_of_busy epoch calls]
    rw [same]
    exact archives_of_kept rfl id
  | advance caller now =>
    constructor
    · intro key
      cases calls : system.calls caller with
      | none =>
        rw [step_advance_of_free epoch calls]
        exact archives_of_kept rfl id
      | some call =>
        rw [step_advance_of_busy epoch calls]
        exact archives_advance (orderly.fresh key)
    · intro nowEpoch nowIso key due calls row found active valid
      have expired := orderly.stale caller nowEpoch nowIso (key :: due) calls
        key List.mem_cons_self row found active
      rw [expired] at valid
      cases valid

/-- However the calls interleave, the history is kept as long as the fires are
apart. -/
theorem alert_history_kept (epoch : Ts → Option ℚ)
    (labels : List (AlertStep Ts Id Caller))
    (apart : Runs.EveryStep (AlertSystem.step epoch)
      (fun system label => system.FiresApart epoch label) init labels) :
    Runs.EveryStep (AlertSystem.step epoch)
      (fun system label => system.KeepsHistory epoch label) init labels := by
  refine Runs.everyStep_of_guarded (fun system => system.Orderly epoch)
    ?_ ?_ ?_ apart
  · exact fun system label orderly apart => orderly.step apart
  · exact fun system label orderly _ => orderly.keepsHistory
  · exact ⟨fun key row found => (Option.some_ne_none _ found.symm).elim,
      fun caller nowEpoch nowIso due calls =>
        (Option.some_ne_none _ calls.symm).elim⟩

def callSteps (caller : Caller) (action : AlertAction ℕ ℕ)
    (sections : ℕ) : List (AlertStep ℕ ℕ Caller) :=
  .start caller action :: List.replicate sections (.advance caller action.now)

/-- A fault, evaluated in three sections. -/
def faultSteps (caller : Caller) (eventType : EventType)
    (time eventId : ℕ) : List (AlertStep ℕ ℕ Caller) :=
  callSteps caller (.evaluate (journalFault eventType time eventId) time) 3

theorem alert_history_kept_witness :
    Runs.EveryStep (AlertSystem.step secondsEpoch)
      (fun system label => system.KeepsHistory secondsEpoch label)
      init (faultSteps () .deviceGpuHang 5 1) := by
  apply alert_history_kept
  refine ⟨trivial, ?_, ?_, ?_, trivial⟩
  · rintro event policy calls
    cases calls
  · rintro event policy calls
    cases calls
  · have fires : (Runs.run (AlertSystem.step secondsEpoch) init
        ((faultSteps () .deviceGpuHang 5 1).take 3)).calls () =
          some (.fire (journalFault .deviceGpuHang 5 1)
            { severity := .critical, closeOnAck := true }) := by
      decide +kernel
    intro event policy calls
    cases fires.symm.trans calls
    refine ⟨fun _ => by decide, ?_⟩
    intro other nowEpoch nowIso due sweeps
    cases fires.symm.trans sweeps

/-- Two occurrences that start at one time leave one episode, and a sweep
resolves an alert that was renewed after the sweep had read it. -/
theorem history_loses_episode_and_renewed_alert :
    ¬ Runs.EveryStep (AlertSystem.step secondsEpoch)
        (fun system label => system.KeepsHistory secondsEpoch label) init
        (faultSteps () .deviceGpuHang 5 1 ++
          callSteps () (.acknowledge ⟨.deviceGpuHang, .named "journal"⟩ 5 5) 2 ++
          faultSteps () .deviceGpuHang 5 2 ++
          callSteps () (.acknowledge ⟨.deviceGpuHang, .named "journal"⟩ 5 5) 1 ++
          [.advance () 5]) ∧
      ¬ Runs.EveryStep (AlertSystem.step secondsEpoch)
        (fun system label => system.KeepsHistory secondsEpoch label) init
        (faultSteps true .platformSystemdRestartLoop 0 1 ++ [.advance true 0] ++
          callSteps false (.resolveExpired 200 200 200) 1 ++
          faultSteps true .platformSystemdRestartLoop 190 2 ++
          [.advance false 200]) := by
  constructor
  · intro kept
    have archives := ((Runs.everyStep_append _ _ _).mp kept).2.1.1
      ⟨.deviceGpuHang, .named "journal"⟩
    have grown := archives.length_episodes (by decide +kernel)
      (by decide +kernel)
    revert grown
    decide +kernel
  · intro kept
    have spares := ((Runs.everyStep_append _ _ _).mp kept).2.1.2
    have present : ((Runs.run (AlertSystem.step secondsEpoch) init
        (faultSteps true .platformSystemdRestartLoop 0 1 ++ [.advance true 0] ++
          callSteps false (.resolveExpired 200 200 200) 1 ++
          faultSteps true .platformSystemdRestartLoop 190 2)).db.log
        ⟨.platformSystemdRestartLoop, .named "journal"⟩).row.isSome = true := by
      decide +kernel
    have resolved := spares 200 200
      ⟨.platformSystemdRestartLoop, .named "journal"⟩ []
      (by decide +kernel) (Option.get _ present) (Option.some_get present).symm
      (by decide +kernel +revert) (by decide +kernel +revert)
    revert resolved
    decide +kernel

end AlertSystem

end System

end SmarTune
