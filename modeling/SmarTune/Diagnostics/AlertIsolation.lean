import SmarTune.Diagnostics.AlertActions
import SmarTune.Library.Runs

/-!
# One occurrence after another

The row of a key is used again when the alert fires again.  Two histories of a
key that both end resolved are continued by the same actions; the occurrences
that follow and the episodes that they leave should not depend on the history.
-/

namespace SmarTune

variable {Ts Id : Type*}

/-! ## Two histories -/

section Histories

variable [DecidableEq Ts] (epoch : Ts → Option ℚ) (key : AlertKey)

/-- The tables after a history. -/
def alertsAfter (history : List (AlertAction Ts Id)) : AlertDb Ts Id :=
  Runs.run (act epoch) .empty history

/-- The alert has fired and is over. -/
def AlertLog.IsResolved (log : AlertLog Ts Id) : Prop :=
  log.row.map (·.status) = some .resolved

/-- The same action after both histories. -/
def actBoth (tables : AlertDb Ts Id × AlertDb Ts Id)
    (action : AlertAction Ts Id) : AlertDb Ts Id × AlertDb Ts Id :=
  (act epoch tables.1 action, act epoch tables.2 action)

/-- The occurrence that is going on and the episodes that were added to the
histories are the same. -/
def SameOutcome (histories tables : AlertDb Ts Id × AlertDb Ts Id) : Prop :=
  (tables.1.log key).occurrence = (tables.2.log key).occurrence ∧ ∃ added,
      (tables.1.log key).episodes = (histories.1.log key).episodes ++ added ∧
        (tables.2.log key).episodes = (histories.2.log key).episodes ++ added

/-- The condition on an action: an occurrence starts over the same escalation
columns, and its start has been archived in both tables or in none when it
ends. -/
def Isolates (tables : AlertDb Ts Id × AlertDb Ts Id)
    (action : AlertAction Ts Id) : Prop :=
  (Raises epoch key action → (tables.1.log key).occurrence = none →
      (tables.1.log key).leftover = (tables.2.log key).leftover) ∧
    ∀ row, (tables.1.log key).row = some row → row.status = .active →
      Ends epoch key row action →
        ((tables.1.log key).Archived row.occurrence.firstFiredAt ↔
          (tables.2.log key).Archived row.occurrence.firstFiredAt)

/-- Both alerts are active with the same row, or both are rested. -/
def Level (first second : AlertLog Ts Id) : Prop :=
  (∃ row, first.Going row ∧ second.Going row) ∨ (first.Rested ∧ second.Rested)

variable {epoch key} {histories tables : AlertDb Ts Id × AlertDb Ts Id}
  {action : AlertAction Ts Id}

theorem level_step (level : Level (tables.1.log key) (tables.2.log key))
    (isolates : Isolates epoch key tables action) :
    Level ((actBoth epoch tables action).1.log key)
      ((actBoth epoch tables action).2.log key) := by
  simp only [actBoth, log_act]
  rcases level with ⟨row, first, second⟩ | ⟨first, second⟩
  · by_cases ended : Ends epoch key row action
    · obtain ⟨last, tsUtc, eventId, now, _, free, closes⟩ :=
        actOn_of_ends first.2.1 ended
      have unheld := free.trans first.2.2
      right
      rw [closes _ first.1, closes _ second.1]
      exact ⟨AlertLog.rested_close unheld tsUtc eventId now,
        AlertLog.rested_close unheld tsUtc eventId now⟩
    · obtain ⟨next, went, goes⟩ := actOn_of_goes first.2.1 ended
      have going := going_of_goes first.2.1 first.2.2 went
      left
      rw [goes _ first.1, goes _ second.1]
      exact ⟨next, ⟨rfl, going⟩, ⟨rfl, going⟩⟩
  · by_cases raised : Raises epoch key action
    · obtain ⟨event, policy, now, _, starts⟩ := actOn_of_raises raised
      left
      rw [starts _ first, starts _ second, isolates.1 raised first.occurrence]
      exact ⟨_, ⟨rfl, rfl, rfl⟩, ⟨rfl, rfl, rfl⟩⟩
    · right
      rw [actOn_of_rested first raised, actOn_of_rested second raised]
      exact ⟨first, second⟩

theorem grows_alike_iff {α : Type*} {first second bases bases' added : List α}
    {last : α} (firstGrown : first = bases ++ added)
    (secondGrown : second = bases' ++ added) (firstKept secondKept : Prop)
    [Decidable firstKept] [Decidable secondKept] :
    (∃ added, (if firstKept then first else first ++ [last]) = bases ++ added ∧
          (if secondKept then second else second ++ [last]) = bases' ++ added) ↔
      (firstKept ↔ secondKept) := by
  subst firstGrown secondGrown
  constructor
  · rintro ⟨more, firstSame, secondSame⟩
    have firstLength := congrArg List.length firstSame
    have secondLength := congrArg List.length secondSame
    by_cases firstHeld : firstKept <;> by_cases secondHeld : secondKept <;>
      simp [firstHeld, secondHeld] at firstLength secondLength ⊢ <;> omega
  · intro alike
    by_cases held : firstKept
    · exact ⟨added, by simp [held], by simp [alike.mp held]⟩
    · have unheld : ¬ secondKept := fun kept => held (alike.mpr kept)
      exact ⟨added ++ [last], by simp [held], by simp [unheld]⟩

theorem sameOutcome_step_iff
    (level : Level (tables.1.log key) (tables.2.log key))
    (same : SameOutcome key histories tables) :
    SameOutcome key histories (actBoth epoch tables action) ↔
      Isolates epoch key tables action := by
  obtain ⟨sameNow, added, firstGrown, secondGrown⟩ := same
  simp only [SameOutcome, actBoth, log_act]
  rcases level with ⟨row, first, second⟩ | ⟨first, second⟩
  · have going : (tables.1.log key).occurrence ≠ none := by
      rw [AlertLog.occurrence_eq_some_iff.mpr ⟨row, first.1, first.2.1, rfl⟩]
      simp
    by_cases ended : Ends epoch key row action
    · obtain ⟨last, tsUtc, eventId, now, known, _, closes⟩ :=
        actOn_of_ends first.2.1 ended
      have start : last.occurrence.firstFiredAt =
          row.occurrence.firstFiredAt := by
        rw [known]
      rw [closes _ first.1, closes _ second.1, AlertLog.episodes_close,
        AlertLog.episodes_close, grows_alike_iff firstGrown secondGrown, start]
      constructor
      · rintro ⟨_, alike⟩
        refine ⟨fun _ idle => absurd idle going, ?_⟩
        intro other found _ _
        cases first.1.symm.trans found
        exact alike
      · intro isolates
        exact ⟨rfl, isolates.2 row first.1 first.2.1 ended⟩
    · obtain ⟨next, _, goes⟩ := actOn_of_goes first.2.1 ended
      rw [goes _ first.1, goes _ second.1]
      refine iff_of_true ⟨rfl, added, firstGrown, secondGrown⟩ ⟨?_, ?_⟩
      · exact fun _ idle => absurd idle going
      · intro other found _ otherEnded
        cases first.1.symm.trans found
        exact absurd otherEnded ended
  · have rest : ∀ other, (tables.1.log key).row = some other →
        other.status = .active → Ends epoch key other action →
          ((tables.1.log key).Archived other.occurrence.firstFiredAt ↔
            (tables.2.log key).Archived other.occurrence.firstFiredAt) :=
      fun other found active _ => absurd active (first other found).1
    by_cases raised : Raises epoch key action
    · obtain ⟨event, policy, now, _, starts⟩ := actOn_of_raises raised
      rw [starts _ first, starts _ second]
      constructor
      · rintro ⟨alike, _⟩
        refine ⟨fun _ _ => ?_, rest⟩
        have occurrences := Option.some.inj alike
        exact congrArg Occurrence.escalation occurrences
      · intro isolates
        rw [isolates.1 raised first.occurrence]
        exact ⟨rfl, added, firstGrown, secondGrown⟩
    · rw [actOn_of_rested first raised, actOn_of_rested second raised]
      exact iff_of_true ⟨sameNow, added, firstGrown, secondGrown⟩
        ⟨fun raises => absurd raises raised, rest⟩

theorem rested_of_isResolved {history : List (AlertAction Ts Id)}
    (resolved : ((alertsAfter epoch history).log key).IsResolved) :
    ((alertsAfter epoch history).log key).Rested := by
  have settled : (∃ row, ((alertsAfter epoch history).log key).Going row) ∨
      ((alertsAfter epoch history).log key).Rested := by
    have unguarded : Runs.EveryStep (act epoch) (fun _ _ => True)
        (.empty : AlertDb Ts Id) history :=
      Runs.everyStep_of_forall (fun _ _ => trivial) _ _
    refine Runs.invariant_run (fun db : AlertDb Ts Id =>
        (∃ row, (db.log key).Going row) ∨ (db.log key).Rested)
      ?_ ?_ unguarded
    · intro db action settled _
      simp only [log_act]
      exact actOn_settled settled action
    · right
      intro row found
      cases found
  rcases settled with ⟨row, found, active, _⟩ | rested
  · rw [AlertLog.IsResolved, found, Option.map_some, active] at resolved
    cases resolved
  · exact rested

/-- After two histories of an alert that end resolved, the same actions have
the same outcome exactly when every step isolates the occurrences. -/
theorem occurrences_isolated_iff (epoch : Ts → Option ℚ) (key : AlertKey)
    (first second continuation : List (AlertAction Ts Id))
    (firstResolved : ((alertsAfter epoch first).log key).IsResolved)
    (secondResolved : ((alertsAfter epoch second).log key).IsResolved) :
    Runs.EveryPrefix (actBoth epoch)
        (SameOutcome key (alertsAfter epoch first, alertsAfter epoch second))
        (alertsAfter epoch first, alertsAfter epoch second) continuation ↔
      Runs.EveryStep (actBoth epoch) (Isolates epoch key)
        (alertsAfter epoch first, alertsAfter epoch second) continuation := by
  apply Runs.everyPrefix_iff_everyStep fun tables =>
    Level (tables.1.log key) (tables.2.log key) ∧
      SameOutcome key (alertsAfter epoch first, alertsAfter epoch second) tables
  · exact fun tables invariant => invariant.2
  · exact fun tables action invariant =>
      sameOutcome_step_iff invariant.1 invariant.2
  · exact fun tables action invariant isolates =>
      ⟨level_step invariant.1 isolates,
        (sameOutcome_step_iff invariant.1 invariant.2).mpr isolates⟩
  · have firstRested := rested_of_isResolved firstResolved
    have secondRested := rested_of_isResolved secondResolved
    refine ⟨.inr ⟨firstRested, secondRested⟩, ?_, [], ?_, ?_⟩
    · exact firstRested.occurrence.trans secondRested.occurrence.symm
    · exact (List.append_nil _).symm
    · exact (List.append_nil _).symm

def restartLoop (time : ℕ) : OperationalEvent ℕ ℕ :=
  journalFault .platformSystemdRestartLoop time time

/-- The events one after another, then a sweep after their lease. -/
def expiredAlert (times : List ℕ) : List (AlertAction ℕ ℕ) :=
  (times.map fun time => .evaluate (restartLoop time) time) ++
    [.resolveExpired 200 200 200]

theorem occurrences_isolated_iff_witness :
    Runs.EveryPrefix (actBoth secondsEpoch)
      (SameOutcome (dedupKeyFor (restartLoop 300))
        (alertsAfter secondsEpoch (expiredAlert [0]),
          alertsAfter secondsEpoch (expiredAlert [1, 2])))
      (alertsAfter secondsEpoch (expiredAlert [0]),
        alertsAfter secondsEpoch (expiredAlert [1, 2]))
      [.evaluate (restartLoop 300) 300] := by
  have firstResolved : ((alertsAfter secondsEpoch (expiredAlert [0])).log
      (dedupKeyFor (restartLoop 300))).IsResolved := by
    unfold AlertLog.IsResolved
    decide +kernel
  have secondResolved : ((alertsAfter secondsEpoch (expiredAlert [1, 2])).log
      (dedupKeyFor (restartLoop 300))).IsResolved := by
    unfold AlertLog.IsResolved
    decide +kernel
  refine (occurrences_isolated_iff secondsEpoch
    (dedupKeyFor (restartLoop 300)) _ _ _ firstResolved secondResolved).mpr
      ⟨⟨fun _ _ => ?_, ?_⟩, trivial⟩
  · decide +kernel
  · intro row found active
    exact absurd active (rested_of_isResolved firstResolved row found).1

/-- After an escalated occurrence the next one starts as escalated, which it
does not after a plain one. -/
theorem escalation_leaks :
    ((alertsAfter secondsEpoch (expiredAlert [0, 1, 2])).log
        (dedupKeyFor (restartLoop 300))).IsResolved ∧
      ((alertsAfter secondsEpoch (expiredAlert [0])).log
        (dedupKeyFor (restartLoop 300))).IsResolved ∧
      ¬ Runs.EveryPrefix (actBoth secondsEpoch)
        (SameOutcome (dedupKeyFor (restartLoop 300))
          (alertsAfter secondsEpoch (expiredAlert [0, 1, 2]),
            alertsAfter secondsEpoch (expiredAlert [0])))
        (alertsAfter secondsEpoch (expiredAlert [0, 1, 2]),
          alertsAfter secondsEpoch (expiredAlert [0]))
        [.evaluate (restartLoop 300) 300] := by
  refine ⟨by unfold AlertLog.IsResolved; decide +kernel,
    by unfold AlertLog.IsResolved; decide +kernel, ?_⟩
  intro same
  have alike := same.finally.1
  revert alike
  decide +kernel

end Histories

end SmarTune
