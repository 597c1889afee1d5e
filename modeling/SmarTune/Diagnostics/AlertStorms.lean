import SmarTune.Diagnostics.AlertPipeline

/-!
# Restart storms

An active alert of restart loops fires once for every recorded restart.  While
all restarts are of one unit and come in the order of time, its fires are the
restarts of that unit since its first fire, and only a storm of the unit
escalates it.
-/

namespace SmarTune

variable {Ts Id : Type*}

namespace AlertPipeline

variable [DecidableEq Ts] (epoch : Ts → Option ℚ)
  (pipeline : AlertPipeline Ts Id)

/-- The fires of the row are recorded restarts of one unit, between its first
and its last fire. -/
def Counted (row : AlertRow Ts Id) : Prop :=
  ∃ unit first last,
    (∃ fact ∈ pipeline.reported, fact.loopingUnit = some unit) ∧
      epoch row.occurrence.firstFiredAt = some first ∧
      epoch row.occurrence.lastFiredAt = some last ∧ first ≤ last ∧
      row.occurrence.fireCount ≤
        restartsWithin epoch pipeline.ledger unit first (last - first)

/-- Every alert is active or rested, and the restarts are counted. -/
structure Sound : Prop where
  settled : ∀ key, (∃ row, (pipeline.alerts.log key).Going row) ∨
      (pipeline.alerts.log key).Rested
  counted : ∀ row,
    (pipeline.alerts.log stormKey).Going row → pipeline.Counted epoch row

variable {epoch pipeline} {fact : AlertFact} {bootId : Option String}
  {stamp : EventStamp Ts Id}

omit [DecidableEq Ts] in
theorem restartsWithin_wider (ledger : List (OperationalEvent Ts Id))
    (unit : String) (start : ℚ) {length longer : ℚ} (wider : length ≤ longer) :
    restartsWithin epoch ledger unit start length ≤
      restartsWithin epoch ledger unit start longer := by
  refine List.countP_mono_left fun row _ within => ?_
  simp only [decide_eq_true_eq] at within ⊢
  obtain ⟨restart, named, time, parsed, after, before⟩ := within
  exact ⟨restart, named, time, parsed, after, by linarith⟩

omit [DecidableEq Ts] in
/-- A further restart within a wider window is counted besides those of the
window before. -/
theorem restartsWithin_snoc (ledger : List (OperationalEvent Ts Id))
    {event : OperationalEvent Ts Id} {unit : String} {start length longer : ℚ}
    (further : RestartWithin epoch unit start longer event)
    (wider : length ≤ longer) :
    restartsWithin epoch ledger unit start length + 1 ≤
      restartsWithin epoch (ledger ++ [event]) unit start longer := by
  have held : restartsWithin epoch ledger unit start length ≤
      restartsWithin epoch ledger unit start longer :=
    restartsWithin_wider ledger unit start wider
  have one : [event].countP
      (fun row => decide (RestartWithin epoch unit start longer row)) = 1 := by
    simp [further]
  unfold restartsWithin at held ⊢
  rw [List.countP_append, one]
  omega

omit [DecidableEq Ts] in
theorem restartsWithin_mono {ledger grown : List (OperationalEvent Ts Id)}
    (grows : ledger <+: grown) (unit : String) (start length : ℚ) :
    restartsWithin epoch ledger unit start length ≤
      restartsWithin epoch grown unit start length :=
  grows.sublist.countP_le

omit [DecidableEq Ts] in
theorem restartsWithin_le_count (ledger : List (OperationalEvent Ts Id))
    (unit : String) (start length : ℚ) :
    restartsWithin epoch ledger unit start length ≤
      (ledger.map (·.attributes.unit)).count (some unit) := by
  rw [List.count, List.countP_map]
  refine List.countP_mono_left fun event _ within => ?_
  rw [decide_eq_true_eq] at within
  simp [within.2.1]

omit [DecidableEq Ts] in
theorem Counted.mono {next : AlertPipeline Ts Id} {row same : AlertRow Ts Id}
    (counted : pipeline.Counted epoch row)
    (grows : pipeline.ledger <+: next.ledger)
    (kept : pipeline.reported ⊆ next.reported) (fires : SameFires row same) :
    next.Counted epoch same := by
  obtain ⟨unit, first, last, ⟨fact, member, loops⟩, started, ended, ordered,
    few⟩ := counted
  refine ⟨unit, first, last, ⟨fact, kept member, loops⟩, ?_, ?_, ordered, ?_⟩
  · rw [fires.start, started]
  · rw [fires.last, ended]
  · rw [fires.count]
    exact few.trans (restartsWithin_mono grows unit first (last - first))

omit [DecidableEq Ts] in
theorem restartWithin_event {unit : String} {start time : ℚ}
    (loops : fact.loopingUnit = some unit) (bootId : Option String)
    (parsed : epoch stamp.tsUtc = some time) (after : start ≤ time) :
    RestartWithin epoch unit start (time - start)
      (fact.event bootId stamp) := by
  refine ⟨?_, unit_of_loopingUnit loops bootId stamp, time, parsed, after, ?_⟩
  · rw [AlertFact.eventType_event, key_of_loopingUnit loops]
    rfl
  · linarith

omit [DecidableEq Ts] in
theorem Counted.restart {row : AlertRow Ts Id} {unit : String} {time : ℚ}
    (counted : pipeline.Counted epoch row)
    (going : (pipeline.alerts.log fact.key).Going row)
    (clear : pipeline.ReportsClearly epoch fact bootId stamp)
    (loops : fact.loopingUnit = some unit)
    (parsed : epoch stamp.tsUtc = some time) :
    ∃ first, epoch row.occurrence.firstFiredAt = some first ∧ first ≤ time ∧
      row.occurrence.fireCount + 1 ≤ restartsWithin epoch
          (pipeline.ledger ++ [fact.event bootId stamp]) unit first
          (time - first) := by
  obtain ⟨other, first, last, ⟨earlier, member, others⟩, started, ended,
    ordered, few⟩ := counted
  have same : other = unit :=
    unit_eq_of_toldApart (clear.told earlier member) others loops
  subst same
  have later : last ≤ time :=
    clear.ordered other loops row going last ended time parsed
  have further := restartWithin_event loops bootId parsed (ordered.trans later)
  refine ⟨first, started, ordered.trans later, ?_⟩
  calc row.occurrence.fireCount + 1
      ≤ restartsWithin epoch pipeline.ledger other first (last - first) + 1 :=
        Nat.add_le_add_right few 1
    _ ≤ _ := restartsWithin_snoc pipeline.ledger further (by linarith)

theorem Sound.acted {next : AlertPipeline Ts Id} (sound : pipeline.Sound epoch)
    (action : AlertAction Ts Id)
    (acts : next.alerts = act epoch pipeline.alerts action)
    (grows : pipeline.ledger <+: next.ledger)
    (kept : pipeline.reported ⊆ next.reported)
    (starts : ∀ event policy now escalation, action = .evaluate event now →
      Raises epoch stormKey action →
        next.Counted epoch (startedRow escalation event policy now))
    (again : ∀ event now row other, action = .evaluate event now →
      Raises epoch stormKey action → (pipeline.alerts.log stormKey).Going row →
          FiresAgain epoch event row other → next.Counted epoch other) :
    next.Sound epoch := by
  constructor
  · intro key
    rw [acts, log_act]
    exact actOn_settled (sound.settled key) action
  · intro row
    rw [acts, log_act]
    rcases sound.settled stormKey with ⟨before, going⟩ | rested
    · by_cases ended : Ends epoch stormKey before action
      · obtain ⟨last, tsUtc, eventId, now, _, free, closes⟩ :=
          actOn_of_ends going.2.1 ended
        have closed : ((pipeline.alerts.log stormKey).close last tsUtc eventId
            now).Rested :=
          AlertLog.rested_close (free.trans going.2.2) tsUtc eventId now
        rw [closes _ going.1]
        intro goes
        exact absurd goes.2.1 (closed row goes.1).1
      · obtain ⟨other, went, goes⟩ := actOn_of_goes going.2.1 ended
        rw [goes _ going.1]
        intro goes
        cases goes.1
        rcases went with ⟨event, now, is, raised, fires⟩ | same
        · exact again event now before row is raised going fires
        · exact (sound.counted before going).mono grows kept same
    · by_cases raised : Raises epoch stormKey action
      · obtain ⟨event, policy, now, is, started⟩ := actOn_of_raises raised
        rw [started _ rested]
        intro goes
        cases goes.1
        exact starts event policy now _ is raised
      · rw [actOn_of_rested rested raised]
        intro goes
        exact absurd goes.2.1 (rested row goes.1).1

/-- What an operator or a sweep does keeps the restarts counted. -/
theorem Sound.operate {action : AlertAction Ts Id}
    (sound : pipeline.Sound epoch) (unraised : ¬ Raises epoch stormKey action) :
    Sound epoch { pipeline with alerts := act epoch pipeline.alerts action } :=
  sound.acted action rfl (List.prefix_refl _) (List.Subset.refl _)
    (fun _ _ _ _ _ raised => absurd raised unraised)
    fun _ _ _ _ _ raised => absurd raised unraised

omit [DecidableEq Ts] in
theorem looping_of_raises {key : AlertKey} {now : ℤ}
    (restart : key.eventType = .platformSystemdRestartLoop)
    (raised : Raises epoch key (.evaluate (fact.event bootId stamp) now)) :
    fact.key = key ∧ key = stormKey ∧
      ∃ unit time, fact.loopingUnit = some unit ∧
        epoch stamp.tsUtc = some time := by
  obtain ⟨same, _, timed⟩ := raised
  obtain ⟨time, parsed⟩ := Option.isSome_iff_exists.mp timed
  rw [AlertFact.dedupKeyFor_event] at same
  subst same
  obtain ⟨unit, loops⟩ := loopingUnit_of_eventType restart
  exact ⟨rfl, key_of_loopingUnit loops, unit, time, loops, parsed⟩

theorem Sound.report (sound : pipeline.Sound epoch)
    (clear : pipeline.ReportsClearly epoch fact bootId stamp) (now : ℤ) :
    (pipeline.step epoch (.report fact bootId stamp now)).Sound epoch := by
  by_cases stored : pipeline.Stored fact bootId stamp
  · rw [step_of_stored stored]
    apply sound.acted (.evaluate (fact.event bootId stamp) now) rfl
      (List.prefix_append _ _) (List.subset_append_left _ _)
    · intro event policy now escalation is raised
      cases is
      obtain ⟨_, _, unit, time, loops, parsed⟩ := looping_of_raises rfl raised
      refine ⟨unit, time, time, ⟨fact, ?_, loops⟩, parsed, parsed, le_rfl, ?_⟩
      · exact List.mem_append_right _ (List.mem_singleton_self fact)
      · have counted :=
          restartsWithin_snoc pipeline.ledger
            (restartWithin_event loops bootId parsed le_rfl) le_rfl
        exact (Nat.le_add_left 1 _).trans counted
    · intro event now row other is raised going fires
      cases is
      obtain ⟨shared, _, unit, time, loops, parsed⟩ :=
        looping_of_raises rfl raised
      obtain ⟨first, started, ordered, few⟩ :=
        (sound.counted row going).restart (shared ▸ going) clear loops parsed
      refine ⟨unit, first, time, ⟨fact, ?_, loops⟩, ?_, ?_, ordered, ?_⟩
      · exact List.mem_append_right _ (List.mem_singleton_self fact)
      · rw [fires.start, started]
      · rw [fires.last]
        exact parsed
      · rw [fires.count]
        exact few
  · rw [step_of_not_stored stored]
    refine ⟨sound.settled, fun row going => ?_⟩
    exact (sound.counted row going).mono (List.prefix_refl _)
      (List.subset_append_left _ _) (.refl row)

theorem Sound.step {label : PipelineStep Ts Id} (sound : pipeline.Sound epoch)
    (clear : pipeline.Clear epoch label) :
    (pipeline.step epoch label).Sound epoch := by
  cases label with
  | report fact bootId stamp now => exact sound.report clear now
  | acknowledge key nowIso now => exact sound.operate id
  | silence key silencedUntil reason now => exact sound.operate id
  | resolveExpired nowEpoch nowIso now => exact sound.operate id

omit [DecidableEq Ts] in
theorem meetsRule_iff {rule : EscalationRule} {firstFiredAt tsUtc : Ts}
    {fireCount : ℕ} :
    meetsRule epoch rule firstFiredAt tsUtc fireCount = true ↔
      rule.threshold ≤ fireCount ∧
        ∃ first time, epoch firstFiredAt = some first ∧
          epoch tsUtc = some time ∧ time - first ≤ rule.windowSeconds := by
  unfold meetsRule
  cases epoch firstFiredAt <;> cases epoch tsUtc <;> simp

/-- The escalation columns stay as they are when no fault is evaluated. -/
theorem leftover_operate {action : AlertAction Ts Id}
    (sound : pipeline.Sound epoch)
    (unevaluated : ∀ event now, action ≠ .evaluate event now) (key : AlertKey) :
    ((act epoch pipeline.alerts action).log key).leftover =
      (pipeline.alerts.log key).leftover := by
  rw [log_act]
  rcases leftover_actOn (sound.settled key) action with
    kept | ⟨event, now, _, _, is, _⟩
  · exact kept
  · exact absurd is (unevaluated event now)

theorem stormsReal_report (sound : pipeline.Sound epoch)
    (clear : pipeline.ReportsClearly epoch fact bootId stamp) (now : ℤ) :
    pipeline.StormsReal epoch (.report fact bootId stamp now) := by
  intro key escalated
  by_cases stored : pipeline.Stored fact bootId stamp
  · rw [step_of_stored stored] at escalated ⊢
    simp only [log_act] at escalated
    obtain ⟨event, now, row, rule, is, raised, going, chosen, met⟩ :=
      (leftover_actOn (sound.settled key) _).resolve_left escalated
    cases is
    have typed : fact.key.eventType = key.eventType := by
      rw [← raised.1, AlertFact.dedupKeyFor_event]
    rw [AlertFact.eventType_event, typed] at chosen
    have restart : key.eventType = .platformSystemdRestartLoop := by
      unfold escalationRule at chosen
      split at chosen
      · assumption
      · cases chosen
    obtain ⟨shared, storm, unit, time, loops, parsed⟩ :=
      looping_of_raises restart raised
    obtain ⟨first, started, _, few⟩ :=
      (sound.counted row (storm ▸ going)).restart (shared ▸ going) clear loops
        parsed
    obtain ⟨enough, start, last, starts, ends, short⟩ := meetsRule_iff.mp met
    cases started.symm.trans starts
    cases parsed.symm.trans ends
    refine ⟨rule, unit, first, chosen, enough.trans (few.trans ?_)⟩
    exact restartsWithin_wider _ unit first short
  · rw [step_of_not_stored stored] at escalated
    exact absurd rfl escalated

end AlertPipeline

end SmarTune
