import SmarTune.Diagnostics.AlertStorms
import SmarTune.Library.Runs

/-!
# Alerts and what they are about

When every fact is reported clearly, an alert stands for one subject, an
escalation for the restarts of one unit, and a failed limit is over once the
resource was limited and restored again.
-/

namespace SmarTune

variable {Ts Id : Type*}

namespace AlertPipeline

section Promises

variable [DecidableEq Ts] {epoch : Ts → Option ℚ}
  {pipeline : AlertPipeline Ts Id} {fact : AlertFact} {bootId : Option String}
  {stamp : EventStamp Ts Id}

omit [DecidableEq Ts] in
theorem keysApart_report
    (clear : pipeline.ReportsClearly epoch fact bootId stamp) (now : ℤ) :
    pipeline.KeysApart (.report fact bootId stamp now) :=
  fun _ earlier member alertable same =>
    subject_eq_of_key_eq alertable same (clear.told earlier member)

variable {appId : String} {resource : ControlResource}

theorem eventType_of_limitAction {fact : AlertFact} {action : ControlAction}
    (acts : fact.limitAction = some (action, appId, resource)) :
    fact.key.eventType = .controlLimit resource action := by
  cases fact with
  | limit event cgroups other =>
    simp only [AlertFact.limitAction, Option.some.injEq, Prod.mk.injEq] at acts
    obtain ⟨rfl, _, rfl⟩ := acts
    rfl
  | _ => cases acts

omit [DecidableEq Ts] in
theorem recoveredKey_of_recovered {failure : AlertFact}
    (recovers : fact.limitAction = some (.recovered, appId, resource))
    (failed : failure.limitAction = some (.failed, appId, resource))
    (sameScope : failure.key.scope = fact.key.scope) (bootId : Option String)
    (stamp : EventStamp Ts Id) :
    recoveredKey (fact.event bootId stamp) = some failure.key := by
  rw [recoveredKey, AlertFact.eventType_event, AlertFact.scopeFor_event,
    eventType_of_limitAction recovers, ← sameScope]
  change some ⟨.controlLimit resource .failed, failure.key.scope⟩ =
    some failure.key
  rw [← eventType_of_limitAction failed]

theorem actOn_recovery {key : AlertKey} {event : OperationalEvent Ts Id}
    (ungoverned : alertPolicy event.eventType = none) (log : AlertLog Ts Id)
    (now : ℤ) :
    actOn epoch key log (.evaluate event now) =
      if recoveredKey event = some key then
        (log.resolve event.tsUtc (some event.eventId) now).2
      else log := by
  simp [actOn, ungoverned]

theorem failuresRecovered_report
    (clear : pipeline.ReportsClearly epoch fact bootId stamp) (now : ℤ) :
    pipeline.FailuresRecovered epoch (.report fact bootId stamp now) := by
  intro appId resource recovers failure limited
  have ungoverned : alertPolicy (fact.event bootId stamp).eventType = none := by
    rw [AlertFact.eventType_event, eventType_of_limitAction recovers]
    rfl
  by_cases stored : pipeline.Stored fact bootId stamp
  · rw [step_of_stored stored]
    simp only [log_act, actOn_recovery ungoverned]
    rcases clear.matched appId resource recovers failure limited with
      idle | ⟨sameScope, _⟩
    · rw [AlertLog.resolve_of_idle idle, ite_self, idle]
    · rw [if_pos (recoveredKey_of_recovered recovers limited.1 sameScope bootId
        stamp)]
      exact AlertLog.occurrence_resolve _ _ _ _
  · rw [step_of_not_stored stored]
    rcases clear.matched appId resource recovers failure limited with
      idle | ⟨_, isStored⟩
    · exact idle
    · exact absurd isStored stored

theorem Sound.identifies {label : PipelineStep Ts Id}
    (sound : pipeline.Sound epoch) (clear : pipeline.Clear epoch label) :
    pipeline.Identifies epoch label := by
  cases label with
  | report fact bootId stamp now =>
    exact ⟨keysApart_report clear now, stormsReal_report sound clear now,
      failuresRecovered_report clear now⟩
  | acknowledge key nowIso now =>
    exact ⟨trivial, fun other escalated => absurd
      (leftover_operate sound (by simp) other) escalated, trivial⟩
  | silence key silencedUntil reason now =>
    exact ⟨trivial, fun other escalated => absurd
      (leftover_operate sound (by simp) other) escalated, trivial⟩
  | resolveExpired nowEpoch nowIso now =>
    exact ⟨trivial, fun other escalated => absurd
      (leftover_operate sound (by simp) other) escalated, trivial⟩

omit [DecidableEq Ts] in
theorem sound_init : (init : AlertPipeline Ts Id).Sound epoch := by
  have rested : ∀ key, (AlertDb.empty.log key : AlertLog Ts Id).Rested := by
    intro key row found
    cases found
  exact ⟨fun key => .inr (rested key),
    fun row going => absurd going.2.1 (rested stormKey row going.1).1⟩

/-- When every step of a run is clear, alerts of different subjects are apart,
only storms of one unit are escalated, and failed limits are over once the
resource was limited and restored. -/
theorem alerts_identify_subjects (epoch : Ts → Option ℚ)
    (labels : List (PipelineStep Ts Id))
    (clear : Runs.EveryStep (step epoch) (Clear epoch) init labels) :
    Runs.EveryStep (step epoch) (Identifies epoch) init labels := by
  apply Runs.everyStep_of_guarded (Sound epoch) _ _ _ clear
  · intro pipeline label sound clear
    exact sound.step clear
  · intro pipeline label sound clear
    exact sound.identifies clear
  · exact sound_init

end Promises

/-! ## Runs -/

/-- A restart loop of a unit in the journal. -/
def reportRestart (unit cursor : String) (time : ℕ) : PipelineStep ℕ ℕ :=
  .report (.restartLoop unit 3 ⟨cursor, some "boot"⟩) (some "boot")
    ⟨time, time, time⟩ time

/-- A manual limit on the CPU of one app, under a protection id of its own time
of limiting. -/
def cpuLimit (action : ControlAction) (limitedAt : ℚ) : AlertFact :=
  .limit ⟨action, "app", "App", some ⟨.manual, "app", "app", limitedAt⟩, [.cpu],
      .manual⟩
    [] .cpu

def reportLimit (action : ControlAction) (limitedAt : ℚ)
    (time : ℕ) : PipelineStep ℕ ℕ :=
  .report (cpuLimit action limitedAt) (some "boot") ⟨time, time, time⟩ time

/-- A limit that is applied or fails under a protection id is reported
clearly. -/
theorem reportsClearly_limit {pipeline : AlertPipeline ℕ ℕ}
    {action : ControlAction} (unrecovered : action ≠ .recovered) (limitedAt : ℚ)
    (stamp : EventStamp ℕ ℕ) :
    pipeline.ReportsClearly secondsEpoch (cpuLimit action limitedAt)
      (some "boot") stamp := by
  refine ⟨?_, ?_, ?_⟩
  · intro earlier _
    cases earlier <;> simp [ToldApart, Nameless, cpuLimit]
  · intro unit loops
    cases loops
  · intro appId resource recovers
    simp [cpuLimit, AlertFact.limitAction, unrecovered] at recovers

theorem alerts_identify_subjects_witness :
    Runs.EveryStep (step secondsEpoch) (Identifies secondsEpoch) init
      [reportRestart "ssh.service" "first" 0,
        reportRestart "ssh.service" "second" 4, reportLimit .failed 1 5,
        reportLimit .applied 1 6, reportLimit .recovered 1 7] := by
  apply alerts_identify_subjects
  refine ⟨⟨?_, ?_, ?_⟩, ⟨?_, ?_, ?_⟩, reportsClearly_limit (by decide) 1 _,
    reportsClearly_limit (by decide) 1 _, ⟨?_, ?_, ?_⟩, trivial⟩
  · intro earlier member
    cases member
  · intro unit loops row going
    cases going.1
  · intro appId resource recovers
    cases recovers
  · intro earlier member
    cases List.mem_singleton.mp member
    rfl
  · intro unit loops row going last ended time parsed
    have fired : ((((init : AlertPipeline ℕ ℕ).step secondsEpoch
        (reportRestart "ssh.service" "first" 0)).alerts.log stormKey).row.map
          (·.occurrence.lastFiredAt)) = some 0 := by
      decide +kernel
    have zero : row.occurrence.lastFiredAt = 0 :=
      Option.some.inj ((congrArg (Option.map _) going.1).symm.trans fired)
    rw [zero] at ended
    cases ended
    cases parsed
    decide
  · intro appId resource recovers
    cases recovers
  · intro earlier _
    cases earlier <;> simp [ToldApart, Nameless, cpuLimit]
  · intro unit loops
    cases loops
  · intro appId resource recovers failure limited
    obtain ⟨failed, before, since, split, _⟩ := limited
    have reported : [.restartLoop "ssh.service" 3 ⟨"first", some "boot"⟩,
        .restartLoop "ssh.service" 3 ⟨"second", some "boot"⟩,
        cpuLimit .failed 1, cpuLimit .applied 1] =
          before ++ failure :: since := split
    have member : failure ∈ before ++ failure :: since := by simp
    rw [← reported] at member
    simp only [List.mem_cons, List.not_mem_nil, or_false] at member
    rcases member with rfl | rfl | rfl | rfl
    · cases failed
    · cases failed
    · exact .inr ⟨rfl, by unfold Stored; decide⟩
    · cases failed

def restartsOfThreeUnits : List (PipelineStep ℕ ℕ) :=
  [reportRestart "a.service" "first" 0, reportRestart "b.service" "second" 1,
    reportRestart "c.service" "third" 2]

/-- A limit that fails, and the next one, which is applied and recovered. -/
def limitFailsThenHolds : List (PipelineStep ℕ ℕ) :=
  [reportLimit .failed 1 1, reportLimit .applied 2 2,
    reportLimit .recovered 2 3]

/-- Three units share an alert and make a storm that none of them made, and the
alert of a failed limit outlives the recovery. -/
theorem alerts_mix_subjects :
    ¬ Runs.EveryStep (step secondsEpoch) (fun pipeline => pipeline.KeysApart)
        init restartsOfThreeUnits ∧
      ¬ Runs.EveryStep (step secondsEpoch) (StormsReal secondsEpoch) init
          restartsOfThreeUnits ∧
        ¬ Runs.EveryStep (step secondsEpoch) (FailuresRecovered secondsEpoch)
            init limitFailsThenHolds := by
  refine ⟨?_, ?_, ?_⟩
  · rintro ⟨_, apart, _⟩
    have same := apart rfl (.restartLoop "a.service" 3 ⟨"first", some "boot"⟩)
      (List.mem_singleton_self _) rfl rfl
    revert same
    decide
  · rintro ⟨_, _, real, _⟩
    obtain ⟨rule, unit, start, chosen, enough⟩ := real stormKey (by decide +kernel)
    cases chosen
    have apart : ((Runs.run (step secondsEpoch) init
        restartsOfThreeUnits).ledger.map (·.attributes.unit)).Nodup := by
      decide
    have few : restartsWithin secondsEpoch (Runs.run (step secondsEpoch) init
        restartsOfThreeUnits).ledger unit start 300 ≤ 1 :=
      (restartsWithin_le_count _ unit start 300).trans
        (List.nodup_iff_count_le_one.mp apart (some unit))
    exact absurd (enough.trans few) (by decide)
  · rintro ⟨_, _, recovered, _⟩
    have resolved := recovered "app" .cpu rfl (cpuLimit .failed 1)
      ⟨rfl, [], [cpuLimit .applied 2], rfl, by decide, cpuLimit .applied 2,
        by decide, rfl⟩
    revert resolved
    decide +kernel

end AlertPipeline

end SmarTune
