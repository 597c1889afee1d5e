import SmarTune.Diagnostics.AlertActions
import SmarTune.Diagnostics.AlertFacts

/-!
# What an alert stands for

An alert should stand for one subject, a storm for the restarts of one unit,
and a failed limit should be over once the resource was limited and restored
again.  The facts are reported one after another, among acknowledgements,
silences and sweeps.
-/

namespace SmarTune

variable {Ts Id : Type*}

/-- The ledger, the alerts, and the facts that were reported so far. -/
structure AlertPipeline (Ts Id : Type*) where
  ledger : List (OperationalEvent Ts Id)
  alerts : AlertDb Ts Id
  reported : List AlertFact

/-- What can happen next. -/
inductive PipelineStep (Ts Id : Type*)
  | report (fact : AlertFact) (bootId : Option String)
      (stamp : EventStamp Ts Id)
      (now : ℤ)
  | acknowledge (key : AlertKey) (nowIso : Ts) (now : ℤ)
  | silence (key : AlertKey) (silencedUntil : Ts) (reason : Option String)
      (now : ℤ)
  | resolveExpired (nowEpoch : ℚ) (nowIso : Ts) (now : ℤ)

namespace AlertPipeline

section Pipeline

variable [DecidableEq Ts] (epoch : Ts → Option ℚ)

/-- Nothing has been reported. -/
def init : AlertPipeline Ts Id := ⟨[], .empty, []⟩

def Stored (pipeline : AlertPipeline Ts Id) (fact : AlertFact)
    (bootId : Option String) (stamp : EventStamp Ts Id) : Prop :=
  UniqueIndex.taken OperationalEvent.dedupKey pipeline.ledger
    (fact.event bootId stamp) = false

def step (pipeline : AlertPipeline Ts Id) :
    PipelineStep Ts Id → AlertPipeline Ts Id
  | .report fact bootId stamp now =>
    let emitted := emitEvent epoch bootId pipeline.ledger pipeline.alerts
      (fact.request bootId) stamp now
    ⟨emitted.1, emitted.2, pipeline.reported ++ [fact]⟩
  | .acknowledge key nowIso now =>
    { pipeline with
      alerts := act epoch pipeline.alerts (.acknowledge key nowIso now) }
  | .silence key silencedUntil reason now =>
    { pipeline with
      alerts :=
        act epoch pipeline.alerts (.silence key silencedUntil reason now) }
  | .resolveExpired nowEpoch nowIso now =>
    { pipeline with
      alerts :=
        act epoch pipeline.alerts (.resolveExpired nowEpoch nowIso now) }

/-! ## The three promises -/

/-- Alertable facts of different subjects have different alerts. -/
def KeysApart (pipeline : AlertPipeline Ts Id) : PipelineStep Ts Id → Prop
  | .report fact _ _ _ =>
    fact.Alertable → ∀ earlier ∈ pipeline.reported, earlier.Alertable →
        earlier.key = fact.key → earlier.subject = fact.subject
  | _ => True

def RestartWithin (unit : String) (start length : ℚ)
    (event : OperationalEvent Ts Id) : Prop :=
  event.eventType = .platformSystemdRestartLoop ∧
    event.attributes.unit = some unit ∧
    ∃ time ∈ epoch event.tsUtc, start ≤ time ∧ time ≤ start + length

instance (unit : String) (start length : ℚ) :
    DecidablePred (RestartWithin epoch unit start length :
        OperationalEvent Ts Id → Prop) :=
  fun _ => inferInstanceAs (Decidable (_ ∧ _))

/-- The recorded restart loops of a unit within a window. -/
def restartsWithin (ledger : List (OperationalEvent Ts Id)) (unit : String)
    (start length : ℚ) : ℕ :=
  ledger.countP fun event => decide (RestartWithin epoch unit start length event)

/-- An alert is escalated only when as many restarts of one unit as the rule
asks for lie within its window. -/
def StormsReal (pipeline : AlertPipeline Ts Id)
    (label : PipelineStep Ts Id) : Prop :=
  ∀ key, ((pipeline.step epoch label).alerts.log key).leftover ≠
        (pipeline.alerts.log key).leftover →
      ∃ rule unit start, escalationRule key.eventType = some rule ∧
        rule.threshold ≤
          restartsWithin epoch (pipeline.step epoch label).ledger unit start
            rule.windowSeconds

/-- The failure was reported, not again since, and the resource of the app was
limited since. -/
def LimitedSince (reported : List AlertFact) (failure : AlertFact)
    (appId : String) (resource : ControlResource) : Prop :=
  failure.limitAction = some (.failed, appId, resource) ∧ ∃ before since,
      reported = before ++ failure :: since ∧
        (∀ later ∈ since, later.key ≠ failure.key) ∧
        ∃ later ∈ since, later.limitAction = some (.applied, appId, resource)

/-- A successful restore ends the alerts of the failures before it. -/
def FailuresRecovered (pipeline : AlertPipeline Ts Id)
    (label : PipelineStep Ts Id) : Prop :=
  match label with
  | .report fact _ _ _ =>
    ∀ appId resource, fact.limitAction = some (.recovered, appId, resource) →
      ∀ failure, LimitedSince pipeline.reported failure appId resource →
        ((pipeline.step epoch label).alerts.log failure.key).occurrence = none
  | _ => True

/-- A step keeps the three promises. -/
structure Identifies (pipeline : AlertPipeline Ts Id)
    (label : PipelineStep Ts Id) : Prop where
  apart : pipeline.KeysApart label
  storms : pipeline.StormsReal epoch label
  recovered : pipeline.FailuresRecovered epoch label

/-! ## The condition -/

/-- The first limit names no app, and the second one an app that is called as
the source of both. -/
def Nameless (first second : ControlEvent) : Prop :=
  first.protectionId = none ∧ second.protectionId = none ∧
    first.appId = "" ∧ second.appId = "balancer"

/-- The events of two facts tell them apart, or they need not. -/
def ToldApart (first second : AlertFact) : Prop :=
  match first, second with
  | .restartLoop unit _ _, .restartLoop other _ _ => unit = other
  | .oomKill process _ _, .oomKill other _ _ => process = other
  | .limit event _ _, .limit other _ _ =>
    ¬ Nameless event other ∧ ¬ Nameless other event
  | _, _ => True

/-- The condition on a report. -/
structure ReportsClearly (pipeline : AlertPipeline Ts Id) (fact : AlertFact)
    (bootId : Option String) (stamp : EventStamp Ts Id) : Prop where
  /-- All restart loops are of one unit, all killed processes have one name. -/
  told : ∀ earlier ∈ pipeline.reported, ToldApart earlier fact
  /-- A restart loop is not older than the last fire of its active alert. -/
  ordered : ∀ unit, fact.loopingUnit = some unit →
    ∀ row, (pipeline.alerts.log fact.key).Going row →
      ∀ last, epoch row.occurrence.lastFiredAt = some last →
        ∀ time, epoch stamp.tsUtc = some time → last ≤ time
  /-- A recovery is reported for the first time and under the scope of the
  failures that are still active. -/
  matched : ∀ appId resource,
    fact.limitAction = some (.recovered, appId, resource) →
      ∀ failure, LimitedSince pipeline.reported failure appId resource →
        (pipeline.alerts.log failure.key).occurrence = none ∨
          (failure.key.scope = fact.key.scope ∧
            pipeline.Stored fact bootId stamp)

/-- The condition on a step. -/
def Clear (pipeline : AlertPipeline Ts Id) : PipelineStep Ts Id → Prop
  | .report fact bootId stamp _ =>
    pipeline.ReportsClearly epoch fact bootId stamp
  | _ => True

end Pipeline

/-! ## Facts and their alerts -/

theorem scope_limit (event : ControlEvent) (cgroups : List String)
    (resource : ControlResource) :
    (AlertFact.limit event cgroups resource).key.scope =
      match event.protectionId with
      | some protectionId => .protection protectionId
      | none =>
        .named (if event.appId = "" then "balancer" else event.appId) := by
  have named : firstName [none, some event.appId, none, some "balancer"] =
      if event.appId = "" then "balancer" else event.appId := by
    by_cases empty : event.appId = "" <;> simp [firstName, empty]
  rw [← named]
  rfl

theorem subject_limit_eq {first second : ControlEvent}
    {cgroups others : List String} {resource other : ControlResource}
    (same : (AlertFact.limit first cgroups resource).key.scope =
      (AlertFact.limit second others other).key.scope)
    (told : ¬ Nameless first second ∧ ¬ Nameless second first) :
    (AlertFact.limit first cgroups resource).subject =
      (AlertFact.limit second others other).subject := by
  rw [scope_limit, scope_limit] at same
  unfold AlertFact.subject Nameless at *
  cases firstId : first.protectionId <;>
    cases secondId : second.protectionId <;>
      simp only [firstId, secondId] at same told ⊢
  · rw [AlertScope.named.injEq] at same
    split_ifs at same <;> simp_all
  · cases same
  · cases same
  · simpa using same

variable {first second fact : AlertFact} {unit : String}

theorem subject_eq_of_key_eq (alertable : first.Alertable)
    (same : first.key = second.key) (told : ToldApart first second) :
    first.subject = second.subject := by
  have sameType : first.key.eventType = second.key.eventType := by rw [same]
  cases first <;> cases second
  case limit.limit =>
    exact subject_limit_eq (congrArg AlertKey.scope same) told
  case serviceCrashed.serviceCrashed service other =>
    have apart : ∀ first second : ServiceName,
        (AlertFact.serviceCrashed first).key =
            (AlertFact.serviceCrashed second).key → first = second := by
      intro first second
      cases first <;> cases second <;> decide
    exact congrArg AlertSubject.service (apart service other same)
  case kernelPanic.kernelPanic => rfl
  case gpuHang.gpuHang => rfl
  case oomKill.oomKill => exact congrArg AlertSubject.process told
  case restartLoop.restartLoop => exact congrArg AlertSubject.unit told
  case serviceStarted.serviceStarted => cases alertable
  -- Facts of different kinds have events of different types.
  all_goals cases sameType

def stormKey : AlertKey := ⟨.platformSystemdRestartLoop, .named "journal"⟩

theorem loopingUnit_of_eventType
    (restart : fact.key.eventType = .platformSystemdRestartLoop) :
    ∃ unit, fact.loopingUnit = some unit := by
  cases fact with
  | restartLoop unit count record => exact ⟨unit, rfl⟩
  | _ => cases restart

theorem key_of_loopingUnit (loops : fact.loopingUnit = some unit) :
    fact.key = stormKey := by
  cases fact with
  | restartLoop => rfl
  | _ => cases loops

theorem unit_of_loopingUnit (loops : fact.loopingUnit = some unit)
    (bootId : Option String) (stamp : EventStamp Ts Id) :
    (fact.event bootId stamp).attributes.unit = some unit := by
  cases fact with
  | restartLoop => exact loops
  | _ => cases loops

theorem unit_eq_of_toldApart {other : String} (told : ToldApart first second)
    (firstLoops : first.loopingUnit = some unit)
    (secondLoops : second.loopingUnit = some other) :
    unit = other := by
  cases first with
  | restartLoop =>
    cases second with
    | restartLoop =>
      cases firstLoops
      cases secondLoops
      exact told
    | _ => cases secondLoops
  | _ => cases firstLoops

/-! ## What a step does -/

section Step

variable [DecidableEq Ts] {epoch : Ts → Option ℚ}
  {pipeline : AlertPipeline Ts Id} {fact : AlertFact} {bootId : Option String}
  {stamp : EventStamp Ts Id}

theorem step_of_stored (stored : pipeline.Stored fact bootId stamp) (now : ℤ) :
    pipeline.step epoch (.report fact bootId stamp now) =
      ⟨pipeline.ledger ++ [fact.event bootId stamp],
        act epoch pipeline.alerts (.evaluate (fact.event bootId stamp) now),
        pipeline.reported ++ [fact]⟩ := by
  have free : UniqueIndex.taken OperationalEvent.dedupKey pipeline.ledger
      ((fact.request bootId).row bootId stamp) = false := stored
  simp [step, emitEvent, recordEvent, insertEvent, free, act, AlertFact.event]

/-- A fact whose event is not stored leaves the tables alone. -/
theorem step_of_not_stored (stored : ¬ pipeline.Stored fact bootId stamp)
    (now : ℤ) :
    pipeline.step epoch (.report fact bootId stamp now) =
      { pipeline with reported := pipeline.reported ++ [fact] } := by
  have taken : UniqueIndex.taken OperationalEvent.dedupKey pipeline.ledger
      ((fact.request bootId).row bootId stamp) = true := by
    rw [← Bool.not_eq_false]
    exact stored
  simp [step, emitEvent, recordEvent, insertEvent, taken]

end Step

end AlertPipeline

end SmarTune
