import SmarTune.Benchmark.RunService

/-!
# Quiet mode ends with its run

What `start_run` takes it gives back when it raises in its `try` block, and the
listener gives the hold back when the job has ended.  Between the entry and the
`try` nothing does.
-/

namespace SmarTune

namespace RunPoint

/-- The run's hold may be there. -/
def holding : RunPoint → Bool
  | .quieted | .metered | .overridden | .published | .prepared | .reserved
  | .running | .finished | .read | .failed | .unpublished | .stopped => true
  | _ => false

/-- The run's sampler may run. -/
def metering : RunPoint → Bool
  | .metered | .overridden | .published | .prepared | .reserved | .running
  | .finished | .read | .released | .cleared | .failed | .unpublished => true
  | _ => false

/-- The run's scripts may be there. -/
def scripted : RunPoint → Bool
  | .fresh | .admitted | .unlinked | .raised => false
  | _ => true

/-- The run's overrides may be there. -/
def redirected : RunPoint → Bool
  | .fresh | .admitted | .rendered | .quieted | .metered | .raised => false
  | _ => true

/-- The run's scripts are there. -/
def rendering : RunPoint → Bool
  | .rendered | .quieted | .metered | .overridden | .published | .prepared
  | .reserved | .failed | .unpublished | .stopped | .dropped => true
  | _ => false

/-- The job's listeners have run. -/
def ended : RunPoint → Bool
  | .released | .cleared | .settled => true
  | _ => false

/-- What may be there at one point may be there at the next one. -/
def leads (before after : RunPoint) : Bool :=
  (!before.holding || after.holding) && (!before.metering || after.metering) &&
    (!before.scripted || after.scripted) &&
    (!before.redirected || after.redirected) &&
    (!after.rendering || before.rendering)

end RunPoint

/-- Quiet mode does not outlive its run. -/
structure QuietEndsWithRuns {Run : Type*}
    (system : BenchSystem Run) : Prop where
  /-- When `start_run` raises, nothing that it took is left. -/
  raised_clean : ∀ run, (system.runs run).point = .raised →
    system.watch.quiet.owner ≠ some run ∧ (system.runs run).sampling = false ∧
      (system.runs run).scripts = [] ∧ (system.runs run).overrides = none
  /-- Once the job has ended its hold is released. -/
  ended_released : ∀ run, (system.runs run).point.ended = true →
    system.watch.quiet.owner ≠ some run
  /-- While no measured run is live the gate is down. -/
  gate_down : (∀ run, (system.runs run).measured = true →
      (system.runs run).point.holding = false) →
    system.watch.quiet.isActive system.watch.now = false

/-! ## What is there of a run at each point -/

/-- A run has what its point allows. -/
structure RunTidy {Run : Type*} (owner : Option Run) (run : Run)
    (record : RunRecord) : Prop where
  held : owner = some run → record.measured = true ∧ record.point.holding = true
  sampled : record.sampling = true → record.point.metering = true
  scripted : record.scripts ≠ [] → record.point.scripted = true
  redirected : record.overrides ≠ none → record.point.redirected = true
  rendered : record.point.rendering = true → record.scripts ≠ []

theorem RunTidy.advance {Run : Type*} {owner : Option Run} {run : Run}
    {before after : RunRecord} (tidy : RunTidy owner run before)
    (leads : before.point.leads after.point = true)
    (measured : after.measured = before.measured)
    (sampling : after.sampling = true → before.sampling = true)
    (scripts : after.scripts = before.scripts)
    (overrides : after.overrides = before.overrides) :
    RunTidy owner run after := by
  simp only [RunPoint.leads, Bool.and_eq_true, Bool.or_eq_true,
    Bool.not_eq_true'] at leads
  obtain ⟨⟨⟨⟨holding, metering⟩, scripted⟩, redirected⟩, rendering⟩ := leads
  constructor
  · intro held
    have before_held := tidy.held held
    rw [measured]
    exact ⟨before_held.1, holding.resolve_left (by simp [before_held.2])⟩
  · intro samples
    exact metering.resolve_left (by simp [tidy.sampled (sampling samples)])
  · intro present
    rw [scripts] at present
    exact scripted.resolve_left (by simp [tidy.scripted present])
  · intro present
    rw [overrides] at present
    exact redirected.resolve_left (by simp [tidy.redirected present])
  · intro renders
    rw [scripts]
    exact tidy.rendered (rendering.resolve_left (by simp [renders]))

theorem RunTidy.owner_ne {Run : Type*} {owner : Option Run} {run : Run}
    {record : RunRecord} (tidy : RunTidy owner run record)
    (unmeasured : record.measured = false) :
    owner ≠ some run := by
  intro held
  have measured := (tidy.held held).1
  rw [unmeasured] at measured
  cases measured

/-- Every run has what its point allows. -/
def Tidy {Run : Type*} (system : BenchSystem Run) : Prop :=
  ∀ run, RunTidy system.watch.quiet.owner run (system.runs run)

theorem Tidy.quietEndsWithRuns {Run : Type*} {system : BenchSystem Run}
    (tidy : Tidy system) :
    QuietEndsWithRuns system where
  raised_clean := by
    intro run raised
    refine ⟨?_, ?_, ?_, ?_⟩
    · intro held
      simpa [raised, RunPoint.holding] using ((tidy run).held held).2
    · by_contra sampling
      have metering := (tidy run).sampled (by simpa using sampling)
      simp [raised, RunPoint.metering] at metering
    · by_contra scripts
      simpa [raised, RunPoint.scripted] using (tidy run).scripted scripts
    · by_contra overrides
      simpa [raised, RunPoint.redirected] using (tidy run).redirected overrides
  ended_released := by
    intro run ended held
    have holding := ((tidy run).held held).2
    cases point : (system.runs run).point <;>
      simp [point, RunPoint.ended, RunPoint.holding] at ended holding
  gate_down := by
    intro idle
    by_contra active
    have active : system.watch.quiet.isActive system.watch.now = true := by
      simpa using active
    obtain ⟨run, held⟩ := Option.ne_none_iff_exists'.mp
      (QuietMode.isActive_iff.mp active).1
    obtain ⟨measured, holding⟩ := (tidy run).held held
    rw [idle run measured] at holding
    cases holding

namespace BenchSystem

variable {Run : Type*} [DecidableEq Run] {system : BenchSystem Run}

/-! ## The manager's calls and the holder -/

variable {label : QuietStep Run} {run : Run} {record : RunRecord}

/-- A call other than an entry brings no new holder. -/
theorem owner_quietly
    (held : (system.quietly label).watch.quiet.owner = some run) :
    system.watch.quiet.owner = some run ∨
      ∃ ttl wall, label = .enter run ttl wall := by
  cases label with
  | enter owner ttl wall =>
    have entered : some owner = some run := by
      simpa [quietly, QuietSystem.step] using held
    cases entered
    exact .inr ⟨ttl, wall, rfl⟩
  | elapse seconds => exact .inl held
  | exit owner =>
    left
    have present : (system.watch.quiet.exit owner).2.owner ≠ none := by
      intro free
      simp [quietly, QuietSystem.step, free] at held
    simpa [quietly, QuietSystem.step,
      QuietSystem.exit_eq_self_of_held present] using held
  | heartbeat owner =>
    left
    simp only [quietly, QuietSystem.step, QuietMode.heartbeat] at held
    split at held <;> exact held
  | setGate up =>
    left
    simp only [quietly, QuietSystem.step, QuietMode.setGate] at held
    split at held <;> exact held
  | observe =>
    left
    simp only [quietly, QuietSystem.step] at held
    split at held <;> exact held
  | reclaim =>
    left
    simp only [quietly, QuietSystem.step] at held
    split at held
    · simp at held
    · exact held

theorem owner_exit (run : Run) :
    (system.quietly (.exit (some run))).watch.quiet.owner ≠ some run := by
  intro held
  have present : (system.watch.quiet.exit (some run)).2.owner ≠ none := by
    intro free
    simp [quietly, QuietSystem.step, free] at held
  simp only [quietly, QuietSystem.step] at held
  have same := QuietSystem.exit_eq_self_of_held present
  rw [same] at held
  simp [QuietMode.exit, held] at present

/-! ## One step keeps every run tidy -/

omit [DecidableEq Run] in
/-- A run's record is as tidy under a holder that is not new to it. -/
theorem tidy_of_owner {before after : Option Run}
    (tidy : RunTidy before run record)
    (keeps : after = some run → before = some run) :
    RunTidy after run record :=
  { tidy with held := fun held => tidy.held (keeps held) }

/-- A step writes one record, and brings at most that run as a new holder. -/
theorem tidy_set {changed : BenchSystem Run} {run : Run} {record : RunRecord}
    (tidy : Tidy system) (same : changed.runs = system.runs)
    (keeps : ∀ other, other ≠ run → changed.watch.quiet.owner = some other →
        system.watch.quiet.owner = some other)
    (own : RunTidy changed.watch.quiet.owner run record) :
    Tidy (changed.set run record) := by
  intro other
  by_cases other_eq : other = run
  · subst other_eq
    simpa [set] using own
  · simp only [set, Function.update_of_ne other_eq, same]
    exact tidy_of_owner (tidy other) (keeps other other_eq)

omit [DecidableEq Run] in
theorem tidy_whenAt {point : RunPoint} {act : RunRecord → BenchSystem Run}
    (tidy : Tidy system)
    (acted : (system.runs run).point = point → Tidy (act (system.runs run))) :
    Tidy (system.whenAt run point act) := by
  unfold whenAt
  split
  · rename_i here
    exact acted here
  · exact tidy

/-- A step of a run that leaves the quiet mode alone. -/
theorem tidy_move {changed : BenchSystem Run} (tidy : Tidy system)
    (same : changed.runs = system.runs) (quiet : changed.watch = system.watch)
    (own : RunTidy system.watch.quiet.owner run record) :
    Tidy (changed.set run record) := by
  apply tidy_set tidy same
  · intro other _ held
    rwa [quiet] at held
  · rwa [quiet]

/-- A call of the manager that is no entry. -/
theorem tidy_quietly (tidy : Tidy system)
    (noEntry : ∀ run ttl wall, label ≠ .enter run ttl wall) :
    Tidy (system.quietly label) := by
  intro run
  apply tidy_of_owner (tidy run)
  intro held
  rcases owner_quietly held with before | ⟨ttl, wall, entry⟩
  · exact before
  · exact absurd entry (noEntry run ttl wall)

theorem tidy_enter {ttl : Option Ttl} {wall : ℚ} (tidy : Tidy system)
    (own : RunTidy (some run) run record) :
    Tidy ((system.quietly (.enter run ttl wall)).set run record) := by
  have same : (system.quietly (.enter run ttl wall)).runs = system.runs := rfl
  apply tidy_set tidy same
  · intro other other_ne held
    rcases owner_quietly held with before | ⟨ttl', wall', entry⟩
    · exact before
    · cases entry
      exact absurd rfl other_ne
  · simpa [quietly, QuietSystem.step] using own

/-- A run gives its hold back. -/
theorem tidy_exit (tidy : Tidy system) (own : RunTidy none run record) :
    Tidy ((system.quietly (.exit (some run))).set run record) := by
  have same : (system.quietly (.exit (some run))).runs = system.runs := rfl
  apply tidy_set tidy same
  · intro other _ held
    rcases owner_quietly held with before | ⟨ttl, wall, entry⟩
    · exact before
    · cases entry
  · apply tidy_of_owner own
    intro held
    exact absurd held (owner_exit run)

theorem tidy_noteHold (tidy : Tidy system) :
    Tidy system.noteHold := by
  unfold noteHold
  split
  · exact tidy
  · rename_i run held
    split
    · exact tidy_move tidy rfl rfl { tidy run with }
    · exact tidy

variable (isAlnum : Char → Bool)

/-- `start_run` raises only in its `try` block, and its clean-up meets no
error. -/
def RaisesInTry (system : BenchSystem Run) : BenchStep Run → Prop
  | .startSampler run outcome _ =>
    (system.runs run).point = .quieted →
      (system.runs run).measured = true → outcome ≠ .raised
  | .writeOverrides run faults =>
    (system.runs run).point = .metered →
      (system.runs run).request.cmdOverrides ≠ [] → faults.directory = false ∧
          ∀ entry ∈ (system.runs run).request.cmdOverrides,
            AcceptsOverride isAlnum faults entry
  | .unlinkScripts run fault =>
    (system.runs run).point = .dropped →
      ∀ count ∈ fault, (system.runs run).scripts.length ≤ count
  | .removeOverrides run fault =>
    (system.runs run).point = .unlinked →
      fault = true → (system.runs run).overrides = none
  | _ => True

instance (system : BenchSystem Run) (label : BenchStep Run) :
    Decidable (RaisesInTry isAlnum system label) := by
  cases label <;> unfold RaisesInTry <;> infer_instance

variable {isAlnum}

theorem noteHold_record (run : Run) :
    ∃ disturbed, system.noteHold.runs run =
      { system.runs run with disturbed } := by
  unfold noteHold
  split
  · exact ⟨_, rfl⟩
  · rename_i holder held
    split
    · by_cases here : run = holder
      · subst here
        exact ⟨true, by simp [set]⟩
      · exact ⟨_, by simp [set, here]; rfl⟩
    · exact ⟨_, rfl⟩

/-! ## `start_run` -/

theorem tidy_accept (tidy : Tidy system) (run : Run) (request : RunRequest) :
    Tidy (system.accept run request) := by
  unfold accept
  split
  · exact tidy
  · apply tidy_whenAt tidy
    intro here
    apply tidy_move tidy rfl rfl
    have own := tidy run
    constructor
    · intro held
      simpa [here, RunPoint.holding] using (own.held held).2
    · intro samples
      simpa [here, RunPoint.metering] using own.sampled samples
    · intro present
      simpa [here, RunPoint.scripted] using own.scripted present
    · intro present
      simpa [here, RunPoint.redirected] using own.redirected present
    · intro renders
      simp [RunPoint.rendering] at renders

theorem tidy_render (tidy : Tidy system) (run : Run) :
    Tidy (system.render run) := by
  apply tidy_whenAt tidy
  intro here
  apply tidy_move tidy rfl rfl
  have own := tidy run
  constructor
  · intro held
    simpa [here, RunPoint.holding] using (own.held held).2
  · intro samples
    simpa [here, RunPoint.metering] using own.sampled samples
  · intro _
    rfl
  · intro present
    simpa [here, RunPoint.redirected] using own.redirected present
  · intro _
    exact scriptsOf_ne_nil _

theorem tidy_enterQuiet (tidy : Tidy system) (run : Run) (wall : ℚ) :
    Tidy (system.enterQuiet run wall) := by
  apply tidy_whenAt tidy
  intro here
  have own := tidy run
  have next : RunTidy none run { system.runs run with point := .quieted } := by
    constructor
    · intro held
      cases held
    · intro samples
      simpa [here, RunPoint.metering] using own.sampled samples
    · intro _
      rfl
    · intro present
      simpa [here, RunPoint.redirected] using own.redirected present
    · intro _
      exact own.rendered (by rw [here]; rfl)
  by_cases measured : (system.runs run).measured = true
  · simp only [measured, if_true]
    exact tidy_enter tidy { next with held := fun _ => ⟨measured, rfl⟩ }
  · simp only [measured]
    have unmeasured : (system.runs run).measured = false := by simpa using measured
    apply tidy_move tidy rfl rfl
    exact tidy_of_owner next fun held => absurd held (own.owner_ne unmeasured)

theorem tidy_startSampler (tidy : Tidy system) (run : Run)
    (outcome : SamplerStart) (wall : ℚ)
    (calm : RaisesInTry isAlnum system (.startSampler run outcome wall)) :
    Tidy (system.startSampler run outcome wall) := by
  apply tidy_whenAt tidy
  intro here
  have own := tidy run
  have next : RunTidy system.watch.quiet.owner run
      { system.runs run with point := .metered } :=
    own.advance (by rw [here]; rfl) rfl id rfl rfl
  by_cases measured : (system.runs run).measured = true
  · simp only [measured, if_true]
    cases outcome with
    | started =>
      apply tidy_move tidy rfl rfl
      exact { next with
        held := next.held
        sampled := fun _ => rfl }
    | refused =>
      apply tidy_enter tidy
      exact { next with held := fun _ => ⟨measured, rfl⟩ }
    | raised => exact absurd rfl (calm here measured)
  · simp only [measured]
    exact tidy_move tidy rfl rfl next

theorem tidy_writeOverrides (tidy : Tidy system) (run : Run)
    (faults : OverrideFaults)
    (calm : RaisesInTry isAlnum system (.writeOverrides run faults)) :
    Tidy (writeOverrides isAlnum system run faults) := by
  apply tidy_whenAt tidy
  intro here
  have own := tidy run
  have next : RunTidy system.watch.quiet.owner run
      { system.runs run with point := .overridden } :=
    own.advance (by rw [here]; rfl) rfl id rfl rfl
  split
  · exact tidy_move tidy rfl rfl next
  · rename_i present
    have accepted := calm here (by simpa using present)
    have sound : (writeCmdOverrides isAlnum faults
        (system.runs run).request.cmdOverrides).error = none :=
      writeCmdOverrides_error_eq_none_iff.mpr accepted
    simp only [sound, Option.isNone_none, if_true]
    apply tidy_move tidy rfl rfl
    exact { next with
      held := next.held
      redirected := fun _ => rfl }

theorem tidy_publish (tidy : Tidy system) (run : Run) :
    Tidy (system.publish run) := by
  apply tidy_whenAt tidy
  intro here
  apply tidy_move tidy rfl rfl
  exact (tidy run).advance (by rw [here]; rfl) rfl id rfl rfl

theorem tidy_buildEnv (tidy : Tidy system) (run : Run) (raises : Bool) :
    Tidy (system.buildEnv run raises) := by
  apply tidy_whenAt tidy
  intro here
  apply tidy_move tidy rfl rfl
  cases raises <;>
    exact (tidy run).advance (by rw [here]; rfl) rfl id rfl rfl

theorem tidy_reserve (tidy : Tidy system) (run : Run) :
    Tidy (system.reserve run) := by
  apply tidy_whenAt tidy
  intro here
  split
  · apply tidy_move tidy rfl rfl
    exact (tidy run).advance (by rw [here]; rfl) rfl id rfl rfl
  · apply tidy_move tidy rfl rfl
    exact (tidy run).advance (by rw [here]; rfl) rfl id rfl rfl

theorem tidy_spawn (tidy : Tidy system) (run : Run) (outcome : Spawn) :
    Tidy (system.spawn run outcome) := by
  apply tidy_whenAt tidy
  intro here
  cases outcome <;>
    exact tidy_move tidy rfl rfl
      ((tidy run).advance (by rw [here]; rfl) rfl id rfl rfl)

/-! ## The `except` block -/

theorem tidy_unpublish (tidy : Tidy system) (run : Run) :
    Tidy (system.unpublish run) := by
  apply tidy_whenAt tidy
  intro here
  apply tidy_move tidy rfl rfl
  exact (tidy run).advance (by rw [here]; rfl) rfl id rfl rfl

theorem tidy_stopSampler (tidy : Tidy system) (run : Run) :
    Tidy (system.stopSampler run) := by
  apply tidy_whenAt tidy
  intro here
  apply tidy_move tidy rfl rfl
  have own := tidy run
  constructor
  · intro held
    exact ⟨(own.held held).1, rfl⟩
  · intro samples
    cases samples
  · intro _
    rfl
  · intro _
    rfl
  · intro _
    exact own.rendered (by rw [here]; rfl)

theorem tidy_dropHold (tidy : Tidy system) (run : Run) :
    Tidy (system.dropHold run) := by
  apply tidy_whenAt tidy
  intro here
  have own := tidy run
  have next : RunTidy none run { system.runs run with point := .dropped } := by
    constructor
    · intro held
      cases held
    · intro samples
      simpa [here, RunPoint.metering] using own.sampled samples
    · intro _
      rfl
    · intro _
      rfl
    · intro _
      exact own.rendered (by rw [here]; rfl)
  by_cases measured : (system.runs run).measured = true
  · simp only [measured, if_true]
    exact tidy_exit tidy next
  · simp only [measured]
    have unmeasured : (system.runs run).measured = false := by simpa using measured
    apply tidy_move tidy rfl rfl
    exact tidy_of_owner next fun held => absurd held (own.owner_ne unmeasured)

theorem tidy_unlinkScripts (tidy : Tidy system) (run : Run) (fault : Option ℕ)
    (calm : RaisesInTry isAlnum system (.unlinkScripts run fault)) :
    Tidy (system.unlinkScripts run fault) := by
  apply tidy_whenAt tidy
  intro here
  have own := tidy run
  have gone : fault.elim [] (system.runs run).scripts.drop = [] := by
    cases fault with
    | none => rfl
    | some count => simpa using calm here count rfl
  simp only [gone, List.isEmpty_nil, if_true]
  apply tidy_move tidy rfl rfl
  constructor
  · intro held
    simpa [here, RunPoint.holding] using (own.held held).2
  · intro samples
    simpa [here, RunPoint.metering] using own.sampled samples
  · intro present
    exact absurd rfl present
  · intro _
    rfl
  · intro renders
    cases renders

theorem tidy_removeOverrides (tidy : Tidy system) (run : Run) (fault : Bool)
    (calm : RaisesInTry isAlnum system (.removeOverrides run fault)) :
    Tidy (system.removeOverrides run fault) := by
  apply tidy_whenAt tidy
  intro here
  apply tidy_move tidy rfl rfl
  have own := tidy run
  constructor
  · intro held
    simpa [here, RunPoint.holding] using (own.held held).2
  · intro samples
    simpa [here, RunPoint.metering] using own.sampled samples
  · intro present
    simpa [here, RunPoint.scripted] using own.scripted present
  · intro present
    cases fault with
    | false => exact absurd rfl present
    | true => exact absurd (calm here rfl) present
  · intro renders
    cases renders

/-! ## The reaper -/

theorem tidy_reap (tidy : Tidy system) (run : Run) :
    Tidy (system.reap run) := by
  apply tidy_whenAt tidy
  intro here
  apply tidy_move tidy rfl rfl
  exact (tidy run).advance (by rw [here]; rfl) rfl id rfl rfl

theorem tidy_readHeld (tidy : Tidy system) (run : Run) :
    Tidy (system.readHeld run) := by
  apply tidy_whenAt tidy
  intro here
  apply tidy_move tidy rfl rfl
  exact (tidy run).advance (by rw [here]; rfl) rfl id rfl rfl

theorem tidy_releaseQuiet (tidy : Tidy system) (run : Run) :
    Tidy (system.releaseQuiet run) := by
  apply tidy_whenAt tidy
  intro here
  have own := tidy run
  have next : RunTidy none run { system.runs run with point := .released } := by
    constructor
    · intro held
      cases held
    · intro _
      rfl
    · intro _
      rfl
    · intro _
      rfl
    · intro renders
      cases renders
  by_cases measured : (system.runs run).measured = true
  · simp only [measured, if_true]
    exact tidy_exit tidy next
  · simp only [measured]
    have unmeasured : (system.runs run).measured = false := by simpa using measured
    apply tidy_move tidy rfl rfl
    exact tidy_of_owner next fun held => absurd held (own.owner_ne unmeasured)

theorem tidy_clearLive (tidy : Tidy system) (run : Run) :
    Tidy (system.clearLive run) := by
  apply tidy_whenAt tidy
  intro here
  apply tidy_move tidy rfl rfl
  exact (tidy run).advance (by rw [here]; rfl) rfl id rfl rfl

theorem tidy_stopFinished (tidy : Tidy system) (run : Run) :
    Tidy (system.stopFinished run) := by
  apply tidy_whenAt tidy
  intro here
  apply tidy_move tidy rfl rfl
  have own := tidy run
  constructor
  · intro held
    simpa [here, RunPoint.holding] using (own.held held).2
  · intro samples
    cases samples
  · intro _
    rfl
  · intro _
    rfl
  · intro renders
    cases renders

theorem tidy_step (tidy : Tidy system) {label : BenchStep Run}
    (calm : RaisesInTry isAlnum system label) :
    Tidy (system.step isAlnum label) := by
  apply tidy_noteHold
  cases label with
  | accept run request => exact tidy_accept tidy run request
  | render run => exact tidy_render tidy run
  | enterQuiet run wall => exact tidy_enterQuiet tidy run wall
  | startSampler run outcome wall =>
    exact tidy_startSampler tidy run outcome wall calm
  | writeOverrides run faults => exact tidy_writeOverrides tidy run faults calm
  | publish run => exact tidy_publish tidy run
  | buildEnv run raises => exact tidy_buildEnv tidy run raises
  | reserve run => exact tidy_reserve tidy run
  | spawn run outcome => exact tidy_spawn tidy run outcome
  | unpublish run => exact tidy_unpublish tidy run
  | stopSampler run => exact tidy_stopSampler tidy run
  | dropHold run => exact tidy_dropHold tidy run
  | unlinkScripts run fault => exact tidy_unlinkScripts tidy run fault calm
  | removeOverrides run fault => exact tidy_removeOverrides tidy run fault calm
  | reap run => exact tidy_reap tidy run
  | readHeld run => exact tidy_readHeld tidy run
  | releaseQuiet run => exact tidy_releaseQuiet tidy run
  | clearLive run => exact tidy_clearLive tidy run
  | stopFinished run => exact tidy_stopFinished tidy run
  | tick run =>
    simp only [act, tick]
    split
    · exact tidy_quietly tidy (by simp)
    · exact tidy
  | occupy =>
    simp only [act, occupy]
    split <;> exact tidy
  | vacate =>
    simp only [act, vacate]
    split <;> exact tidy
  | elapse seconds => exact tidy_quietly tidy (by simp)
  | setGate up => exact tidy_quietly tidy (by simp)
  | observe => exact tidy_quietly tidy (by simp)
  | reclaim => exact tidy_quietly tidy (by simp)

/-! ## What a raise outside the `try` block leaves -/

theorem nothing_left_of_quietEndsWithRuns
    (ends : QuietEndsWithRuns (system.set run record).noteHold)
    (raised : record.point = .raised) :
    record.scripts = [] ∧ record.overrides = none := by
  have noted : ∃ disturbed, (system.set run record).noteHold.runs run =
      { (system.set run record).runs run with disturbed } := noteHold_record run
  obtain ⟨disturbed, noted⟩ := noted
  have stored : (system.set run record).runs run = record := by simp [set]
  rw [stored] at noted
  have clean := ends.raised_clean run (by rw [noted]; exact raised)
  rw [noted] at clean
  exact clean.2.2

theorem raisesInTry_of_quietEndsWithRuns (tidy : Tidy system)
    {label : BenchStep Run}
    (ends : QuietEndsWithRuns (system.step isAlnum label)) :
    RaisesInTry isAlnum system label := by
  cases label with
  | startSampler run outcome wall =>
    intro here measured raised
    subst raised
    have scripts := (tidy run).rendered (by rw [here]; rfl)
    simp only [step, act, startSampler, whenAt, here, measured, if_true] at ends
    exact scripts (nothing_left_of_quietEndsWithRuns ends rfl).1
  | writeOverrides run faults =>
    intro here present
    rw [← writeCmdOverrides_error_eq_none_iff]
    by_contra raised
    have scripts := (tidy run).rendered (by rw [here]; rfl)
    have nonempty :
        (system.runs run).request.cmdOverrides.isEmpty = false := by
      simpa using present
    simp only [step, act, writeOverrides, whenAt, here, if_true, nonempty,
      Bool.false_eq_true, if_false, Option.isNone_iff_eq_none, raised] at ends
    exact scripts (nothing_left_of_quietEndsWithRuns ends rfl).1
  | unlinkScripts run fault =>
    intro here count fault_eq
    cases fault_eq
    by_contra short
    have left : (system.runs run).scripts.drop count ≠ [] := by
      simpa using short
    simp only [step, act, unlinkScripts, whenAt, here, if_true,
      Option.elim_some, List.isEmpty_iff, left, if_false] at ends
    exact left (nothing_left_of_quietEndsWithRuns ends rfl).1
  | removeOverrides run fault =>
    intro here faulty
    subst faulty
    by_contra present
    simp only [step, act, removeOverrides, whenAt, here, if_true] at ends
    exact present (nothing_left_of_quietEndsWithRuns ends rfl).2
  | _ => trivial

/-! ## Whole runs of the service -/

omit [DecidableEq Run] in
theorem tidy_init (ttlS : Ttl) (now : ℚ) :
    Tidy (init ttlS now : BenchSystem Run) := by
  intro run
  constructor
  · intro held
    cases held
  · intro samples
    cases samples
  · intro present
    exact absurd rfl present
  · intro present
    exact absurd rfl present
  · intro renders
    cases renders

/-- Quiet mode ends with its run, at every moment, exactly if `start_run`
raises in its `try` block only. -/
theorem quiet_ends_with_runs_iff (isAlnum : Char → Bool) (ttlS : Ttl) (now : ℚ)
    (labels : List (BenchStep Run)) :
    Runs.EveryPrefix (step isAlnum) QuietEndsWithRuns (init ttlS now) labels ↔
      Runs.EveryStep (step isAlnum) (RaisesInTry isAlnum) (init ttlS now)
        labels := by
  apply Runs.everyPrefix_iff_everyStep Tidy
  · intro system tidy
    exact tidy.quietEndsWithRuns
  · intro system label tidy
    constructor
    · exact raisesInTry_of_quietEndsWithRuns tidy
    · intro calm
      exact (tidy_step tidy calm).quietEndsWithRuns
  · intro system label tidy calm
    exact tidy_step tidy calm
  · exact tidy_init ttlS now

/-- An advanced run whose one case key is not accepted. -/
def refusedOverride : List (BenchStep String) :=
  [.accept "run" ⟨.benchmark, 1, [("not a key", "true")]⟩, .render "run",
    .enterQuiet "run" 0, .startSampler "run" .started 0,
    .writeOverrides "run" .clear, .elapse 60, .tick "run", .elapse 60,
    .tick "run", .elapse 60]

/-- After an override is refused the hold stays, and its sampler renews it. -/
theorem refused_override_keeps_quiet_mode :
    ¬ Runs.EveryPrefix (step fun char => char.isAlphanum) QuietEndsWithRuns
      (init ((120 : ℚ) : WithTop ℚ) 0) refusedOverride := by
  intro ends
  have raised := ends.finally.raised_clean "run" (by decide +kernel)
  exact absurd raised.1 (by decide +kernel)

end BenchSystem

end SmarTune
