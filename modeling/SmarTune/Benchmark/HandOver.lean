import SmarTune.Benchmark.QuietRuns

/-!
# The hand-over from one run to the next

The reaper frees the slot before the callbacks of the finished run, so that the
next run may start in between.  Quiet mode and the live sampler are single
variables of the process: the callbacks check whose hold they release, but not
whose hold they read and not whose sampler they take down.
-/

namespace SmarTune

namespace RunPoint

/-- The run has not entered quiet mode yet. -/
def early : RunPoint → Bool
  | .fresh | .admitted | .rendered => true
  | _ => false

/-- The run has assigned the live sampler and will take it down. -/
def exposing : RunPoint → Bool
  | .published | .prepared | .reserved | .running | .finished | .read
  | .released | .failed => true
  | _ => false

end RunPoint

/-- The live sampler is that of the running run, and no other one. -/
structure LiveSamplerAgrees {Run : Type*}
    (system : BenchSystem Run) : Prop where
  /-- After the other runs have settled it is the sampler of the running one. -/
  running : ∀ run, (system.runs run).point = .running →
    (∀ other, other ≠ run → (system.runs other).point.exposing = false) →
      system.liveSampler =
        if (system.runs run).hasSampler then some run else none
  /-- While no measured run is live there is none. -/
  idle : (∀ run, (system.runs run).measured = true →
      (system.runs run).point.exposing = false) →
    system.liveSampler = none

namespace BenchSystem

variable {Run : Type*} [DecidableEq Run] {system : BenchSystem Run}

/-- `quiet_held` becomes true exactly if the run's own hold was never dropped
and never lapsed. -/
def ReadsOwnHold (system : BenchSystem Run) : BenchStep Run → Prop
  | .readHeld run =>
    (system.runs run).point = .finished → (system.runs run).measured = true →
        (((system.readHeld run).runs run).quietHeld = some true ↔
          (system.runs run).disturbed = false)
  | _ => True

/-- The callbacks of a run leave the hold of another one alone. -/
def SparesOtherHolds (isAlnum : Char → Bool) (system : BenchSystem Run)
    (label : BenchStep Run) : Prop :=
  ∀ run other, label ∈ [.readHeld run, .releaseQuiet run, .clearLive run,
      .stopFinished run] →
    other ≠ run → system.watch.quiet.owner = some other →
      (system.step isAlnum label).watch = system.watch

/-- The runs do not overlap where they share a variable. -/
def Apart (system : BenchSystem Run) : BenchStep Run → Prop
  | .startSampler run .refused _ =>
    (system.runs run).point = .quieted → (system.runs run).measured = true →
        system.watch.quiet.previous system.watch.now = some run
  | .publish run =>
    (system.runs run).point = .overridden →
      ∀ other, other ≠ run → (system.runs other).point.exposing = false
  | .readHeld run =>
    (system.runs run).point = .finished → (system.runs run).measured = true →
        system.watch.quiet.previous system.watch.now = some run ∨
          system.watch.quiet.heldClean = false ∧
            (system.runs run).disturbed = true
  | _ => True

instance [Fintype Run] (system : BenchSystem Run) (label : BenchStep Run) :
    Decidable (Apart system label) :=
  match label with
  | .startSampler run .refused _ =>
    inferInstanceAs (Decidable ((system.runs run).point = .quieted →
        (system.runs run).measured = true →
          system.watch.quiet.previous system.watch.now = some run))
  | .publish run =>
    inferInstanceAs (Decidable ((system.runs run).point = .overridden →
        ∀ other, other ≠ run → (system.runs other).point.exposing = false))
  | .readHeld run =>
    inferInstanceAs (Decidable ((system.runs run).point = .finished →
        (system.runs run).measured = true →
          system.watch.quiet.previous system.watch.now = some run ∨
            system.watch.quiet.heldClean = false ∧
              (system.runs run).disturbed = true))
  | .startSampler _ .started _ | .startSampler _ .raised _ | .accept _ _
  | .render _ | .enterQuiet _ _ | .writeOverrides _ _ | .buildEnv _ _
  | .reserve _ | .spawn _ _ | .unpublish _ | .stopSampler _ | .dropHold _
  | .unlinkScripts _ _ | .removeOverrides _ _ | .reap _ | .releaseQuiet _
  | .clearLive _ | .stopFinished _ | .tick _ | .occupy | .vacate | .elapse _
  | .setGate _ | .observe | .reclaim => .isTrue trivial

/-! ## The marks on a hold -/

/-- The user has dropped the gate during the hold there is, or its lease has
lapsed. -/
def marked (system : BenchSystem Run) : Bool :=
  system.watch.quiet.userExited || system.watch.quiet.expired system.watch.now

omit [DecidableEq Run] in
theorem marked_iff :
    system.marked = true ↔ system.watch.quiet.userExited = true ∨
        system.watch.quiet.expired system.watch.now = true := by
  simp [marked]

variable {label : BenchStep Run} {run : Run} {changed : BenchSystem Run}
  {record : RunRecord} {point : RunPoint}

/-- A hold that survives a call keeps its marks. -/
theorem marked_quietly {label : QuietStep Run}
    (noEntry : ∀ run ttl wall, label ≠ .enter run ttl wall)
    (held : (system.quietly label).watch.quiet.owner = some run)
    (marks : system.marked = true) :
    (system.quietly label).marked = true := by
  rw [marked_iff] at marks ⊢
  cases label with
  | enter owner ttl wall => exact absurd rfl (noEntry owner ttl wall)
  | elapse seconds =>
    rcases marks with dropped | lapsed
    · exact .inl dropped
    · exact .inr (QuietSystem.expired_later lapsed seconds)
  | exit owner =>
    have present : (system.watch.quiet.exit owner).2.owner ≠ none := by
      intro free
      simp [quietly, QuietSystem.step, free] at held
    simpa [quietly, QuietSystem.step,
      QuietSystem.exit_eq_self_of_held present] using marks
  | heartbeat owner =>
    rcases marks with dropped | lapsed
    · left
      simp only [quietly, QuietSystem.step, QuietMode.heartbeat]
      split <;> exact dropped
    · right
      simpa [quietly, QuietSystem.step,
        QuietMode.heartbeat_of_expired lapsed] using lapsed
  | setGate up =>
    rcases marks with dropped | lapsed
    · left
      simp only [quietly, QuietSystem.step, QuietMode.setGate]
      split
      · exact dropped
      · simp [dropped]
    · right
      simpa [quietly, QuietSystem.step, QuietSystem.expired_setGate]
        using lapsed
  | observe =>
    simp only [quietly, QuietSystem.step]
    split <;> exact marks
  | reclaim =>
    simp only [quietly, QuietSystem.step] at held ⊢
    split at held
    · simp at held
    · rename_i idle
      simpa [idle] using marks

/-- What is booked of a run's hold shows on the hold. -/
structure HoldFounded (system : BenchSystem Run) : Prop where
  shows : ∀ run, system.watch.quiet.owner = some run →
    (system.runs run).disturbed = true → system.marked = true
  early : ∀ run, (system.runs run).point.early = true →
    system.watch.quiet.owner ≠ some run ∧ (system.runs run).disturbed = false

/-- What is booked of a run's hold is what shows on the hold. -/
structure HoldNoted (system : BenchSystem Run) : Prop
    extends HoldFounded system where
  noted : ∀ run, system.watch.quiet.owner = some run →
    system.marked = true → (system.runs run).disturbed = true

theorem holdNoted_noteHold (founded : HoldFounded system) :
    HoldNoted system.noteHold := by
  unfold noteHold
  split
  · rename_i free
    exact { founded with noted := by simp [free] }
  · rename_i holder held
    split
    · rename_i marks
      have marks : system.marked = true := marks
      refine ⟨⟨?_, ?_⟩, ?_⟩
      · intro run _ _
        exact marks
      · intro run early
        by_cases here : run = holder
        · subst here
          have early : (system.runs run).point.early = true := by
            simpa [set] using early
          exact absurd held (founded.early run early).1
        · simp only [set, Function.update_of_ne here] at early ⊢
          exact founded.early run early
      · intro run holds _
        have same : run = holder := by
          have holds : system.watch.quiet.owner = some run := holds
          rw [held] at holds
          exact (Option.some.inj holds).symm
        subst same
        simp [set]
    · rename_i clear
      refine { founded with noted := ?_ }
      intro run _ marks
      exact absurd marks clear

/-- A step writes one record, which is neither early nor disturbed for the
first time, and leaves the hold alone. -/
theorem holdFounded_move (founded : HoldFounded system)
    (same : changed.runs = system.runs) (quiet : changed.watch = system.watch)
    (disturbed : record.disturbed = (system.runs run).disturbed)
    (early : record.point.early = true → (system.runs run).point.early = true) :
    HoldFounded (changed.set run record) where
  shows := by
    intro other held marks
    have held : system.watch.quiet.owner = some other := by rwa [← quiet]
    have marks : (system.runs other).disturbed = true := by
      by_cases here : other = run
      · subst here
        rw [← disturbed]
        simpa [set] using marks
      · simpa [set, here, same] using marks
    simpa [set, marked, quiet] using founded.shows other held marks
  early := by
    intro other before
    have calm : system.watch.quiet.owner ≠ some other ∧
        (system.runs other).disturbed = false := by
      apply founded.early
      by_cases here : other = run
      · subst here
        apply early
        simpa [set] using before
      · simpa [set, here, same] using before
    refine ⟨?_, ?_⟩
    · simpa [set, quiet] using calm.1
    · by_cases here : other = run
      · subst here
        simpa [set, disturbed] using calm.2
      · simpa [set, here, same] using calm.2

omit [DecidableEq Run] in
theorem holdFounded_whenAt {run : Run} {point : RunPoint}
    {act : RunRecord → BenchSystem Run} (founded : HoldFounded system)
    (acted : (system.runs run).point = point →
      HoldFounded (act (system.runs run))) :
    HoldFounded (system.whenAt run point act) := by
  unfold whenAt
  split
  · rename_i here
    exact acted here
  · exact founded

/-- A call of the manager that is no entry. -/
theorem holdFounded_quietly (founded : HoldFounded system)
    (label : QuietStep Run)
    (noEntry : ∀ run ttl wall, label ≠ .enter run ttl wall) :
    HoldFounded (system.quietly label) := by
  have kept : ∀ run, (system.quietly label).watch.quiet.owner = some run →
      system.watch.quiet.owner = some run := by
    intro run held
    rcases owner_quietly held with before | ⟨ttl, wall, entry⟩
    · exact before
    · exact absurd entry (noEntry run ttl wall)
  constructor
  · intro run held marks
    exact marked_quietly noEntry held (founded.shows run (kept run held) marks)
  · intro run early
    refine ⟨?_, (founded.early run early).2⟩
    intro held
    exact (founded.early run early).1 (kept run held)

theorem holdFounded_enter {run : Run} {ttl : Option Ttl} {wall : ℚ}
    {record : RunRecord} (founded : HoldFounded system)
    (fresh : (system.runs run).disturbed = false ∨
      system.watch.quiet.previous system.watch.now = some run)
    (disturbed : record.disturbed = (system.runs run).disturbed)
    (early : record.point.early = false) :
    HoldFounded ((system.quietly (.enter run ttl wall)).set run record) where
  shows := by
    intro other held marks
    have same : other = run := by
      have entered : some run = some other := by
        simpa [set, quietly, QuietSystem.step] using held
      exact (Option.some.inj entered).symm
    subst same
    have marks : (system.runs other).disturbed = true := by
      rw [← disturbed]
      simpa [set] using marks
    rcases fresh with calm | found
    · rw [calm] at marks
      cases marks
    · obtain ⟨holds, lives⟩ := QuietMode.previous_eq_some_iff.mp found
      have shown := marked_iff.mp (founded.shows other holds marks)
      rw [marked_iff]
      left
      have dropped : system.watch.quiet.userExited = true := by
        apply shown.resolve_right
        rw [QuietMode.expired_iff, not_and, not_lt]
        exact fun _ => lives
      simpa [set, quietly, QuietSystem.step, QuietMode.enter, found]
        using dropped
  early := by
    intro other before
    by_cases here : other = run
    · subst here
      simp [set, early] at before
    · have before : (system.runs other).point.early = true := by
        simpa [set, quietly, here] using before
      have calm := founded.early other before
      refine ⟨?_, ?_⟩
      · simpa [set, quietly, QuietSystem.step] using fun same => here same.symm
      · simpa [set, quietly, here] using calm.2

variable {isAlnum : Char → Bool}

theorem holdFounded_enterQuiet (founded : HoldFounded system) (run : Run)
    (wall : ℚ) :
    HoldFounded (system.enterQuiet run wall) := by
  apply holdFounded_whenAt founded
  intro here
  by_cases measured : (system.runs run).measured = true
  · simp only [measured, if_true]
    have calm := (founded.early run (by rw [here]; rfl)).2
    exact holdFounded_enter founded (.inl calm) rfl rfl
  · simp only [measured]
    exact holdFounded_move founded rfl rfl rfl (by intro early; cases early)

theorem holdFounded_startSampler (founded : HoldFounded system) (run : Run)
    (outcome : SamplerStart) (wall : ℚ)
    (apart : Apart system (.startSampler run outcome wall)) :
    HoldFounded (system.startSampler run outcome wall) := by
  apply holdFounded_whenAt founded
  intro here
  by_cases measured : (system.runs run).measured = true
  · simp only [measured, if_true]
    cases outcome with
    | started =>
      exact holdFounded_move founded rfl rfl rfl (by intro early; cases early)
    | refused =>
      exact holdFounded_enter founded (.inr (apart here measured)) rfl rfl
    | raised =>
      exact holdFounded_move founded rfl rfl rfl (by intro early; cases early)
  · simp only [measured]
    exact holdFounded_move founded rfl rfl rfl (by intro early; cases early)

theorem holdFounded_exit (founded : HoldFounded system)
    (late : point.early = false) :
    HoldFounded
      ((if (system.runs run).measured then system.quietly (.exit (some run))
        else system).set run { system.runs run with point }) := by
  have moved := holdFounded_move founded rfl rfl
    (rfl : ({ system.runs run with point } : RunRecord).disturbed = _)
    (by intro early; simp [late] at early)
  split
  · exact holdFounded_quietly moved (.exit (some run)) (by simp)
  · exact moved

theorem holdFounded_act (founded : HoldFounded system)
    (apart : Apart system label) :
    HoldFounded (system.act isAlnum label) := by
  have late : ∀ {point : RunPoint} {claim : Prop},
      point.early = false → point.early = true → claim := by
    intro point claim here there
    rw [here] at there
    cases there
  cases label with
  | accept run request =>
    simp only [act, accept]
    split
    · exact founded
    · apply holdFounded_whenAt founded
      intro here
      exact holdFounded_move founded rfl rfl rfl (by intro _; rw [here]; rfl)
  | render run =>
    change HoldFounded (system.render run)
    apply holdFounded_whenAt founded
    intro here
    exact holdFounded_move founded rfl rfl rfl (by intro _; rw [here]; rfl)
  | enterQuiet run wall => exact holdFounded_enterQuiet founded run wall
  | startSampler run outcome wall =>
    exact holdFounded_startSampler founded run outcome wall apart
  | writeOverrides run faults =>
    change HoldFounded (writeOverrides isAlnum system run faults)
    apply holdFounded_whenAt founded
    intro _
    split
    · exact holdFounded_move founded rfl rfl rfl (late rfl)
    · refine holdFounded_move founded rfl rfl rfl ?_
      intro early
      simp only at early
      split at early <;> exact late rfl early
  | publish run =>
    change HoldFounded (system.publish run)
    apply holdFounded_whenAt founded
    intro _
    exact holdFounded_move founded rfl rfl rfl (late rfl)
  | buildEnv run raises =>
    change HoldFounded (system.buildEnv run raises)
    apply holdFounded_whenAt founded
    intro _
    cases raises <;> exact holdFounded_move founded rfl rfl rfl (late rfl)
  | reserve run =>
    change HoldFounded (system.reserve run)
    apply holdFounded_whenAt founded
    intro _
    split <;> exact holdFounded_move founded rfl rfl rfl (late rfl)
  | spawn run outcome =>
    change HoldFounded (system.spawn run outcome)
    apply holdFounded_whenAt founded
    intro _
    cases outcome <;> exact holdFounded_move founded rfl rfl rfl (late rfl)
  | unpublish run =>
    change HoldFounded (system.unpublish run)
    apply holdFounded_whenAt founded
    intro _
    exact holdFounded_move founded rfl rfl rfl (late rfl)
  | stopSampler run =>
    change HoldFounded (system.stopSampler run)
    apply holdFounded_whenAt founded
    intro _
    exact holdFounded_move founded rfl rfl rfl (late rfl)
  | dropHold run =>
    change HoldFounded (system.dropHold run)
    apply holdFounded_whenAt founded
    intro _
    exact holdFounded_exit founded rfl
  | unlinkScripts run fault =>
    change HoldFounded (system.unlinkScripts run fault)
    apply holdFounded_whenAt founded
    intro _
    refine holdFounded_move founded rfl rfl rfl ?_
    intro early
    simp only at early
    split at early <;> exact late rfl early
  | removeOverrides run fault =>
    change HoldFounded (system.removeOverrides run fault)
    apply holdFounded_whenAt founded
    intro _
    exact holdFounded_move founded rfl rfl rfl (late rfl)
  | reap run =>
    change HoldFounded (system.reap run)
    apply holdFounded_whenAt founded
    intro _
    exact holdFounded_move founded rfl rfl rfl (late rfl)
  | readHeld run =>
    change HoldFounded (system.readHeld run)
    apply holdFounded_whenAt founded
    intro _
    exact holdFounded_move founded rfl rfl rfl (late rfl)
  | releaseQuiet run =>
    change HoldFounded (system.releaseQuiet run)
    apply holdFounded_whenAt founded
    intro _
    exact holdFounded_exit founded rfl
  | clearLive run =>
    change HoldFounded (system.clearLive run)
    apply holdFounded_whenAt founded
    intro _
    exact holdFounded_move founded rfl rfl rfl (late rfl)
  | stopFinished run =>
    change HoldFounded (system.stopFinished run)
    apply holdFounded_whenAt founded
    intro _
    exact holdFounded_move founded rfl rfl rfl (late rfl)
  | tick run =>
    simp only [act, tick]
    split
    · exact holdFounded_quietly founded _ (by simp)
    · exact founded
  | occupy =>
    simp only [act, occupy]
    split <;> exact { founded with }
  | vacate =>
    simp only [act, vacate]
    split <;> exact { founded with }
  | elapse seconds => exact holdFounded_quietly founded _ (by simp)
  | setGate up => exact holdFounded_quietly founded _ (by simp)
  | observe => exact holdFounded_quietly founded _ (by simp)
  | reclaim => exact holdFounded_quietly founded _ (by simp)

/-! ## The live sampler -/

/-- At most one run has assigned the live sampler and will take it down, and
it is that run's. -/
structure LiveShown (system : BenchSystem Run) : Prop where
  sampled : ∀ run, (system.runs run).hasSampler = true →
    (system.runs run).measured = true
  unsampled : ∀ run, (system.runs run).point.early = true →
    (system.runs run).hasSampler = false
  alone : ∀ first second, (system.runs first).point.exposing = true →
    (system.runs second).point.exposing = true → first = second
  shown : ∀ run, (system.runs run).point.exposing = true → system.liveSampler =
      if (system.runs run).hasSampler then some run else none
  hidden : ∀ run, system.liveSampler = some run →
    (system.runs run).point.exposing = true ∧
      (system.runs run).hasSampler = true

omit [DecidableEq Run] in
theorem LiveShown.liveSamplerAgrees (live : LiveShown system) :
    LiveSamplerAgrees system where
  running := by
    intro run here _
    exact live.shown run (by rw [here]; rfl)
  idle := by
    intro idle
    by_contra shown
    obtain ⟨run, shown⟩ := Option.ne_none_iff_exists'.mp shown
    obtain ⟨exposing, sampler⟩ := live.hidden run shown
    rw [idle run (live.sampled run sampler)] at exposing
    cases exposing

theorem liveShown_move (live : LiveShown system)
    (same : changed.runs = system.runs)
    (sampler : changed.liveSampler = system.liveSampler)
    (exposing : record.point.exposing = (system.runs run).point.exposing)
    (hasSampler : record.hasSampler = (system.runs run).hasSampler)
    (measured : record.measured = (system.runs run).measured)
    (early : record.point.early = true → (system.runs run).point.early = true) :
    LiveShown (changed.set run record) := by
  have exposing : ∀ other, ((changed.set run record).runs other).point.exposing =
      (system.runs other).point.exposing := by
    intro other
    by_cases here : other = run
    · subst here
      simpa [set] using exposing
    · simp [set, here, same]
  have hasSampler : ∀ other, ((changed.set run record).runs other).hasSampler =
      (system.runs other).hasSampler := by
    intro other
    by_cases here : other = run
    · subst here
      simpa [set] using hasSampler
    · simp [set, here, same]
  have measured : ∀ other, ((changed.set run record).runs other).measured =
      (system.runs other).measured := by
    intro other
    by_cases here : other = run
    · subst here
      simpa [set] using measured
    · simp [set, here, same]
  have early : ∀ other,
      ((changed.set run record).runs other).point.early = true →
        (system.runs other).point.early = true := by
    intro other
    by_cases here : other = run
    · subst here
      simpa [set] using early
    · simp [set, here, same]
  have sampler : (changed.set run record).liveSampler = system.liveSampler :=
    sampler
  constructor
  · intro other
    rw [hasSampler, measured]
    exact live.sampled other
  · intro other before
    rw [hasSampler]
    exact live.unsampled other (early other before)
  · intro first second
    rw [exposing, exposing]
    exact live.alone first second
  · intro other
    rw [exposing, hasSampler, sampler]
    exact live.shown other
  · intro other
    rw [exposing, hasSampler, sampler]
    exact live.hidden other

theorem liveShown_hidden (live : LiveShown system)
    (before : (system.runs run).point.exposing = false)
    (after : record.point.exposing = false)
    (sampled : record.hasSampler = true → record.measured = true)
    (unsampled : record.point.early = true → record.hasSampler = false) :
    LiveShown (system.set run record) := by
  have others : ∀ other,
      ((system.set run record).runs other).point.exposing = true →
        other ≠ run ∧ (system.set run record).runs other = system.runs other := by
    intro other exposing
    by_cases here : other = run
    · subst here
      simp [set, after] at exposing
    · exact ⟨here, by simp [set, here]⟩
  constructor
  · intro other
    by_cases here : other = run
    · subst here
      simpa [set] using sampled
    · simpa [set, here] using live.sampled other
  · intro other
    by_cases here : other = run
    · subst here
      simpa [set] using unsampled
    · simpa [set, here] using live.unsampled other
  · intro first second first_exposing second_exposing
    have first_same := (others first first_exposing).2
    have second_same := (others second second_exposing).2
    rw [first_same] at first_exposing
    rw [second_same] at second_exposing
    exact live.alone first second first_exposing second_exposing
  · intro other exposing
    have same := (others other exposing).2
    rw [same] at exposing ⊢
    exact live.shown other exposing
  · intro other shown
    have exposed := live.hidden other shown
    have apart : other ≠ run := by
      intro here
      subst here
      rw [before] at exposed
      cases exposed.1
    simpa [set, apart] using exposed

theorem liveShown_publish {run : Run} (live : LiveShown system)
    (alone : ∀ other, other ≠ run →
      (system.runs other).point.exposing = false) :
    LiveShown ({ system with
      liveSampler := if (system.runs run).hasSampler then some run else none }.set
        run { system.runs run with point := .published }) := by
  constructor
  · intro other
    by_cases here : other = run
    · subst here
      simpa [set, RunRecord.measured] using live.sampled other
    · simpa [set, here] using live.sampled other
  · intro other
    by_cases here : other = run
    · subst here
      simp [set, RunPoint.early]
    · simpa [set, here] using live.unsampled other
  · intro first second first_exposing second_exposing
    have only : ∀ other, (({ system with
        liveSampler := if (system.runs run).hasSampler then some run else none
          }.set run { system.runs run with point := .published }).runs
            other).point.exposing = true → other = run := by
      intro other exposing
      by_contra here
      simp [set, here, alone other here] at exposing
    rw [only first first_exposing, only second second_exposing]
  · intro other exposing
    by_cases here : other = run
    · subst here
      simp [set]
    · simp [set, here, alone other here] at exposing
  · intro other shown
    have shown : (if (system.runs run).hasSampler then some run else none) =
        some other := shown
    split at shown
    · rename_i sampler
      cases shown
      simp [set, sampler, RunPoint.exposing]
    · cases shown

theorem liveShown_retire (live : LiveShown system)
    (exposing : (system.runs run).point.exposing = true)
    (gone : point.exposing = false) (late : point.early = false) :
    LiveShown ({ system with liveSampler := none }.set run
      { system.runs run with point }) := by
  have none_exposing : ∀ other, (({ system with liveSampler := none }.set run
      { system.runs run with point }).runs other).point.exposing = false := by
    intro other
    by_cases here : other = run
    · subst here
      simpa [set] using gone
    · by_contra exposed
      have exposed : (system.runs other).point.exposing = true := by
        simpa [set, here] using exposed
      exact here (live.alone other run exposed exposing)
  constructor
  · intro other
    by_cases here : other = run
    · subst here
      simpa [set, RunRecord.measured] using live.sampled other
    · simpa [set, here] using live.sampled other
  · intro other early
    by_cases here : other = run
    · subst here
      simp [set, late] at early
    · simp only [set, Function.update_of_ne here] at early ⊢
      exact live.unsampled other early
  · intro first second exposed
    simp [none_exposing first] at exposed
  · intro other exposed
    simp [none_exposing other] at exposed
  · intro other shown
    cases shown

omit [DecidableEq Run] in
theorem liveShown_whenAt {run : Run} {point : RunPoint}
    {act : RunRecord → BenchSystem Run} (live : LiveShown system)
    (acted : (system.runs run).point = point →
      LiveShown (act (system.runs run))) :
    LiveShown (system.whenAt run point act) := by
  unfold whenAt
  split
  · rename_i here
    exact acted here
  · exact live

theorem liveShown_quietly (live : LiveShown system) (label : QuietStep Run) :
    LiveShown (system.quietly label) :=
  { live with }

theorem liveShown_noteHold (live : LiveShown system) :
    LiveShown system.noteHold := by
  unfold noteHold
  split
  · exact live
  · split
    · exact liveShown_move live rfl rfl rfl rfl rfl id
    · exact live

theorem liveShown_startSampler (live : LiveShown system) (run : Run)
    (outcome : SamplerStart) (wall : ℚ) :
    LiveShown (system.startSampler run outcome wall) := by
  apply liveShown_whenAt live
  intro here
  have hidden : (system.runs run).point.exposing = false := by rw [here]; rfl
  by_cases measured : (system.runs run).measured = true
  · simp only [measured, if_true]
    cases outcome with
    | started =>
      exact liveShown_hidden live hidden rfl (fun _ => measured)
        (by intro early; cases early)
    | refused =>
      refine liveShown_move (liveShown_quietly live _) rfl rfl ?_ rfl rfl ?_
      · exact hidden.symm
      · intro early
        cases early
    | raised =>
      exact liveShown_move live rfl rfl hidden.symm rfl rfl
        (by intro early; cases early)
  · simp only [measured]
    exact liveShown_move live rfl rfl hidden.symm rfl rfl
      (by intro early; cases early)

theorem liveShown_clearLive (live : LiveShown system) (run : Run) :
    LiveShown (system.clearLive run) := by
  apply liveShown_whenAt live
  intro here
  have exposing : (system.runs run).point.exposing = true := by rw [here]; rfl
  have taken : (if (system.runs run).hasSampler then none
      else system.liveSampler) = none := by
    split
    · rfl
    · rename_i without
      rw [live.shown run exposing, if_neg without]
  rw [taken]
  exact liveShown_retire live exposing rfl rfl

/-- A measured run gives its hold back, and goes on. -/
theorem liveShown_exit (live : LiveShown system)
    (exposing : point.exposing = (system.runs run).point.exposing)
    (late : point.early = false) :
    LiveShown
      ((if (system.runs run).measured then system.quietly (.exit (some run))
        else system).set run { system.runs run with point }) := by
  have early : point.early = true → (system.runs run).point.early = true := by
    intro before
    simp [late] at before
  split
  · exact liveShown_move (liveShown_quietly live _) rfl rfl exposing rfl rfl
      early
  · exact liveShown_move live rfl rfl exposing rfl rfl early

/-- The live sampler stays that of the one run that exposes its own. -/
theorem liveShown_act (live : LiveShown system) (apart : Apart system label) :
    LiveShown (system.act isAlnum label) := by
  have late : ∀ {point : RunPoint} {claim : Prop},
      point.early = false → point.early = true → claim := by
    intro point claim here there
    rw [here] at there
    cases there
  cases label with
  | accept run request =>
    simp only [act, accept]
    split
    · exact live
    · apply liveShown_whenAt live
      intro here
      have without := live.unsampled run (by rw [here]; rfl)
      refine liveShown_hidden live (by rw [here]; rfl) rfl ?_ fun _ => without
      intro sampler
      rw [without] at sampler
      cases sampler
  | render run =>
    change LiveShown (system.render run)
    apply liveShown_whenAt live
    intro here
    exact liveShown_move live rfl rfl (by rw [here]; rfl) rfl rfl
      (by intro _; rw [here]; rfl)
  | enterQuiet run wall =>
    change LiveShown (system.enterQuiet run wall)
    apply liveShown_whenAt live
    intro here
    dsimp only
    split
    · refine liveShown_move (liveShown_quietly live _) rfl rfl ?_ rfl rfl
        (late rfl)
      change _ = (system.runs run).point.exposing
      rw [here]
      rfl
    · exact liveShown_move live rfl rfl (by rw [here]; rfl) rfl rfl (late rfl)
  | startSampler run outcome wall =>
    exact liveShown_startSampler live run outcome wall
  | writeOverrides run faults =>
    change LiveShown (writeOverrides isAlnum system run faults)
    apply liveShown_whenAt live
    intro here
    split
    · exact liveShown_move live rfl rfl (by rw [here]; rfl) rfl rfl (late rfl)
    · refine liveShown_move live rfl rfl ?_ rfl rfl ?_
      · rw [here]
        dsimp only
        split <;> rfl
      · dsimp only
        split <;> exact late rfl
  | publish run =>
    change LiveShown (system.publish run)
    apply liveShown_whenAt live
    intro here
    exact liveShown_publish live (apart here)
  | buildEnv run raises =>
    change LiveShown (system.buildEnv run raises)
    apply liveShown_whenAt live
    intro here
    cases raises <;>
      exact liveShown_move live rfl rfl (by rw [here]; rfl) rfl rfl (late rfl)
  | reserve run =>
    change LiveShown (system.reserve run)
    apply liveShown_whenAt live
    intro here
    split <;>
      exact liveShown_move live rfl rfl (by rw [here]; rfl) rfl rfl (late rfl)
  | spawn run outcome =>
    change LiveShown (system.spawn run outcome)
    apply liveShown_whenAt live
    intro here
    cases outcome <;>
      exact liveShown_move live rfl rfl (by rw [here]; rfl) rfl rfl (late rfl)
  | unpublish run =>
    change LiveShown (system.unpublish run)
    apply liveShown_whenAt live
    intro here
    exact liveShown_retire live (by rw [here]; rfl) rfl rfl
  | stopSampler run =>
    change LiveShown (system.stopSampler run)
    apply liveShown_whenAt live
    intro here
    exact liveShown_move live rfl rfl (by rw [here]; rfl) rfl rfl (late rfl)
  | dropHold run =>
    change LiveShown (system.dropHold run)
    apply liveShown_whenAt live
    intro here
    exact liveShown_exit live (by rw [here]; rfl) rfl
  | unlinkScripts run fault =>
    change LiveShown (system.unlinkScripts run fault)
    apply liveShown_whenAt live
    intro here
    refine liveShown_move live rfl rfl ?_ rfl rfl ?_
    · rw [here]
      dsimp only
      split <;> rfl
    · dsimp only
      split <;> exact late rfl
  | removeOverrides run fault =>
    change LiveShown (system.removeOverrides run fault)
    apply liveShown_whenAt live
    intro here
    exact liveShown_move live rfl rfl (by rw [here]; rfl) rfl rfl (late rfl)
  | reap run =>
    change LiveShown (system.reap run)
    apply liveShown_whenAt live
    intro here
    exact liveShown_move live rfl rfl (by rw [here]; rfl) rfl rfl (late rfl)
  | readHeld run =>
    change LiveShown (system.readHeld run)
    apply liveShown_whenAt live
    intro here
    exact liveShown_move live rfl rfl (by rw [here]; rfl) rfl rfl (late rfl)
  | releaseQuiet run =>
    change LiveShown (system.releaseQuiet run)
    apply liveShown_whenAt live
    intro here
    exact liveShown_exit live (by rw [here]; rfl) rfl
  | clearLive run => exact liveShown_clearLive live run
  | stopFinished run =>
    change LiveShown (system.stopFinished run)
    apply liveShown_whenAt live
    intro here
    exact liveShown_move live rfl rfl (by rw [here]; rfl) rfl rfl (late rfl)
  | tick run =>
    simp only [act, tick]
    split
    · exact liveShown_quietly live _
    · exact live
  | occupy =>
    simp only [act, occupy]
    split <;> exact { live with }
  | vacate =>
    simp only [act, vacate]
    split <;> exact { live with }
  | elapse seconds => exact liveShown_quietly live _
  | setGate up => exact liveShown_quietly live _
  | observe => exact liveShown_quietly live _
  | reclaim => exact liveShown_quietly live _

/-! ## The callbacks of a finished run -/

theorem readsOwnHold_of_apart (noted : HoldNoted system)
    (apart : Apart system label) :
    ReadsOwnHold system label := by
  cases label with
  | readHeld run =>
    intro here measured
    have read : ((system.readHeld run).runs run).quietHeld =
        some system.watch.quiet.heldClean := by
      simp [readHeld, whenAt, here, measured, set]
    rw [read, Option.some.injEq]
    rcases apart here measured with own | ⟨unclean, disturbed⟩
    · obtain ⟨held, lives⟩ := QuietMode.previous_eq_some_iff.mp own
      have fresh : system.watch.quiet.expired system.watch.now = false := by
        rw [← Bool.not_eq_true, QuietMode.expired_iff, not_and, not_lt]
        exact fun _ => lives
      have clean : system.watch.quiet.heldClean = !system.marked := by
        simp [QuietMode.heldClean, held, marked, fresh]
      rw [clean, Bool.not_eq_true']
      constructor
      · intro unmarked
        by_contra disturbed
        have marks := noted.shows run held (by simpa using disturbed)
        rw [unmarked] at marks
        cases marks
      · intro calm
        by_contra marks
        have disturbed := noted.noted run held (by simpa using marks)
        rw [calm] at disturbed
        cases disturbed
    · simp [unclean, disturbed]
  | _ => trivial

theorem noteHold_watch :
    system.noteHold.watch = system.watch := by
  unfold noteHold
  split
  · rfl
  · split <;> rfl

theorem sparesOtherHolds (isAlnum : Char → Bool) (system : BenchSystem Run)
    (label : BenchStep Run) :
    SparesOtherHolds isAlnum system label := by
  intro run other callback apart held
  rw [step, noteHold_watch]
  simp only [List.mem_cons, List.not_mem_nil, or_false] at callback
  rcases callback with rfl | rfl | rfl | rfl
  · simp only [act, readHeld, whenAt]
    split <;> rfl
  · simp only [act, releaseQuiet, whenAt]
    split
    · split
      · have stale : system.watch.quiet.owner ≠ some run := by
          rw [held]
          exact fun same => apart (Option.some.inj same)
        simp [set, quietly, QuietSystem.step, QuietMode.exit_of_stale stale]
      · rfl
    · rfl
  · simp only [act, clearLive, whenAt]
    split <;> rfl
  · simp only [act, stopFinished, whenAt]
    split <;> rfl

/-! ## Whole runs of the service -/

omit [DecidableEq Run] in
theorem holdNoted_init (ttlS : Ttl) (now : ℚ) :
    HoldNoted (init ttlS now : BenchSystem Run) := by
  refine ⟨⟨?_, ?_⟩, ?_⟩
  · intro run held
    cases held
  · intro run _
    refine ⟨?_, rfl⟩
    intro held
    cases held
  · intro run held
    cases held

omit [DecidableEq Run] in
theorem liveShown_init (ttlS : Ttl) (now : ℚ) :
    LiveShown (init ttlS now : BenchSystem Run) := by
  constructor
  · intro run sampler
    cases sampler
  · intro run _
    rfl
  · intro first second exposing
    cases exposing
  · intro run exposing
    cases exposing
  · intro run shown
    cases shown

/-- What a hand-over gets right at one step. -/
def HandsOver (isAlnum : Char → Bool) (system : BenchSystem Run)
    (label : BenchStep Run) : Prop :=
  ReadsOwnHold system label ∧ SparesOtherHolds isAlnum system label ∧
    LiveSamplerAgrees (system.step isAlnum label)

/-- While the runs stay apart where they share a variable, every hand-over is
right. -/
theorem runs_hand_over (isAlnum : Char → Bool) (ttlS : Ttl) (now : ℚ)
    (labels : List (BenchStep Run))
    (apart : Runs.EveryStep (step isAlnum) Apart (init ttlS now) labels) :
    Runs.EveryStep (step isAlnum) (HandsOver isAlnum) (init ttlS now)
      labels := by
  have preserved : ∀ (system : BenchSystem Run) (label : BenchStep Run),
      HoldNoted system ∧ LiveShown system → Apart system label →
        HoldNoted (system.step isAlnum label) ∧
          LiveShown (system.step isAlnum label) := by
    rintro system label ⟨noted, live⟩ apart
    exact ⟨holdNoted_noteHold (holdFounded_act noted.toHoldFounded apart),
      liveShown_noteHold (liveShown_act live apart)⟩
  apply Runs.everyStep_of_guarded _ preserved _ _ apart
  · intro system label kept apart
    exact ⟨readsOwnHold_of_apart kept.1 apart,
      sparesOtherHolds isAlnum system label,
      (preserved system label kept apart).2.liveSamplerAgrees⟩
  · exact ⟨holdNoted_init ttlS now, liveShown_init ttlS now⟩

/-- What `start_run` does for a run without overrides. -/
def startOf {Run : Type*} (run : Run) : List (BenchStep Run) :=
  [.accept run ⟨.benchmark, 1, []⟩, .render run, .enterQuiet run 0,
    .startSampler run .started 0, .writeOverrides run .clear, .publish run,
    .buildEnv run false, .reserve run, .spawn run .spawned]

/-- What the reaper does after it has freed the slot. -/
def callbacksOf {Run : Type*} (run : Run) : List (BenchStep Run) :=
  [.readHeld run, .releaseQuiet run, .clearLive run, .stopFinished run]

theorem runs_hand_over_witness :
    Runs.EveryStep (step fun char => char.isAlphanum)
      (HandsOver fun char => char.isAlphanum)
      (init ((120 : ℚ) : WithTop ℚ) 0)
      (startOf false ++ [.setGate false, .reap false] ++ callbacksOf false ++
        startOf true) :=
  runs_hand_over _ _ _ _ (by decide +kernel)

/-- The next run starts between the freed slot and the callbacks. -/
def startedInBetween : List (BenchStep Bool) :=
  startOf false ++ [.setGate false, .reap false] ++ startOf true ++
    callbacksOf false

/-- The disturbed run is said to have been measured undisturbed, and the
running one has lost its live sampler. -/
theorem started_in_between_is_mixed_up :
    ¬ Runs.EveryStep (step fun char => char.isAlphanum) ReadsOwnHold
        (init ((120 : ℚ) : WithTop ℚ) 0) startedInBetween ∧
      ¬ LiveSamplerAgrees (Runs.run (step fun char => char.isAlphanum)
        (init ((120 : ℚ) : WithTop ℚ) 0) startedInBetween) := by
  constructor
  · intro reads
    have split := (Runs.everyStep_append _
      (startOf false ++ [.setGate false, .reap false] ++ startOf true)
      (callbacksOf false)).mp reads
    have read := split.2.1 (by decide +kernel) (by decide +kernel)
    exact absurd read (by decide +kernel)
  · intro agrees
    have settled : ∀ other, other ≠ true →
        ((Runs.run (step fun char => char.isAlphanum)
          (init ((120 : ℚ) : WithTop ℚ) 0) startedInBetween).runs
            other).point.exposing = false := by
      decide +kernel
    have live := agrees.running true (by decide +kernel) settled
    exact absurd live (by decide +kernel)

end BenchSystem

end SmarTune
