import SmarTune.Benchmark.CmdOverrides
import SmarTune.Quiet.Watchdog

/-!
# Benchmark runs as the service's threads make them

`start_run`, the reaper of its job, the sampler threads, the quiet-mode watchdog
and the user's switch, interleaved.  A step is a section under a lock, one
assignment to a shared variable, or one access to the file system; requests
that are refused before a script is rendered are not followed.

Of a run's files these are the scripts and the command overrides.  A setup or
plan job is followed as far as it occupies the execution slot.
-/

namespace SmarTune

/-- `VALID_STAGES`. -/
inductive Stage
  | build
  | benchmark
  | all
  deriving DecidableEq

/-- `_MEASURED_STAGES`. -/
def Stage.measured : Stage → Bool
  | .build => false
  | .benchmark => true
  | .all => true

/-- A request that `normalize_request` let through. -/
structure RunRequest where
  stage : Stage
  /-- How many groups `run_groups` makes of it. -/
  groups : ℕ
  cmdOverrides : CmdOverrides

/-- `run_<id>_g<n>.sh` or `run_<id>.sh`. -/
inductive ScriptFile
  | group (position : ℕ)
  | whole
  deriving DecidableEq

/-- The scripts that `start_run` renders, the driver last. -/
def scriptsOf (groups : ℕ) : List ScriptFile :=
  if groups = 1 then [.whole]
  else ((List.range groups).map fun index => .group (index + 1)) ++ [.whole]

theorem scriptsOf_ne_nil (groups : ℕ) : scriptsOf groups ≠ [] := by
  unfold scriptsOf
  split <;> simp

/-- Where a run is. -/
inductive RunPoint
  | fresh
  /-- In `start_run`, up to the reservation of the slot. -/
  | admitted
  | rendered
  | quieted
  | metered
  | overridden
  | published
  | prepared
  | reserved
  /-- The job of the run. -/
  | running
  | finished
  | read
  | released
  | cleared
  | settled
  /-- In the `except` block of `start_run`. -/
  | failed
  | unpublished
  | stopped
  | dropped
  | unlinked
  /-- `start_run` has raised. -/
  | raised
  deriving DecidableEq

/-- What the service knows of a run, and what is left of it. -/
structure RunRecord where
  request : RunRequest
  point : RunPoint
  /-- `run_sampler is not None`. -/
  hasSampler : Bool
  /-- The thread of the sampler runs. -/
  sampling : Bool
  scripts : List ScriptFile
  /-- The directory of the overrides. -/
  overrides : Option (List (String × String))
  /-- `job.meta["quiet_held"]`. -/
  quietHeld : Option Bool
  /-- The gate was dropped during the run's own hold, or its lease lapsed; not
  stored by the service. -/
  disturbed : Bool

/-- A run id not drawn yet. -/
def RunRecord.fresh : RunRecord where
  request := ⟨.build, 0, []⟩
  point := .fresh
  hasSampler := false
  sampling := false
  scripts := []
  overrides := none
  quietHeld := none
  disturbed := false

/-- `_MEASURED_STAGES` of the run's request. -/
def RunRecord.measured (record : RunRecord) : Bool :=
  record.request.stage.measured

/-- Which job has the slot. -/
inductive Occupant (Run : Type*)
  | other
  | run (run : Run)
  deriving DecidableEq

/-- The variables of the process that runs share. -/
structure BenchSystem (Run : Type*) where
  watch : QuietSystem Run
  /-- `jobs.manager._current`. -/
  slot : Option (Occupant Run)
  /-- `_live_sampler`, by its run. -/
  liveSampler : Option Run
  runs : Run → RunRecord

/-- What comes of `RunSampler.start`. -/
inductive SamplerStart
  | started
  | refused
  | raised
  deriving DecidableEq

/-- What comes of the rest of `JobManager.start`. -/
inductive Spawn
  | spawned
  | failed
  /-- The process runs, but its reaper could not be started. -/
  | unreaped
  deriving DecidableEq

/-- What can happen next. -/
inductive BenchStep (Run : Type*)
  | accept (run : Run) (request : RunRequest)
  | render (run : Run)
  | enterQuiet (run : Run) (wall : ℚ)
  | startSampler (run : Run) (outcome : SamplerStart) (wall : ℚ)
  | writeOverrides (run : Run) (faults : OverrideFaults)
  | publish (run : Run)
  | buildEnv (run : Run) (raises : Bool)
  | reserve (run : Run)
  | spawn (run : Run) (outcome : Spawn)
  | unpublish (run : Run)
  | stopSampler (run : Run)
  | dropHold (run : Run)
  /-- After how many files `unlink` raises, if it does. -/
  | unlinkScripts (run : Run) (fault : Option ℕ)
  /-- Whether `rmtree` ignores an error. -/
  | removeOverrides (run : Run) (fault : Bool)
  | reap (run : Run)
  | readHeld (run : Run)
  | releaseQuiet (run : Run)
  | clearLive (run : Run)
  | stopFinished (run : Run)
  /-- The sampler of the run renews the lease. -/
  | tick (run : Run)
  | occupy
  | vacate
  | elapse (seconds : ℚ≥0)
  | setGate (up : Bool)
  | observe
  | reclaim

namespace BenchSystem

variable {Run : Type*} [DecidableEq Run]

/-- The service starts without a hold and without a job. -/
def init (ttlS : Ttl) (now : ℚ) : BenchSystem Run where
  watch := .init ttlS now
  slot := none
  liveSampler := none
  runs := fun _ => .fresh

/-- Store what is known of a run. -/
def set (system : BenchSystem Run) (run : Run)
    (record : RunRecord) : BenchSystem Run :=
  { system with runs := Function.update system.runs run record }

/-- A call of the quiet-mode manager. -/
def quietly (system : BenchSystem Run)
    (label : QuietStep Run) : BenchSystem Run :=
  { system with watch := system.watch.step label }

def whenAt (system : BenchSystem Run) (run : Run) (point : RunPoint)
    (act : RunRecord → BenchSystem Run) : BenchSystem Run :=
  if (system.runs run).point = point then act (system.runs run) else system

/-- Keep book of what befell the hold there is. -/
def noteHold (system : BenchSystem Run) : BenchSystem Run :=
  match system.watch.quiet.owner with
  | none => system
  | some run =>
    if system.watch.quiet.userExited ||
        system.watch.quiet.expired system.watch.now then
      system.set run { system.runs run with disturbed := true }
    else system

/-! ## `start_run` -/

/-- The checks of `start_run`, the last one that of the slot. -/
def accept (system : BenchSystem Run) (run : Run)
    (request : RunRequest) : BenchSystem Run :=
  if system.slot.isSome then system
  else
    system.whenAt run .fresh fun record =>
      system.set run { record with request, point := .admitted }

/-- `render_script` for each group, and `render_driver`. -/
def render (system : BenchSystem Run) (run : Run) : BenchSystem Run :=
  system.whenAt run .admitted fun record =>
    system.set run { record with
      scripts := scriptsOf record.request.groups
      point := .rendered }

/-- `quiet_mode.enter`. -/
def enterQuiet (system : BenchSystem Run) (run : Run)
    (wall : ℚ) : BenchSystem Run :=
  system.whenAt run .rendered fun record =>
    let entered :=
      if record.measured then system.quietly (.enter run none wall) else system
    entered.set run { record with point := .quieted }

/-- `run_sampler.start()`, and the hold without a lease when it refuses. -/
def startSampler (system : BenchSystem Run) (run : Run) (outcome : SamplerStart)
    (wall : ℚ) : BenchSystem Run :=
  system.whenAt run .quieted fun record =>
    if record.measured then
      match outcome with
      | .started =>
        system.set run { record with
          hasSampler := true, sampling := true, point := .metered }
      | .refused =>
        (system.quietly (.enter run (some ⊤) wall)).set run
          { record with point := .metered }
      | .raised => system.set run { record with point := .raised }
    else system.set run { record with point := .metered }

/-- `if cmd_overrides: _write_cmd_overrides`, outside the `try`. -/
def writeOverrides (isAlnum : Char → Bool) (system : BenchSystem Run)
    (run : Run) (faults : OverrideFaults) : BenchSystem Run :=
  system.whenAt run .metered fun record =>
    if record.request.cmdOverrides.isEmpty then
      system.set run { record with point := .overridden }
    else
      let written := writeCmdOverrides isAlnum faults record.request.cmdOverrides
      system.set run { record with
        overrides := written.directory
        point := if written.error.isNone then .overridden else .raised }

/-- `_live_sampler = run_sampler`. -/
def publish (system : BenchSystem Run) (run : Run) : BenchSystem Run :=
  system.whenAt run .overridden fun record =>
    { system with
      liveSampler := if record.hasSampler then some run else none }.set run
        { record with point := .published }

/-- `env.build_subprocess_env`. -/
def buildEnv (system : BenchSystem Run) (run : Run)
    (raises : Bool) : BenchSystem Run :=
  system.whenAt run .published fun record =>
    system.set run { record with
      point := if raises then .failed else .prepared }

/-- The locked section of `JobManager.start`; `BenchBusy` when the slot is
taken. -/
def reserve (system : BenchSystem Run) (run : Run) : BenchSystem Run :=
  system.whenAt run .prepared fun record =>
    if system.slot.isSome then
      system.set run { record with point := .failed }
    else
      { system with slot := some (.run run) }.set run
        { record with quietHeld := some record.measured, point := .reserved }

/-- The rest of `JobManager.start`. -/
def spawn (system : BenchSystem Run) (run : Run)
    (outcome : Spawn) : BenchSystem Run :=
  system.whenAt run .reserved fun record =>
    match outcome with
    | .spawned => system.set run { record with point := .running }
    | .failed =>
      { system with slot := none }.set run { record with point := .failed }
    | .unreaped => system.set run { record with point := .failed }

/-! ## The `except` block of `start_run` -/

/-- `_live_sampler = None`. -/
def unpublish (system : BenchSystem Run) (run : Run) : BenchSystem Run :=
  system.whenAt run .failed fun record =>
    { system with liveSampler := none }.set run
      { record with point := .unpublished }

/-- `run_sampler.stop()`. -/
def stopSampler (system : BenchSystem Run) (run : Run) : BenchSystem Run :=
  system.whenAt run .unpublished fun record =>
    system.set run { record with sampling := false, point := .stopped }

/-- `quiet_mode.exit(quiet_owner)`. -/
def dropHold (system : BenchSystem Run) (run : Run) : BenchSystem Run :=
  system.whenAt run .stopped fun record =>
    let dropped :=
      if record.measured then system.quietly (.exit (some run)) else system
    dropped.set run { record with point := .dropped }

/-- The `unlink` calls. -/
def unlinkScripts (system : BenchSystem Run) (run : Run)
    (fault : Option ℕ) : BenchSystem Run :=
  system.whenAt run .dropped fun record =>
    let left := fault.elim [] record.scripts.drop
    system.set run { record with
      scripts := left
      point := if left.isEmpty then .unlinked else .raised }

/-- `shutil.rmtree(overrides_dir, ignore_errors=True)`, and `raise`. -/
def removeOverrides (system : BenchSystem Run) (run : Run)
    (fault : Bool) : BenchSystem Run :=
  system.whenAt run .unlinked fun record =>
    system.set run { record with
      overrides := if fault then record.overrides else none
      point := .raised }

/-! ## The reaper of the run's job -/

/-- The locked section of `_reap`. -/
def reap (system : BenchSystem Run) (run : Run) : BenchSystem Run :=
  system.whenAt run .running fun record =>
    { system with
      slot := if system.slot = some (Occupant.run run) then none else system.slot }.set
        run { record with point := .finished }

/-- `_release_quiet_mode` reads `held_clean()`. -/
def readHeld (system : BenchSystem Run) (run : Run) : BenchSystem Run :=
  system.whenAt run .finished fun record =>
    system.set run { record with
      quietHeld :=
        if record.measured then some system.watch.quiet.heldClean
        else record.quietHeld
      point := .read }

/-- `_release_quiet_mode` calls `quiet_mode.exit(owner)`. -/
def releaseQuiet (system : BenchSystem Run) (run : Run) : BenchSystem Run :=
  system.whenAt run .read fun record =>
    let released :=
      if record.measured then system.quietly (.exit (some run)) else system
    released.set run { record with point := .released }

/-- `_stop_sampler` sets `_live_sampler = None`; without a sampler there is no
`on_finish`. -/
def clearLive (system : BenchSystem Run) (run : Run) : BenchSystem Run :=
  system.whenAt run .released fun record =>
    { system with
      liveSampler := if record.hasSampler then none else system.liveSampler }.set
        run { record with point := .cleared }

/-- `_stop_sampler` stops the sampler. -/
def stopFinished (system : BenchSystem Run) (run : Run) : BenchSystem Run :=
  system.whenAt run .cleared fun record =>
    system.set run { record with sampling := false, point := .settled }

/-! ## The other threads -/

/-- `_loop` renews the lease. -/
def tick (system : BenchSystem Run) (run : Run) : BenchSystem Run :=
  if (system.runs run).sampling then system.quietly (.heartbeat run) else system

/-- A job of another kind takes the slot. -/
def occupy (system : BenchSystem Run) : BenchSystem Run :=
  if system.slot.isSome then system else { system with slot := some .other }

/-- A job of another kind ends. -/
def vacate (system : BenchSystem Run) : BenchSystem Run :=
  if system.slot = some Occupant.other then { system with slot := none } else system

variable (isAlnum : Char → Bool)

def act (system : BenchSystem Run) : BenchStep Run → BenchSystem Run
  | .accept run request => system.accept run request
  | .render run => system.render run
  | .enterQuiet run wall => system.enterQuiet run wall
  | .startSampler run outcome wall => system.startSampler run outcome wall
  | .writeOverrides run faults => writeOverrides isAlnum system run faults
  | .publish run => system.publish run
  | .buildEnv run raises => system.buildEnv run raises
  | .reserve run => system.reserve run
  | .spawn run outcome => system.spawn run outcome
  | .unpublish run => system.unpublish run
  | .stopSampler run => system.stopSampler run
  | .dropHold run => system.dropHold run
  | .unlinkScripts run fault => system.unlinkScripts run fault
  | .removeOverrides run fault => system.removeOverrides run fault
  | .reap run => system.reap run
  | .readHeld run => system.readHeld run
  | .releaseQuiet run => system.releaseQuiet run
  | .clearLive run => system.clearLive run
  | .stopFinished run => system.stopFinished run
  | .tick run => system.tick run
  | .occupy => system.occupy
  | .vacate => system.vacate
  | .elapse seconds => system.quietly (.elapse seconds)
  | .setGate up => system.quietly (.setGate up)
  | .observe => system.quietly .observe
  | .reclaim => system.quietly .reclaim

/-- One step, and the book of what befell the hold. -/
def step (system : BenchSystem Run) (label : BenchStep Run) : BenchSystem Run :=
  (system.act isAlnum label).noteHold

end BenchSystem

end SmarTune
