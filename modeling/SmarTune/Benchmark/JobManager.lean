import SmarTune.Library.Runs
import Mathlib.Data.List.DropRight

/-!
# The job manager

`start`, the reaper of each job and any number of `cancel` calls, interleaved.
A step is a section under the manager's lock, one access to the fields of a job,
or one system call.  Once the process of a job has been waited for, its pid and
its process group may be gone, may be left to other members, or may belong to
someone else: what a signal meets there is up to the system.
-/

namespace SmarTune

/-- `STATUS_RUNNING`, `STATUS_DONE`, `STATUS_FAILED` and `STATUS_CANCELLED`. -/
inductive JobStatus
  | running
  | done
  | failed
  | cancelled
  deriving DecidableEq

/-- Where `start`, and then the reaper, is with a job. -/
inductive JobStage
  | fresh
  /-- The slot is taken and there is no process. -/
  | reserved
  /-- `Popen` has raised. -/
  | failed
  /-- `start` has raised. -/
  | refused
  | spawned
  | announced
  /-- The reaper runs. -/
  | watched
  | waited (rc : ℤ)
  | recorded
  | finished
  deriving DecidableEq

namespace JobStage

/-- The slot is the job's. -/
def live : JobStage → Bool
  | .reserved | .failed | .spawned | .announced | .watched | .waited _ => true
  | .fresh | .refused | .recorded | .finished => false

/-- The job has a terminal status. -/
def isOver : JobStage → Bool
  | .recorded | .finished => true
  | _ => false

end JobStage

/-- The process of a job. -/
inductive JobProcess
  | none
  | running
  | zombie (rc : ℤ)
  | reaped (rc : ℤ)
  deriving DecidableEq

/-- Whether the process has been waited for. -/
def JobProcess.gone : JobProcess → Bool
  | .reaped _ => true
  | _ => false

/-- How a `cancel` call ended. -/
inductive CancelAnswer
  | returned (value : Bool)
  /-- `getpgid` has raised `ProcessLookupError`. -/
  | raised
  deriving DecidableEq

/-- `Job`, with what its listeners heard and its cancel calls answered. -/
structure JobRecord (Id : Type*) where
  id : Option Id := none
  stage : JobStage := .fresh
  process : JobProcess := .none
  status : JobStatus := .running
  returncode : Option ℤ := none
  cancelled : Bool := false
  announced : List JobStatus := []
  answers : List CancelAnswer := []

/-- What a `cancel` call does next. -/
inductive CancelPoint
  | readStatus
  | readProcess
  | mark
  | getpgid
  | killpg
  deriving DecidableEq

/-- The call has marked the job and has not been answered. -/
def CancelPoint.signals : CancelPoint → Bool
  | .getpgid | .killpg => true
  | _ => false

/-- A `cancel` call that has found its job. -/
structure CancelCall where
  job : ℕ
  point : CancelPoint
  deriving DecidableEq

/-- `JobManager`, its jobs numbered as they are made, all that entered its
history, and the `cancel` calls under way. -/
structure JobManager (Id Caller : Type*) where
  current : Option ℕ
  made : ℕ
  jobs : ℕ → JobRecord Id
  entered : List ℕ
  calls : Caller → Option CancelCall

/-- What can happen next. -/
inductive JobStep (Id Caller : Type*)
  | start (id : Id)
  | spawn (job : ℕ) (succeeds : Bool)
  | release (job : ℕ)
  | announceStart (job : ℕ)
  | watch (job : ℕ)
  | exit (job : ℕ) (rc : ℤ)
  /-- Whoever waits for the process collects it. -/
  | collect (job : ℕ)
  | wait (job : ℕ)
  | record (job : ℕ)
  | announceEnd (job : ℕ)
  | cancel (caller : Caller) (id : Id)
  /-- One access of a `cancel` call.  When the process is gone, `found` tells
  whether its pid or its process group is found all the same. -/
  | proceed (caller : Caller) (found : Bool)

variable {Id Caller : Type*}

namespace JobRecord

/-- `Popen`. -/
def spawn (job : JobRecord Id) (succeeds : Bool) : JobRecord Id :=
  if job.stage = .reserved then
    if succeeds then { job with stage := .spawned, process := .running }
    else { job with stage := .failed }
  else job

/-- `_notify` in `start`. -/
def announceStart (job : JobRecord Id) : JobRecord Id :=
  if job.stage = .spawned then
    { job with stage := .announced, announced := job.announced ++ [job.status] }
  else job

/-- The reaper is started. -/
def watch (job : JobRecord Id) : JobRecord Id :=
  if job.stage = .announced then { job with stage := .watched } else job

/-- The process ends, by itself or by a signal. -/
def exit (job : JobRecord Id) (rc : ℤ) : JobRecord Id :=
  if job.process = .running then { job with process := .zombie rc } else job

/-- The reaper waits for the process, and so does `_escalate` once a signal
was sent. -/
def collect (job : JobRecord Id) : JobRecord Id :=
  match job.process with
  | .zombie rc =>
    if job.stage = .watched ∨ .returned true ∈ job.answers then
      { job with process := .reaped rc }
    else job
  | _ => job

/-- `wait` returns in the reaper. -/
def wait (job : JobRecord Id) : JobRecord Id :=
  match job.stage, job.process with
  | .watched, .reaped rc => { job with stage := .waited rc }
  | _, _ => job

/-- The reaper's section under the lock, as far as it is about the job. -/
def record (job : JobRecord Id) (rc : ℤ) : JobRecord Id :=
  { job with
    stage := .recorded
    returncode := some rc
    status :=
      if job.cancelled then .cancelled else if rc = 0 then .done else .failed }

/-- `_notify` in the reaper. -/
def announceEnd (job : JobRecord Id) : JobRecord Id :=
  if job.stage = .recorded then
    { job with stage := .finished, announced := job.announced ++ [job.status] }
  else job

/-- A `cancel` call is answered. -/
def answer (job : JobRecord Id) (given : CancelAnswer) : JobRecord Id :=
  { job with answers := job.answers ++ [given] }

/-- The job has ended as done or failed. -/
def settled (job : JobRecord Id) : Bool :=
  job.stage.isOver && job.status ≠ .cancelled

end JobRecord

namespace JobManager

/-- No job has been made. -/
def init : JobManager Id Caller where
  current := none
  made := 0
  jobs := fun _ => {}
  entered := []
  calls := fun _ => none

def modify (manager : JobManager Id Caller) (job : ℕ)
    (change : JobRecord Id → JobRecord Id) : JobManager Id Caller :=
  { manager with
    jobs := Function.update manager.jobs job (change (manager.jobs job)) }

@[simp] theorem jobs_modify (manager : JobManager Id Caller) (job : ℕ)
    (change : JobRecord Id → JobRecord Id) :
    (manager.modify job change).jobs job = change (manager.jobs job) := by
  simp [modify]

/-- `_HISTORY_LIMIT`. -/
def historyLimit : ℕ := 20

/-- `get`: the current job, else the first of the last ones that ended. -/
def get [DecidableEq Id] (manager : JobManager Id Caller) (id : Id) : Option ℕ :=
  (manager.current.toList ++ manager.entered.rtake historyLimit).find? fun job =>
    (manager.jobs job).id = some id

section Step

variable [DecidableEq Caller]

/-- A call goes on to another access. -/
def goto (manager : JobManager Id Caller) (caller : Caller)
    (call : Option CancelCall) : JobManager Id Caller :=
  { manager with calls := Function.update manager.calls caller call }

/-- A call ends. -/
def answer (manager : JobManager Id Caller) (caller : Caller) (job : ℕ)
    (given : CancelAnswer) : JobManager Id Caller :=
  (manager.modify job (·.answer given)).goto caller none

/-- One access of a `cancel` call. -/
def proceed (manager : JobManager Id Caller) (caller : Caller)
    (found : Bool) : JobManager Id Caller :=
  match manager.calls caller with
  | none => manager
  | some call =>
    let job := manager.jobs call.job
    match call.point with
    | .readStatus =>
      if job.status = .running then
        manager.goto caller (some { call with point := .readProcess })
      else manager.answer caller call.job (.returned false)
    | .readProcess =>
      if job.process = .none then
        manager.answer caller call.job (.returned false)
      else manager.goto caller (some { call with point := .mark })
    | .mark =>
      (manager.modify call.job ({ · with cancelled := true })).goto caller
        (some { call with point := .getpgid })
    | .getpgid =>
      if job.process.gone && !found then
        manager.answer caller call.job .raised
      else manager.goto caller (some { call with point := .killpg })
    | .killpg =>
      manager.answer caller call.job (.returned !(job.process.gone && !found))

variable [DecidableEq Id]

def step (manager : JobManager Id Caller) :
    JobStep Id Caller → JobManager Id Caller
  | .start id =>
    match manager.current with
    | some _ => manager
    | none =>
      { manager with
        current := some manager.made
        made := manager.made + 1
        jobs := Function.update manager.jobs manager.made
          { id := some id, stage := .reserved } }
  | .spawn job succeeds => manager.modify job (·.spawn succeeds)
  | .release job =>
    if (manager.jobs job).stage = .failed then
      { manager.modify job ({ · with stage := .refused }) with
        current := none }
    else manager
  | .announceStart job => manager.modify job (·.announceStart)
  | .watch job => manager.modify job (·.watch)
  | .exit job rc => manager.modify job (·.exit rc)
  | .collect job => manager.modify job (·.collect)
  | .wait job => manager.modify job (·.wait)
  | .record job =>
    match (manager.jobs job).stage with
    | .waited rc =>
      { manager.modify job (·.record rc) with
        current :=
          if manager.current = some job then none else manager.current
        entered := manager.entered ++ [job] }
    | _ => manager
  | .announceEnd job => manager.modify job (·.announceEnd)
  | .cancel caller id =>
    match manager.calls caller with
    | some _ => manager
    | none =>
      manager.goto caller ((manager.get id).map fun job => ⟨job, .readStatus⟩)
  | .proceed caller found => manager.proceed caller found

end Step

end JobManager

/-! ## One job -/

namespace JobRecord

/-- The job has the status that its exit code and its mark call for. -/
def Ended (job : JobRecord Id) : Prop :=
  ∃ rc, job.process = .reaped rc ∧ job.returncode = some rc ∧
    (job.status = .cancelled ∧ job.cancelled = true ∨
      job.status = if rc = 0 then .done else .failed)

/-- What is known of a job, and what was announced of it, where it is. -/
def Orderly (job : JobRecord Id) : Prop :=
  match job.stage with
  | .fresh | .reserved | .failed | .refused =>
    job.process = .none ∧ job.status = .running ∧ job.announced = []
  | .spawned => job.process ≠ .none ∧ job.status = .running ∧ job.announced = []
  | .announced | .watched =>
    job.process ≠ .none ∧ job.status = .running ∧ job.announced = [.running]
  | .waited rc =>
    job.process = .reaped rc ∧ job.status = .running ∧
      job.announced = [.running]
  | .recorded => job.Ended ∧ job.announced = [.running]
  | .finished => job.Ended ∧ job.announced = [.running, job.status]

/-- The step leaves the slot, the end and the making of a job as they are. -/
structure KeepsPlace (before after : JobRecord Id) : Prop where
  orderly : after.Orderly
  live : after.stage.live = before.stage.live
  isOver : after.stage.isOver = before.stage.isOver
  fresh : after.stage = .fresh ↔ before.stage = .fresh

section Steps

variable {job : JobRecord Id} (orderly : job.Orderly)
include orderly

theorem keepsPlace_refl : KeepsPlace job job := ⟨orderly, rfl, rfl, Iff.rfl⟩

theorem keepsPlace_spawn (succeeds : Bool) :
    KeepsPlace job (job.spawn succeeds) := by
  unfold spawn
  split
  · rename_i here
    simp only [Orderly, here] at orderly
    cases succeeds <;> constructor <;>
      simp [Orderly, here, orderly, JobStage.live, JobStage.isOver]
  · exact keepsPlace_refl orderly

theorem keepsPlace_announceStart : KeepsPlace job job.announceStart := by
  unfold announceStart
  split
  · rename_i here
    simp only [Orderly, here] at orderly
    constructor <;> simp [Orderly, here, orderly, JobStage.live, JobStage.isOver]
  · exact keepsPlace_refl orderly

theorem keepsPlace_watch : KeepsPlace job job.watch := by
  unfold watch
  split
  · rename_i here
    simp only [Orderly, here] at orderly
    constructor <;> simp [Orderly, here, orderly, JobStage.live, JobStage.isOver]
  · exact keepsPlace_refl orderly

theorem keepsPlace_announceEnd : KeepsPlace job job.announceEnd := by
  unfold announceEnd
  split
  · rename_i here
    simp only [Orderly, here] at orderly
    refine ⟨⟨orderly.1, ?_⟩, ?_, ?_, ?_⟩ <;>
      simp [here, orderly, JobStage.live, JobStage.isOver]
  · exact keepsPlace_refl orderly

/-- A process that goes on from one state to another. -/
theorem keepsPlace_process {process : JobProcess}
    (born : job.process ≠ .none ∧ process ≠ .none)
    (runs : job.process.gone = false) :
    KeepsPlace job { job with process } := by
  refine ⟨?_, rfl, rfl, Iff.rfl⟩
  unfold Orderly at orderly ⊢
  cases here : job.stage with
  | fresh | reserved | failed | refused =>
    simp only [here] at orderly
    exact absurd orderly.1 born.1
  | spawned | announced | watched =>
    simp only [here] at orderly
    exact ⟨born.2, orderly.2⟩
  | waited rc =>
    simp only [here] at orderly
    simp [orderly.1, JobProcess.gone] at runs
  | recorded | finished =>
    simp only [here] at orderly
    obtain ⟨⟨rc, gone, _⟩, _⟩ := orderly
    simp [gone, JobProcess.gone] at runs

theorem keepsPlace_exit (rc : ℤ) : KeepsPlace job (job.exit rc) := by
  unfold exit
  split
  · rename_i running
    exact keepsPlace_process orderly (by simp [running])
      (by simp [running, JobProcess.gone])
  · exact keepsPlace_refl orderly

theorem keepsPlace_collect : KeepsPlace job job.collect := by
  unfold collect
  split
  · rename_i rc zombie
    split
    · exact keepsPlace_process orderly (by simp [zombie])
        (by simp [zombie, JobProcess.gone])
    · exact keepsPlace_refl orderly
  · exact keepsPlace_refl orderly

theorem keepsPlace_wait : KeepsPlace job job.wait := by
  unfold wait
  split
  · rename_i rc here reaped
    simp only [Orderly, here] at orderly
    constructor <;>
      simp [Orderly, here, orderly, reaped, JobStage.live, JobStage.isOver]
  · exact keepsPlace_refl orderly

theorem keepsPlace_mark : KeepsPlace job { job with cancelled := true } := by
  refine ⟨?_, rfl, rfl, Iff.rfl⟩
  unfold Orderly at orderly ⊢
  cases here : job.stage with
  | fresh | reserved | failed | refused | spawned | announced | watched
  | waited rc => simpa only [here] using orderly
  | recorded | finished =>
    simp only [here] at orderly
    obtain ⟨⟨rc, gone, returned, outcome⟩, heard⟩ := orderly
    refine ⟨⟨rc, gone, returned, ?_⟩, heard⟩
    rcases outcome with ⟨status, _⟩ | ended
    · exact .inl ⟨status, rfl⟩
    · exact .inr ended

theorem keepsPlace_answer (given : CancelAnswer) :
    KeepsPlace job (job.answer given) :=
  ⟨orderly, rfl, rfl, Iff.rfl⟩

theorem orderly_refuse (here : job.stage = .failed) :
    ({ job with stage := .refused } : JobRecord Id).Orderly := by
  simpa only [Orderly, here] using orderly

theorem orderly_record {rc : ℤ} (here : job.stage = .waited rc) :
    (job.record rc).Orderly := by
  simp only [Orderly, here] at orderly
  refine ⟨⟨rc, orderly.1, rfl, ?_⟩, orderly.2.2⟩
  cases marked : job.cancelled <;> simp [record, marked]

end Steps

/-- The reaper's section under the lock, once it is reached. -/
def reap (job : JobRecord Id) : JobRecord Id :=
  match job.stage with
  | .waited rc => job.record rc
  | _ => job

/-- What is left to do for a job whose process has ended. -/
def settle (job : JobRecord Id) : JobRecord Id :=
  job.announceStart.watch.collect.wait.reap.announceEnd

theorem settle_finished {job : JobRecord Id} {rc : ℤ} (orderly : job.Orderly)
    (ended : job.process = .zombie rc ∨ job.process = .reaped rc) :
    job.settle.stage = .finished := by
  unfold Orderly at orderly
  cases here : job.stage with
  | fresh | reserved | failed | refused =>
    simp only [here] at orderly
    rcases ended with ended | ended <;> simp [orderly.1] at ended
  | spawned | announced | watched =>
    rcases ended with ended | ended <;>
      simp [settle, announceStart, watch, collect, wait, reap, record,
        announceEnd, here, ended]
  | waited rc =>
    simp only [here] at orderly
    simp [settle, announceStart, watch, collect, wait, reap, record,
      announceEnd, here, orderly.1]
  | recorded | finished =>
    simp only [here] at orderly
    obtain ⟨⟨rc, reaped, _⟩, _⟩ := orderly
    simp [settle, announceStart, watch, collect, wait, reap, announceEnd,
      here, reaped]

/-- The step is not one of a `cancel` call and does not end the job. -/
structure KeepsMarks (before after : JobRecord Id) : Prop where
  status : after.status = before.status
  cancelled : after.cancelled = before.cancelled
  answers : after.answers = before.answers

theorem keepsMarks_spawn (job : JobRecord Id) (succeeds : Bool) :
    KeepsMarks job (job.spawn succeeds) := by
  unfold spawn
  repeat' split
  all_goals exact ⟨rfl, rfl, rfl⟩

theorem keepsMarks_announceStart (job : JobRecord Id) :
    KeepsMarks job job.announceStart := by
  unfold announceStart
  split <;> exact ⟨rfl, rfl, rfl⟩

theorem keepsMarks_watch (job : JobRecord Id) : KeepsMarks job job.watch := by
  unfold watch
  split <;> exact ⟨rfl, rfl, rfl⟩

theorem keepsMarks_exit (job : JobRecord Id) (rc : ℤ) :
    KeepsMarks job (job.exit rc) := by
  unfold exit
  split <;> exact ⟨rfl, rfl, rfl⟩

theorem keepsMarks_collect (job : JobRecord Id) :
    KeepsMarks job job.collect := by
  unfold collect
  repeat' split
  all_goals exact ⟨rfl, rfl, rfl⟩

theorem keepsMarks_wait (job : JobRecord Id) : KeepsMarks job job.wait := by
  unfold wait
  split <;> exact ⟨rfl, rfl, rfl⟩

theorem keepsMarks_announceEnd (job : JobRecord Id) :
    KeepsMarks job job.announceEnd := by
  unfold announceEnd
  split <;> exact ⟨rfl, rfl, rfl⟩

end JobRecord

/-! ## All jobs -/

namespace JobManager

/-- The slot is that of the one job that is live, and a job enters the history
once, when it is over. -/
structure Orderly (manager : JobManager Id Caller) : Prop where
  jobs : ∀ job, (manager.jobs job).Orderly
  current : ∀ job,
    (manager.jobs job).stage.live = true ↔ manager.current = some job
  entered : ∀ job, manager.entered.count job =
    if (manager.jobs job).stage.isOver = true then 1 else 0
  made : ∀ job, (manager.jobs job).stage = .fresh ↔ manager.made ≤ job

variable {manager : JobManager Id Caller}

theorem orderly_init : (init : JobManager Id Caller).Orderly where
  jobs := fun _ => ⟨rfl, rfl, rfl⟩
  current := fun _ => by simp [init, JobStage.live]
  entered := fun _ => by simp [init, JobStage.isOver]
  made := fun _ => by simp [init]

theorem Orderly.modify (orderly : manager.Orderly) {job : ℕ}
    {change : JobRecord Id → JobRecord Id}
    (keeps : JobRecord.KeepsPlace (manager.jobs job)
      (change (manager.jobs job))) :
    (manager.modify job change).Orderly := by
  have pointwise : ∀ other, JobRecord.KeepsPlace (manager.jobs other)
        ((manager.modify job change).jobs other) := by
    intro other
    by_cases same : other = job
    · subst same
      simpa [JobManager.modify] using keeps
    · simpa [JobManager.modify, same] using
        JobRecord.keepsPlace_refl (orderly.jobs other)
  constructor
  · exact fun other => (pointwise other).orderly
  · intro other
    rw [(pointwise other).live]
    exact orderly.current other
  · intro other
    rw [(pointwise other).isOver]
    exact orderly.entered other
  · intro other
    rw [(pointwise other).fresh]
    exact orderly.made other

theorem Orderly.of_calls (orderly : manager.Orderly)
    (calls : Caller → Option CancelCall) :
    ({ manager with calls } : JobManager Id Caller).Orderly :=
  ⟨orderly.jobs, orderly.current, orderly.entered, orderly.made⟩

theorem Orderly.start (orderly : manager.Orderly)
    (idle : manager.current = none) (id : Id) :
    ({ manager with
        current := some manager.made
        made := manager.made + 1
        jobs := Function.update manager.jobs manager.made
          { id := some id, stage := .reserved } } :
      JobManager Id Caller).Orderly := by
  have fresh := (orderly.made manager.made).mpr le_rfl
  constructor <;> intro job <;> by_cases same : job = manager.made
  · subst same
    simp [JobRecord.Orderly]
  · simpa [same] using orderly.jobs job
  · subst same
    simp [JobStage.live]
  · have others := orderly.current job
    simp only [idle] at others
    simp [same, others, Ne.symm same]
  · subst same
    have none := orderly.entered manager.made
    simpa [fresh, JobStage.isOver] using none
  · simpa [same] using orderly.entered job
  · subst same
    simp
  · have others := orderly.made job
    simp only [Function.update_of_ne same, others]
    omega

theorem Orderly.release (orderly : manager.Orderly) {job : ℕ}
    (here : (manager.jobs job).stage = .failed) :
    ({ manager.modify job ({ · with stage := .refused }) with
        current := none } : JobManager Id Caller).Orderly := by
  have holder := (orderly.current job).mp (by rw [here]; rfl)
  constructor <;> intro other <;> by_cases same : other = job
  · subst same
    simpa [JobManager.modify] using
      JobRecord.orderly_refuse (orderly.jobs other) here
  · simpa [JobManager.modify, same] using orderly.jobs other
  · subst same
    simp [JobManager.modify, JobStage.live]
  · have others := orderly.current other
    rw [holder] at others
    simp [JobManager.modify, same, others, Ne.symm same]
  · subst same
    have none := orderly.entered other
    simpa [JobManager.modify, here, JobStage.isOver] using none
  · simpa [JobManager.modify, same] using orderly.entered other
  · subst same
    simpa [JobManager.modify, here] using orderly.made other
  · simpa [JobManager.modify, same] using orderly.made other

theorem Orderly.record (orderly : manager.Orderly) {job : ℕ} {rc : ℤ}
    (here : (manager.jobs job).stage = .waited rc) :
    ({ manager.modify job (·.record rc) with
        current := if manager.current = some job then none else manager.current
        entered := manager.entered ++ [job] } :
      JobManager Id Caller).Orderly := by
  have holder := (orderly.current job).mp (by rw [here]; rfl)
  constructor <;> intro other <;> by_cases same : other = job
  · subst same
    simpa [JobManager.modify] using
      JobRecord.orderly_record (orderly.jobs other) here
  · simpa [JobManager.modify, same] using orderly.jobs other
  · subst same
    simp [JobManager.modify, holder, JobRecord.record, JobStage.live]
  · have others := orderly.current other
    rw [holder] at others
    simp [JobManager.modify, holder, same, others, Ne.symm same]
  · subst same
    have none := orderly.entered other
    simpa [JobManager.modify, here, JobRecord.record, JobStage.isOver] using none
  · simpa [JobManager.modify, same, Ne.symm same] using orderly.entered other
  · subst same
    simpa [JobManager.modify, here, JobRecord.record] using orderly.made other
  · simpa [JobManager.modify, same] using orderly.made other

section Step

variable [DecidableEq Caller]

theorem Orderly.answer (orderly : manager.Orderly) (caller : Caller) (job : ℕ)
    (given : CancelAnswer) :
    (manager.answer caller job given).Orderly :=
  (orderly.modify
    (JobRecord.keepsPlace_answer (orderly.jobs job) given)).of_calls _

variable [DecidableEq Id]

end Step

/-! ## Cancelled jobs -/

/-- A job that is over, with its cancel calls answered, is cancelled exactly
when one of them returned `True`. -/
def CancelsAnswered (manager : JobManager Id Caller) : Prop :=
  ∀ job, (manager.jobs job).stage = .finished →
    (∀ caller, ∀ call ∈ manager.calls caller, call.job ≠ job) →
      ((manager.jobs job).status = .cancelled ↔
        .returned true ∈ (manager.jobs job).answers)

/-- A call that has marked its job and finds the process gone is refused only
when another call returned `True` or the job has ended as done or failed, and
is taken only when the job has not. -/
def SignalsDecide (manager : JobManager Id Caller) : JobStep Id Caller → Prop
  | .proceed caller found =>
    ∀ call ∈ manager.calls caller, call.point.signals = true →
      (manager.jobs call.job).process.gone = true →
        if found = true then
          call.point = .killpg → (manager.jobs call.job).settled = false
        else
          .returned true ∈ (manager.jobs call.job).answers ∨
            (manager.jobs call.job).settled = true
  | _ => True

instance (manager : JobManager Id Caller) (label : JobStep Id Caller) :
    Decidable (manager.SignalsDecide label) :=
  match label with
  | .proceed caller _ =>
    inferInstanceAs (Decidable (∀ call ∈ manager.calls caller, _ → _ → _))
  | .start _ | .spawn _ _ | .release _ | .announceStart _ | .watch _
  | .exit _ _ | .collect _ | .wait _ | .record _ | .announceEnd _
  | .cancel _ _ => .isTrue trivial

/-- Marks come from calls that returned `True` or are still to be answered. -/
structure Marked (manager : JobManager Id Caller) : Prop where
  orderly : manager.Orderly
  known : ∀ caller call, manager.calls caller = some call →
    (manager.jobs call.job).stage ≠ .fresh
  signalling : ∀ caller call, manager.calls caller = some call →
    call.point.signals = true → (manager.jobs call.job).cancelled = true
  granted : ∀ job, .returned true ∈ (manager.jobs job).answers →
    (manager.jobs job).cancelled = true ∧ (manager.jobs job).settled = false
  owed : ∀ job, (manager.jobs job).cancelled = true →
    (manager.jobs job).settled = false →
      .returned true ∈ (manager.jobs job).answers ∨
        ∃ caller call, manager.calls caller = some call ∧ call.job = job ∧
          call.point.signals = true

theorem marked_init : (init : JobManager Id Caller).Marked where
  orderly := orderly_init
  known := fun _ _ found => nomatch found
  signalling := fun _ _ found => nomatch found
  granted := fun _ given => nomatch given
  owed := fun _ marked => nomatch marked

theorem gone_of_over {job : JobRecord Id} (orderly : job.Orderly)
    (isOver : job.stage.isOver = true) :
    job.process.gone = true := by
  unfold JobRecord.Orderly at orderly
  cases here : job.stage with
  | recorded | finished =>
    rw [here] at orderly
    obtain ⟨⟨rc, reaped, _⟩, _⟩ := orderly
    rw [reaped]
    rfl
  | fresh | reserved | failed | refused | spawned | announced | watched
  | waited rc => simp [here, JobStage.isOver] at isOver

theorem cancelled_of_status {job : JobRecord Id} (orderly : job.Orderly)
    (isOver : job.stage.isOver = true) (status : job.status = .cancelled) :
    job.cancelled = true := by
  unfold JobRecord.Orderly at orderly
  cases here : job.stage with
  | recorded | finished =>
    rw [here] at orderly
    obtain ⟨⟨rc, _, _, outcome⟩, _⟩ := orderly
    rcases outcome with ⟨_, marked⟩ | ended
    · exact marked
    · rw [status] at ended
      split at ended <;> cases ended
  | fresh | reserved | failed | refused | spawned | announced | watched
  | waited rc => simp [here, JobStage.isOver] at isOver

/-- Where the marks of a job fit, its calls are answered as its status says. -/
theorem Marked.cancelsAnswered (marked : manager.Marked) :
    manager.CancelsAnswered := by
  intro job here answered
  have isOver : (manager.jobs job).stage.isOver = true := by rw [here]; rfl
  constructor
  · intro status
    have mark := cancelled_of_status (marked.orderly.jobs job) isOver status
    have open_ : (manager.jobs job).settled = false := by
      simp [JobRecord.settled, status]
    rcases marked.owed job mark open_ with
      given | ⟨caller, call, found, own, _⟩
    · exact given
    · exact absurd own (answered caller call found)
  · intro given
    have open_ := (marked.granted job given).2
    simpa [JobRecord.settled, isOver] using open_

/-- A step of a job that is not one of a call and does not end it. -/
theorem Marked.modify (marked : manager.Marked) {job : ℕ}
    {change : JobRecord Id → JobRecord Id}
    (place : JobRecord.KeepsPlace (manager.jobs job)
      (change (manager.jobs job)))
    (marks : JobRecord.KeepsMarks (manager.jobs job)
      (change (manager.jobs job))) :
    (manager.modify job change).Marked := by
  have pointwise : ∀ other, ((manager.modify job change).jobs other).cancelled =
          (manager.jobs other).cancelled ∧
        ((manager.modify job change).jobs other).answers =
          (manager.jobs other).answers ∧
        ((manager.modify job change).jobs other).settled =
          (manager.jobs other).settled := by
    intro other
    by_cases same : other = job
    · subst same
      simp [JobManager.modify, JobRecord.settled, place.isOver, marks.status,
        marks.cancelled, marks.answers]
    · simp [JobManager.modify, same]
  refine ⟨marked.orderly.modify place, ?_, ?_, ?_, ?_⟩
  · intro caller call found
    have known := marked.known caller call found
    by_cases same : call.job = job
    · subst same
      simpa [JobManager.modify, place.fresh] using known
    · simpa [JobManager.modify, same] using known
  · intro caller call found signals
    rw [(pointwise call.job).1]
    exact marked.signalling caller call found signals
  · intro other given
    rw [(pointwise other).2.1] at given
    rw [(pointwise other).1, (pointwise other).2.2]
    exact marked.granted other given
  · intro other mark open_
    rw [(pointwise other).1] at mark
    rw [(pointwise other).2.2] at open_
    rw [(pointwise other).2.1]
    exact marked.owed other mark open_

theorem Marked.start (marked : manager.Marked) (idle : manager.current = none)
    (id : Id) :
    ({ manager with
        current := some manager.made
        made := manager.made + 1
        jobs := Function.update manager.jobs manager.made
          { id := some id, stage := .reserved } } :
      JobManager Id Caller).Marked := by
  have fresh := (marked.orderly.made manager.made).mpr le_rfl
  have apart : ∀ caller call, manager.calls caller = some call →
      call.job ≠ manager.made := by
    intro caller call found same
    exact marked.known caller call found (same ▸ fresh)
  refine ⟨marked.orderly.start idle id, ?_, ?_, ?_, ?_⟩
  · intro caller call found
    simpa only [Function.update_of_ne (apart caller call found)] using
      marked.known caller call found
  · intro caller call found signals
    simpa only [Function.update_of_ne (apart caller call found)] using
      marked.signalling caller call found signals
  · intro job given
    by_cases same : job = manager.made
    · subst same
      simp at given
    · simp only [Function.update_of_ne same] at given ⊢
      exact marked.granted job given
  · intro job mark open_
    by_cases same : job = manager.made
    · subst same
      simp at mark
    · simp only [Function.update_of_ne same] at mark open_ ⊢
      exact marked.owed job mark open_

theorem Marked.record (marked : manager.Marked) {job : ℕ} {rc : ℤ}
    (here : (manager.jobs job).stage = .waited rc) :
    ({ manager.modify job (·.record rc) with
        current := if manager.current = some job then none else manager.current
        entered := manager.entered ++ [job] } :
      JobManager Id Caller).Marked := by
  refine ⟨marked.orderly.record here, ?_, ?_, ?_, ?_⟩
  · intro caller call found
    have known := marked.known caller call found
    by_cases same : call.job = job
    · subst same
      simp [JobManager.modify, JobRecord.record]
    · simpa [JobManager.modify, same] using known
  · intro caller call found signals
    have mark := marked.signalling caller call found signals
    by_cases same : call.job = job
    · subst same
      simpa [JobManager.modify, JobRecord.record] using mark
    · simpa [JobManager.modify, same] using mark
  · intro other given
    by_cases same : other = job
    · subst same
      have mark := (marked.granted other
        (by simpa [JobManager.modify, JobRecord.record] using given)).1
      simp [JobManager.modify, JobRecord.record, JobRecord.settled, mark]
    · simp only [JobManager.modify, Function.update_of_ne same] at given ⊢
      exact marked.granted other given
  · intro other mark open_
    by_cases same : other = job
    · subst same
      have kept : (manager.jobs other).cancelled = true := by
        simpa [JobManager.modify, JobRecord.record] using mark
      have before : (manager.jobs other).settled = false := by
        simp [JobRecord.settled, here, JobStage.isOver]
      simpa [JobManager.modify, JobRecord.record] using
        marked.owed other kept before
    · simp only [JobManager.modify, Function.update_of_ne same] at mark open_ ⊢
      exact marked.owed other mark open_

theorem Marked.release (marked : manager.Marked) {job : ℕ}
    (here : (manager.jobs job).stage = .failed) :
    ({ manager.modify job ({ · with stage := .refused }) with
        current := none } : JobManager Id Caller).Marked := by
  refine ⟨marked.orderly.release here, ?_, ?_, ?_, ?_⟩
  · intro caller call found
    have known := marked.known caller call found
    by_cases same : call.job = job
    · subst same
      simp [JobManager.modify]
    · simpa [JobManager.modify, same] using known
  · intro caller call found signals
    have mark := marked.signalling caller call found signals
    by_cases same : call.job = job
    · subst same
      simpa [JobManager.modify] using mark
    · simpa [JobManager.modify, same] using mark
  · intro other given
    have granted := marked.granted other
    by_cases same : other = job
    · subst same
      simp only [JobManager.modify, Function.update_self] at given ⊢
      exact ⟨(granted given).1, rfl⟩
    · simp only [JobManager.modify, Function.update_of_ne same] at given ⊢
      exact granted given
  · intro other mark open_
    by_cases same : other = job
    · subst same
      simp only [JobManager.modify, Function.update_self] at mark ⊢
      exact marked.owed other mark
        (by simp [JobRecord.settled, here, JobStage.isOver])
    · simp only [JobManager.modify, Function.update_of_ne same] at mark open_ ⊢
      exact marked.owed other mark open_

theorem get_made [DecidableEq Id] (orderly : manager.Orderly) {id : Id}
    {job : ℕ} (found : manager.get id = some job) :
    (manager.jobs job).stage ≠ .fresh := by
  intro fresh
  rcases List.mem_append.mp (List.mem_of_find?_eq_some found) with
    now | before
  · have live := (orderly.current job).mpr (by simpa using now)
    rw [fresh] at live
    cases live
  · have entered := List.count_pos_iff.mpr (List.mem_of_mem_drop before)
    rw [orderly.entered, fresh] at entered
    cases entered

section Step

variable [DecidableEq Caller]

theorem Marked.goto (marked : manager.Marked) {caller : Caller}
    {next : Option CancelCall}
    (idle : ∀ call, manager.calls caller = some call →
      call.point.signals = false)
    (known : ∀ call, next = some call →
      (manager.jobs call.job).stage ≠ .fresh ∧ call.point.signals = false) :
    (manager.goto caller next).Marked := by
  refine ⟨marked.orderly.of_calls _, ?_, ?_, marked.granted, ?_⟩
  · intro other call found
    by_cases same : other = caller
    · subst same
      exact (known call (by simpa [JobManager.goto] using found)).1
    · exact marked.known other call
        (by simpa [JobManager.goto, same] using found)
  · intro other call found signals
    by_cases same : other = caller
    · subst same
      rw [(known call (by simpa [JobManager.goto] using found)).2] at signals
      cases signals
    · exact marked.signalling other call
        (by simpa [JobManager.goto, same] using found) signals
  · intro job mark open_
    rcases marked.owed job mark open_ with
      given | ⟨other, call, found, own, signals⟩
    · exact .inl given
    · refine .inr ⟨other, call, ?_, own, signals⟩
      have same : other ≠ caller := by
        rintro rfl
        rw [idle call found] at signals
        cases signals
      simpa [JobManager.goto, same] using found

theorem Marked.answer (marked : manager.Marked) {caller : Caller}
    {call : CancelCall} {given : CancelAnswer}
    (found : manager.calls caller = some call)
    (granted : given = .returned true →
      (manager.jobs call.job).cancelled = true ∧
        (manager.jobs call.job).settled = false)
    (owed : call.point.signals = true →
      (manager.jobs call.job).settled = false →
        .returned true ∈ (manager.jobs call.job).answers ++ [given]) :
    (manager.answer caller call.job given).Marked := by
  refine ⟨marked.orderly.answer caller call.job given, ?_, ?_, ?_, ?_⟩
  · intro other next open_
    have apart : other ≠ caller := by
      rintro rfl
      simp [JobManager.answer, JobManager.goto] at open_
    have known := marked.known other next
      (by simpa [JobManager.answer, JobManager.goto, JobManager.modify, apart]
        using open_)
    by_cases same : next.job = call.job
    · rw [same] at known ⊢
      simpa [JobManager.answer, JobManager.goto, JobRecord.answer] using known
    · simpa [JobManager.answer, JobManager.goto, JobManager.modify, same]
        using known
  · intro other next open_ signals
    have apart : other ≠ caller := by
      rintro rfl
      simp [JobManager.answer, JobManager.goto] at open_
    have mark := marked.signalling other next
      (by simpa [JobManager.answer, JobManager.goto, JobManager.modify, apart]
        using open_) signals
    by_cases same : next.job = call.job
    · rw [same] at mark ⊢
      simpa [JobManager.answer, JobManager.goto, JobRecord.answer] using mark
    · simpa [JobManager.answer, JobManager.goto, JobManager.modify, same]
        using mark
  · intro job member
    by_cases same : job = call.job
    · subst same
      simp only [JobManager.answer, JobManager.goto, JobManager.modify,
        Function.update_self, JobRecord.answer, List.mem_append,
        List.mem_singleton] at member ⊢
      rcases member with earlier | now
      · exact marked.granted call.job earlier
      · exact granted now.symm
    · simp only [JobManager.answer, JobManager.goto, JobManager.modify,
        Function.update_of_ne same] at member ⊢
      exact marked.granted job member
  · intro job mark open_
    by_cases same : job = call.job
    · subst same
      simp only [JobManager.answer, JobManager.goto, JobManager.modify,
        Function.update_self, JobRecord.answer] at mark open_ ⊢
      rcases marked.owed call.job mark open_ with
        earlier | ⟨other, next, going, own, signals⟩
      · exact .inl (List.mem_append_left _ earlier)
      · by_cases same : other = caller
        · subst same
          cases found.symm.trans going
          exact .inl (owed signals open_)
        · refine .inr ⟨other, next, ?_, own, signals⟩
          rw [Function.update_of_ne same]
          exact going
    · simp only [JobManager.answer, JobManager.goto, JobManager.modify,
        Function.update_of_ne same] at mark open_ ⊢
      rcases marked.owed job mark open_ with
        earlier | ⟨other, next, going, own, signals⟩
      · exact .inl earlier
      · refine .inr ⟨other, next, ?_, own, signals⟩
        have apart : other ≠ caller := by
          rintro rfl
          cases found.symm.trans going
          exact same own.symm
        rw [Function.update_of_ne apart]
        exact going

theorem Marked.signal (marked : manager.Marked) {caller : Caller}
    {call : CancelCall} (found : manager.calls caller = some call)
    (signals : call.point.signals = true) :
    (manager.goto caller (some { call with point := .killpg })).Marked := by
  refine ⟨marked.orderly.of_calls _, ?_, ?_, marked.granted, ?_⟩
  · intro other next going
    by_cases same : other = caller
    · subst same
      simp only [JobManager.goto, Function.update_self,
        Option.some.injEq] at going
      subst going
      exact marked.known other call found
    · exact marked.known other next
        (by simpa [JobManager.goto, same] using going)
  · intro other next going _
    by_cases same : other = caller
    · subst same
      simp only [JobManager.goto, Function.update_self,
        Option.some.injEq] at going
      subst going
      exact marked.signalling other call found signals
    · exact marked.signalling other next
        (by simpa [JobManager.goto, same] using going) ‹_›
  · intro job mark open_
    rcases marked.owed job mark open_ with
      given | ⟨other, next, going, own, still⟩
    · exact .inl given
    · by_cases same : other = caller
      · subst same
        cases found.symm.trans going
        exact .inr ⟨other, { call with point := .killpg },
          by simp [JobManager.goto], own, rfl⟩
      · exact .inr ⟨other, next,
          by simpa [JobManager.goto, same] using going, own, still⟩

theorem Marked.mark (marked : manager.Marked) {caller : Caller}
    {call : CancelCall} (found : manager.calls caller = some call) :
    ((manager.modify call.job ({ · with cancelled := true })).goto caller
      (some { call with point := .getpgid })).Marked := by
  refine ⟨(marked.orderly.modify
    (JobRecord.keepsPlace_mark (marked.orderly.jobs call.job))).of_calls _,
    ?_, ?_, ?_, ?_⟩
  · intro other next going
    have known : (manager.jobs next.job).stage ≠ .fresh := by
      by_cases same : other = caller
      · subst same
        simp only [JobManager.goto, Function.update_self,
          Option.some.injEq] at going
        subst going
        exact marked.known other call found
      · exact marked.known other next
          (by simpa [JobManager.goto, JobManager.modify, same] using going)
    by_cases own : next.job = call.job
    · rw [own] at known ⊢
      simpa [JobManager.goto, JobManager.modify] using known
    · simpa [JobManager.goto, JobManager.modify, own] using known
  · intro other next going signals
    by_cases own : next.job = call.job
    · simp [JobManager.goto, JobManager.modify, own]
    · have apart : other ≠ caller := by
        rintro rfl
        simp only [JobManager.goto, Function.update_self,
          Option.some.injEq] at going
        subst going
        exact own rfl
      have mark := marked.signalling other next
        (by simpa [JobManager.goto, JobManager.modify, apart] using going)
        signals
      simpa [JobManager.goto, JobManager.modify, own] using mark
  · intro job given
    by_cases same : job = call.job
    · subst same
      simp only [JobManager.goto, JobManager.modify,
        Function.update_self] at given ⊢
      exact ⟨trivial, (marked.granted call.job given).2⟩
    · simp only [JobManager.goto, JobManager.modify,
        Function.update_of_ne same] at given ⊢
      exact marked.granted job given
  · intro job mark open_
    by_cases same : job = call.job
    · exact .inr ⟨caller, { call with point := .getpgid },
        by simp [JobManager.goto], same.symm, rfl⟩
    · simp only [JobManager.goto, JobManager.modify,
        Function.update_of_ne same] at mark open_ ⊢
      rcases marked.owed job mark open_ with
        earlier | ⟨other, next, going, own, signals⟩
      · exact .inl earlier
      · refine .inr ⟨other, next, ?_, own, signals⟩
        have apart : other ≠ caller := by
          rintro rfl
          cases found.symm.trans going
          exact same own.symm
        rw [Function.update_of_ne apart]
        exact going

/-- One access of a call keeps the marks fitting when the signals decide. -/
theorem Marked.proceed (marked : manager.Marked) {caller : Caller}
    {found : Bool}
    (decides : manager.SignalsDecide (.proceed caller found : JobStep Id Caller)) :
    (manager.proceed caller found).Marked := by
  unfold JobManager.proceed
  cases going : manager.calls caller with
  | none => exact marked
  | some call =>
    have known := marked.known caller call going
    have decide_ := decides call going
    obtain ⟨job, point⟩ := call
    cases point with
    | readStatus =>
      dsimp only
      split
      · refine marked.goto ?_ ?_
        · intro other same
          cases going.symm.trans same
          rfl
        · intro next same
          cases same
          exact ⟨known, rfl⟩
      · exact marked.answer going nofun nofun
    | readProcess =>
      dsimp only
      split
      · exact marked.answer going nofun nofun
      · refine marked.goto ?_ ?_
        · intro other same
          cases going.symm.trans same
          rfl
        · intro next same
          cases same
          exact ⟨known, rfl⟩
    | mark => exact marked.mark going
    | getpgid =>
      dsimp only
      split
      · rename_i refused
        refine marked.answer going nofun ?_
        intro _ open_
        simp only [Bool.and_eq_true, Bool.not_eq_true'] at refused
        obtain ⟨gone, rfl⟩ := refused
        exact List.mem_append_left _
          ((decide_ rfl gone).resolve_right (by simp [open_]))
      · exact marked.signal going rfl
    | killpg =>
      refine marked.answer going ?_ ?_
      · intro taken
        refine ⟨marked.signalling caller _ going rfl, ?_⟩
        cases gone : (manager.jobs job).process.gone with
        | false =>
          have going_on : (manager.jobs job).stage.isOver = false := by
            by_contra isOver
            have ended := gone_of_over (marked.orderly.jobs job)
              (by simpa using isOver)
            simp [gone] at ended
          simp [JobRecord.settled, going_on]
        | true =>
          cases found with
          | false => simp [gone] at taken
          | true => exact decide_ rfl gone rfl
      · intro _ open_
        cases gone : (manager.jobs job).process.gone with
        | false => simp
        | true =>
          cases found with
          | false =>
            exact List.mem_append_left _
              ((decide_ rfl gone).resolve_right (by simp [open_]))
          | true => simp

variable [DecidableEq Id]

theorem Marked.step (marked : manager.Marked) {label : JobStep Id Caller}
    (decides : manager.SignalsDecide label) :
    (manager.step label).Marked := by
  have jobs := marked.orderly.jobs
  cases label with
  | start id =>
    simp only [JobManager.step]
    split
    · exact marked
    · rename_i idle
      exact marked.start idle id
  | spawn job succeeds =>
    exact marked.modify (JobRecord.keepsPlace_spawn (jobs job) succeeds)
      (JobRecord.keepsMarks_spawn _ succeeds)
  | release job =>
    simp only [JobManager.step]
    split
    · rename_i here
      exact marked.release here
    · exact marked
  | announceStart job =>
    exact marked.modify (JobRecord.keepsPlace_announceStart (jobs job))
      (JobRecord.keepsMarks_announceStart _)
  | watch job =>
    exact marked.modify (JobRecord.keepsPlace_watch (jobs job))
      (JobRecord.keepsMarks_watch _)
  | exit job rc =>
    exact marked.modify (JobRecord.keepsPlace_exit (jobs job) rc)
      (JobRecord.keepsMarks_exit _ rc)
  | collect job =>
    exact marked.modify (JobRecord.keepsPlace_collect (jobs job))
      (JobRecord.keepsMarks_collect _)
  | wait job =>
    exact marked.modify (JobRecord.keepsPlace_wait (jobs job))
      (JobRecord.keepsMarks_wait _)
  | record job =>
    simp only [JobManager.step]
    split
    · rename_i rc here
      exact marked.record here
    · exact marked
  | announceEnd job =>
    exact marked.modify (JobRecord.keepsPlace_announceEnd (jobs job))
      (JobRecord.keepsMarks_announceEnd _)
  | cancel caller id =>
    simp only [JobManager.step]
    split
    · exact marked
    · rename_i idle
      refine marked.goto ?_ ?_
      · intro call found
        rw [idle] at found
        cases found
      · intro call found
        obtain ⟨job, made, rfl⟩ := Option.map_eq_some_iff.mp found
        exact ⟨get_made marked.orderly made, rfl⟩
  | proceed caller found => exact marked.proceed decides

/-- What `start` and the reaper still do for a job whose process has ended. -/
def settle (job : ℕ) : List (JobStep Id Caller) :=
  [.announceStart job, .watch job, .collect job, .wait job, .record job,
    .announceEnd job]

/-- A job whose process has ended is finished by its threads. -/
def Settles (manager : JobManager Id Caller) : Prop :=
  ∀ job rc, (manager.jobs job).process = .zombie rc ∨
      (manager.jobs job).process = .reaped rc →
    ((Runs.run step manager (settle job)).jobs job).stage = .finished

theorem jobs_settle (manager : JobManager Id Caller) (job : ℕ) :
    (Runs.run step manager (settle job)).jobs job =
      (manager.jobs job).settle := by
  have recorded : ∀ manager : JobManager Id Caller,
      (manager.step (.record job)).jobs job = (manager.jobs job).reap := by
    intro manager
    simp only [step, JobRecord.reap]
    split <;> simp [modify]
  change ((step ((((manager.modify job (·.announceStart)).modify job
    (·.watch)).modify job (·.collect)).modify job (·.wait))
    (.record job)).modify job (·.announceEnd)).jobs job = _
  simp only [jobs_modify, recorded]
  rfl

theorem Orderly.settles (orderly : manager.Orderly) : manager.Settles := by
  intro job rc ended
  rw [jobs_settle]
  exact JobRecord.settle_finished (orderly.jobs job) ended

/-- In every run one job at a time is live, and each is announced as running
and then, with the status that it ends with, once, and enters the history once.
If the signals decide as well, it is cancelled exactly when a call said so. -/
theorem jobs_end_as_answered {steps : List (JobStep Id Caller)}
    (decide_ : Runs.EveryStep step SignalsDecide init steps) :
    Runs.EveryPrefix step (fun manager : JobManager Id Caller =>
        manager.Orderly ∧ manager.Settles ∧ manager.CancelsAnswered)
      init steps :=
  Runs.everyPrefix_of_invariant Marked
    (fun _ _ marked decides => marked.step decides)
    (fun _ marked =>
      ⟨marked.orderly, marked.orderly.settles, marked.cancelsAnswered⟩)
    marked_init decide_

end Step

def started : List (JobStep ℕ Unit) :=
  [.start 7, .spawn 0 true, .announceStart 0, .watch 0]

/-- A `cancel` call in full. -/
def cancelling (found : Bool) : List (JobStep ℕ Unit) :=
  .cancel () 7 :: List.replicate 5 (.proceed () found)

theorem jobs_end_as_answered_witness :
    Runs.EveryPrefix step (fun manager : JobManager ℕ Unit =>
        manager.Orderly ∧ manager.Settles ∧ manager.CancelsAnswered)
      init (started ++ cancelling false ++ .exit 0 (-15) :: settle 0) := by
  refine jobs_end_as_answered ?_
  decide

/-- A job is cancelled while its reaper, which has waited for the process, has
yet to record how it ended. -/
def cancelledLate : JobManager ℕ Unit :=
  Runs.run step init
    (started ++ [.exit 0 0, .collect 0, .wait 0] ++ cancelling false ++
      [.record 0, .announceEnd 0])

/-- The call raises, and the job ends as cancelled. -/
theorem refused_cancel_ends_cancelled : ¬ cancelledLate.CancelsAnswered := by
  intro answered
  have idle : cancelledLate.calls () = none := by decide
  have given := (answered 0 (by decide) ?_).mp (by decide)
  · revert given
    decide
  · intro caller call going
    rw [idle] at going
    cases going

end JobManager

end SmarTune
