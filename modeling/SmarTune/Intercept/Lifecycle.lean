import SmarTune.Library.Runs
import Mathlib.Data.Finset.Basic

/-!
# Launches and exits of apps

The intercept thread tracks the processes of each app from exec events, and a
deferred check after an exit event tells that the app has stopped.  Requests
adopt running processes, and a scan at startup looks for more of them.  A
deferred check is cut into three steps, and the handling of an exit event into
two, since the two run on different threads.
-/

namespace SmarTune

/-- The statuses of an app. -/
inductive AppStatus
  | running
  | pending
  | limited
  | autoLimited
  | stopped
  deriving DecidableEq

def AppStatus.isUp : AppStatus → Bool
  | .stopped => false
  | _ => true

/-- Which way a launch goes through `_handle_launch_event`. -/
inductive LaunchPath
  /-- A critical app, or the system is not under critical pressure. -/
  | free
  /-- The system has recovered since `SIGSTOP`. -/
  | resumed
  /-- It has recovered, and `SIGCONT` raises. -/
  | vanished
  /-- The launch is queued. -/
  | queued
  deriving DecidableEq

/-- What the launch notifies; the first way does so for the first PID only. -/
def LaunchPath.status (first : Bool) : LaunchPath → Option AppStatus
  | .free => if first then some .running else none
  | .resumed => some .running
  | .vanished => none
  | .queued => some .pending

/-- Where a deferred check is. -/
inductive ExitTimer (App : Type)
  | unused
  | waiting (pid : ℕ) (app : App)
  /-- The process is gone, and the notification is made. -/
  | checked (pid : ℕ)
  /-- The PID is deleted from `monitored_app_launched`. -/
  | untracked (pid : ℕ)
  | done
  /-- `handle_exit_event` has raised. -/
  | raised
  deriving DecidableEq

/-- The tables of `AppIntercept`, and the processes. -/
structure AppTracker (App : Type) where
  alive : ℕ → Bool
  /-- A deferred check has found the process of the PID gone. -/
  exitChecked : ℕ → Bool
  /-- `monitored_app_launched`. -/
  launched : ℕ → Option App
  /-- `app_live_pids`; an app that is not in it has no PIDs. -/
  live : App → Finset ℕ
  /-- `handled_processes`. -/
  handled : ℕ → Bool
  /-- `pending_exit_events`. -/
  pendingExit : ℕ → Option ℕ
  timers : ℕ → ExitTimer App
  nextTimer : ℕ
  /-- The exit event that the intercept thread handles. -/
  exiting : Option ℕ
  /-- `detected_app_ids` of the startup scan. -/
  detected : App → Bool
  /-- The notifications, the latest first. -/
  sent : List (App × AppStatus)

/-- What can happen next. -/
inductive LifecycleStep (App : Type)
  /-- A process comes into being under a free PID. -/
  | spawn (pid : ℕ)
  /-- The process ends. -/
  | die (pid : ℕ)
  /-- An exec event; `psutil` may find no process of the PID, and the program
  may be none of a controlled app. -/
  | execEvent (pid : ℕ) (parents : Option (List ℕ)) (app : Option App)
      (path : LaunchPath)
  /-- The exit event of a thread: the PID is looked up. -/
  | exitEvent (pid : ℕ)
  /-- The timer before is cancelled, and a new one started. -/
  | schedule
  /-- The timer fires; `check_app_running_status` may be asked, and may raise. -/
  | fire (timer : ℕ) (runningNow : Option Bool)
  /-- `del self.monitored_app_launched[pid]`. -/
  | untrack (timer : ℕ)
  /-- `del self.pending_exit_events[pid]`. -/
  | unpend (timer : ℕ)
  /-- A request finds the app running and adopts its PIDs. -/
  | adopt (app : App) (pids : List ℕ)
  | scanStart
  /-- A process in the first pass of the scan. -/
  | scanProcess (pid : ℕ) (parents : Option (List ℕ)) (app : Option App)
      (persisted : Option AppStatus)
  /-- An app with `process_names` in the second pass. -/
  | scanReport (app : App) (runningNow : Bool) (persisted : Option AppStatus)

/-- `_prefer_persisted_limited_status`. -/
def preferPersistedLimitedStatus (persisted : Option AppStatus)
    (fallback : AppStatus) : AppStatus :=
  match persisted with
  | some .limited => .limited
  | some .autoLimited => .autoLimited
  | _ => fallback

namespace AppTracker

variable {App : Type} [DecidableEq App]

/-- The service starts. -/
def init (alive : ℕ → Bool) : AppTracker App where
  alive := alive
  exitChecked := fun _ => false
  launched := fun _ => none
  live := fun _ => ∅
  handled := fun _ => false
  pendingExit := fun _ => none
  timers := fun _ => .unused
  nextTimer := 0
  exiting := none
  detected := fun _ => false
  sent := []

/-- `send_callback_notification`, if there is something to tell. -/
def tell (system : AppTracker App)
    (app : App) : Option AppStatus → AppTracker App
  | some status => { system with sent := (app, status) :: system.sent }
  | none => system

/-- The PID is put into the three tables. -/
def register (system : AppTracker App) (pid : ℕ) (app : App) : AppTracker App :=
  { system with
    launched := Function.update system.launched pid (some app)
    handled := Function.update system.handled pid true
    live := Function.update system.live app (insert pid (system.live app)) }

/-- `is_process_handled`. -/
def isProcessHandled (system : AppTracker App)
    (pid : ℕ) : Option (List ℕ) → Bool
  | some parents => (pid :: parents).any system.handled
  | none => false

/-- `print_event` for an exec event. -/
def execEvent (system : AppTracker App) (pid : ℕ) (parents : Option (List ℕ))
    (path : LaunchPath) : Option App → AppTracker App
  | some app =>
    if system.exiting.isNone && !system.isProcessHandled pid parents then
      (system.register pid app).tell app (path.status (system.live app = ∅))
    else system
  | none => system

/-- `print_event` for an exit event, the lookup. -/
def exitEvent (system : AppTracker App) (pid : ℕ) : AppTracker App :=
  if system.exiting.isNone && (system.launched pid).isSome then
    { system with exiting := some pid }
  else system

/-- `Timer.cancel`; it does nothing to a timer that has fired. -/
def cancelTimer (system : AppTracker App) (timer : ℕ) : AppTracker App :=
  match system.timers timer with
  | .waiting _ _ =>
    { system with timers := Function.update system.timers timer .done }
  | _ => system

/-- `print_event` for an exit event, the rest; a PID that is not in the table
any more raises. -/
def schedule (system : AppTracker App) : AppTracker App :=
  match system.exiting with
  | some pid =>
    let system := match system.pendingExit pid with
      | some timer => system.cancelTimer timer
      | none => system
    match system.launched pid with
    | some app =>
      { system with
        timers :=
          Function.update system.timers system.nextTimer (.waiting pid app)
        pendingExit :=
          Function.update system.pendingExit pid (some system.nextTimer)
        nextTimer := system.nextTimer + 1
        exiting := none }
    | none => { system with exiting := none }
  | none => system

/-- `handle_exit_event` up to the notification. -/
def fire (system : AppTracker App) (timer : ℕ)
    (runningNow : Option Bool) : AppTracker App :=
  match system.timers timer with
  | .waiting pid app =>
    if system.alive pid then
      { system with timers := Function.update system.timers timer .done }
    else
      let rest := (system.live app).erase pid
      let stillRunning := rest ≠ ∅ ∧ runningNow ≠ some false
      { system with
        handled := Function.update system.handled pid false
        exitChecked := Function.update system.exitChecked pid true
        live := Function.update system.live app
          (if stillRunning then rest else ∅)
        timers := Function.update system.timers timer
          (.checked pid) }.tell app
            (if stillRunning then none else some .stopped)
  | _ => system

/-- The deletion from `monitored_app_launched` raises if the PID is not in
it. -/
def untrack (system : AppTracker App) (timer : ℕ) : AppTracker App :=
  match system.timers timer with
  | .checked pid =>
    match system.launched pid with
    | some _ =>
      { system with
        launched := Function.update system.launched pid none
        timers := Function.update system.timers timer (.untracked pid) }
    | none =>
      { system with timers := Function.update system.timers timer .raised }
  | _ => system

/-- The end of `handle_exit_event`. -/
def unpend (system : AppTracker App) (timer : ℕ) : AppTracker App :=
  match system.timers timer with
  | .untracked pid =>
    { system with
      pendingExit := Function.update system.pendingExit pid none
      timers := Function.update system.timers timer .done }
  | _ => system

/-- The loop of `register_running_pids`. -/
def adoptPid (app : App) (system : AppTracker App) (pid : ℕ) : AppTracker App :=
  if (system.launched pid).isSome then system else system.register pid app

/-- `register_running_pids`, and the notification that its callers send. -/
def adopt (system : AppTracker App) (app : App)
    (pids : List ℕ) : AppTracker App :=
  (pids.foldl (adoptPid app) system).tell app (some .running)

/-- The first pass of `scan_already_running_apps`, for one process. -/
def scanProcess (system : AppTracker App) (pid : ℕ) (parents : Option (List ℕ))
    (persisted : Option AppStatus) : Option App → AppTracker App
  | some app =>
    if (system.launched pid).isSome || system.handled pid ||
        system.isProcessHandled pid parents then system
    else
      { (system.register pid app).tell app
          (if system.live app = ∅ then
            some (preferPersistedLimitedStatus persisted .running)
          else none) with
        detected := Function.update system.detected app true }
  | none => system

/-- The second pass, for one app. -/
def scanReport (system : AppTracker App) (app : App) (runningNow : Bool)
    (persisted : Option AppStatus) : AppTracker App :=
  if system.detected app then system
  else system.tell app (some
    (if runningNow then preferPersistedLimitedStatus persisted .running
    else .stopped))

def step (system : AppTracker App) : LifecycleStep App → AppTracker App
  | .spawn pid =>
    if system.alive pid then system
    else
      { system with
        alive := Function.update system.alive pid true
        exitChecked := Function.update system.exitChecked pid false }
  | .die pid => { system with alive := Function.update system.alive pid false }
  | .execEvent pid parents app path => system.execEvent pid parents path app
  | .exitEvent pid => system.exitEvent pid
  | .schedule => system.schedule
  | .fire timer runningNow => system.fire timer runningNow
  | .untrack timer => system.untrack timer
  | .unpend timer => system.unpend timer
  | .adopt app pids => system.adopt app pids
  | .scanStart => { system with detected := fun _ => false }
  | .scanProcess pid parents app persisted =>
    system.scanProcess pid parents persisted app
  | .scanReport app runningNow persisted =>
    system.scanReport app runningNow persisted

/-! ## What the notifications owe -/

/-- The notifications of the app, the latest first. -/
def notices (system : AppTracker App) (app : App) : List AppStatus :=
  (system.sent.filter fun notice => notice.1 = app).map Prod.snd

/-- The latest notification of the app says that it is up. -/
def toldUp (system : AppTracker App) (app : App) : Bool :=
  (system.notices app).head?.any AppStatus.isUp

/-- The notifications tell the lifecycle of every app. -/
structure LifecycleTold (system : AppTracker App) : Prop where
  /-- Launched and stopped follow one another. -/
  alternates : ∀ app, (system.notices app).IsChain
    fun later earlier => later.isUp ≠ earlier.isUp
  /-- An app of which launched was the last word has a process that no deferred
  check has found gone. -/
  stopsTold : ∀ app, system.toldUp app = true →
    ∃ pid, system.launched pid = some app ∧ system.exitChecked pid = false
  /-- No deferred check raises. -/
  unraised : ∀ timer, system.timers timer ≠ .raised

/-- Stopped is sent only when no process tracked under the app is alive. -/
def StopsDead (system : AppTracker App) (label : LifecycleStep App) : Prop :=
  ∀ app, (system.step label).sent = (app, .stopped) :: system.sent →
    ∀ pid, system.launched pid = some app → system.alive pid = false

/-- A launch joins the live PIDs of its app without a second notification. -/
def LaunchPath.Joins (path : LaunchPath) (live : Finset ℕ) : Prop :=
  match path with
  | .free => True
  | .resumed => live = ∅
  | .vanished => live ≠ ∅
  | .queued => live = ∅

instance (path : LaunchPath) (live : Finset ℕ) :
    Decidable (LaunchPath.Joins path live) :=
  match path with
  | .free => .isTrue trivial
  | .resumed => inferInstanceAs (Decidable (live = ∅))
  | .vanished => inferInstanceAs (Decidable (live ≠ ∅))
  | .queued => inferInstanceAs (Decidable (live = ∅))

/-- The process that the timer waits for is gone. -/
def firesFor (system : AppTracker App) (timer : ℕ) : Option (ℕ × App) :=
  match system.timers timer with
  | .waiting pid app => if system.alive pid then none else some (pid, app)
  | _ => none

/-- The step keeps the tables in line with one another. -/
def InLine (system : AppTracker App) : LifecycleStep App → Prop
  | .spawn pid =>
    system.alive pid = false → (system.launched pid).isNone = true ∧
      ∀ timer < system.nextTimer, system.timers timer ≠ .untracked pid
  | .execEvent pid parents app path =>
    system.exiting.isNone = true → system.isProcessHandled pid parents = false →
        ∀ own ∈ app, system.exitChecked pid = false ∧
          (∀ other ∈ system.launched pid, other = own) ∧
            LaunchPath.Joins path (system.live own)
  | .schedule =>
    ∀ pid ∈ system.exiting,
      ∀ timer < system.nextTimer, system.timers timer ≠ .checked pid
  | .fire timer runningNow =>
    ∀ gone ∈ system.firesFor timer,
      (system.live gone.2).erase gone.1 ≠ ∅ → runningNow ≠ some false
  | .adopt app pids =>
    system.live app = ∅ ∧ (∃ pid ∈ pids, (system.launched pid).isNone = true) ∧
        ∀ pid ∈ pids, system.exitChecked pid = false
  | .scanProcess pid _ _ _ => system.exitChecked pid = false
  | .scanReport app runningNow _ =>
    system.detected app = false → runningNow = false ∧ system.live app = ∅ ∧
        (system.notices app).isEmpty = true
  | _ => True

instance (system : AppTracker App) (label : LifecycleStep App) :
    Decidable (InLine system label) :=
  match label with
  | .spawn pid =>
    inferInstanceAs (Decidable
      (system.alive pid = false → (system.launched pid).isNone = true ∧
        ∀ timer < system.nextTimer, system.timers timer ≠ .untracked pid))
  | .execEvent pid parents app path =>
    inferInstanceAs (Decidable (system.exiting.isNone = true →
        system.isProcessHandled pid parents = false →
          ∀ own ∈ app, system.exitChecked pid = false ∧
            (∀ other ∈ system.launched pid, other = own) ∧
              LaunchPath.Joins path (system.live own)))
  | .schedule =>
    inferInstanceAs (Decidable (∀ pid ∈ system.exiting,
        ∀ timer < system.nextTimer, system.timers timer ≠ .checked pid))
  | .fire timer runningNow =>
    inferInstanceAs (Decidable (∀ gone ∈ system.firesFor timer,
        (system.live gone.2).erase gone.1 ≠ ∅ → runningNow ≠ some false))
  | .adopt app pids =>
    inferInstanceAs (Decidable (system.live app = ∅ ∧
        (∃ pid ∈ pids, (system.launched pid).isNone = true) ∧
          ∀ pid ∈ pids, system.exitChecked pid = false))
  | .scanProcess pid _ _ _ =>
    inferInstanceAs (Decidable (system.exitChecked pid = false))
  | .scanReport app runningNow _ =>
    inferInstanceAs (Decidable (system.detected app = false →
        runningNow = false ∧ system.live app = ∅ ∧
          (system.notices app).isEmpty = true))
  | .die _ | .exitEvent _ | .untrack _ | .unpend _ | .scanStart =>
    .isTrue trivial

end AppTracker

end SmarTune
