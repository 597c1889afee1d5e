import SmarTune.Intercept.MaxPriorityQueue
import SmarTune.Library.Runs
import Mathlib.Data.Fintype.Basic

/-!
# Suspended launches

A low-priority app launched under critical pressure is stopped by the intercept
thread, queued, given its priority by the handle loop, queued again, and
continued by the monitor loop; a request may cancel it meanwhile.  A step is a
signal, a queue operation, or a stretch of code between two of these.

Processes are known by their PIDs: `alive`, `suspended` and `ours` are about
the process that has the PID at the moment.
-/

namespace SmarTune

/-- What is queued of a launch. -/
structure PendingApp where
  pid : ℕ
  appId : String
  appName : String
  deriving DecidableEq

/-- Where the intercept thread is. -/
inductive LaunchHand
  | idle
  /-- `SIGSTOP` was sent. -/
  | stopped (app : PendingApp)
  /-- `handle_monitored_app` has found the system busy. -/
  | announcing (app : PendingApp)
  | queuing (app : PendingApp)
  deriving DecidableEq

/-- Where the handle loop is. -/
inductive HandleHand
  | top
  | waiting
  | got (app : PendingApp)
  | rated (app : PendingApp) (priority : ℤ)
  | exited
  deriving DecidableEq

/-- The launches in the hand of the intercept thread. -/
def LaunchHand.apps : LaunchHand → List PendingApp
  | .idle => []
  | .stopped app => [app]
  | .announcing app => [app]
  | .queuing app => [app]

/-- The launches in the hand of the handle loop. -/
def HandleHand.apps : HandleHand → List PendingApp
  | .top => []
  | .waiting => []
  | .got app => [app]
  | .rated app _ => [app]
  | .exited => []

/-- The processes and the threads that suspend and resume them. -/
structure Suspension (Client : Type) where
  /-- `_system_critical`. -/
  critical : Bool
  isRunning : Bool
  /-- `shutdown` has returned. -/
  completed : Bool
  alive : ℕ → Bool
  /-- The service stopped the process, and has neither continued nor killed
  it. -/
  suspended : ℕ → Bool
  /-- The service has stopped the process at some time. -/
  ours : ℕ → Bool
  /-- `handled_processes`. -/
  handled : ℕ → Bool
  launch : LaunchHand
  /-- `app_pending_queue`. -/
  pending : List PendingApp
  hand : HandleHand
  /-- `app_priority_queue`. -/
  queue : MaxPriorityQueue PendingApp
  /-- The monitor loop has found the queue nonempty and is about to drain. -/
  draining : Bool
  /-- What `remove_if` has made of the queue it saw. -/
  removals : Client → Option (List (HeapEntry PendingApp) × List PendingApp)

/-- What can happen next. -/
inductive SuspensionStep (Client : Type)
  /-- The system enters or leaves the critical level. -/
  | setCritical (critical : Bool)
  /-- A process comes into being under a free PID. -/
  | spawn (pid : ℕ)
  /-- The process ends, not by the service's hand. -/
  | exit (pid : ℕ)
  /-- The deferred check of an exit finds the process gone. -/
  | forget (pid : ℕ)
  /-- A launch under critical pressure: `SIGSTOP`, which the kernel may refuse. -/
  | stop (app : PendingApp) (refused : Bool)
  /-- `handle_monitored_app` looks at the flag again. -/
  | recheck
  /-- The notification and `update_app_status`. -/
  | announce (raises : Bool)
  /-- `app_pending_queue.put`. -/
  | enqueue (raises : Bool)
  /-- The head of the handle loop. -/
  | loopTop
  /-- `app_pending_queue.get`. -/
  | dequeue
  /-- `queue.Empty`. -/
  | timeout
  /-- `get_app_priority` and `get_priority_value`, which may raise. -/
  | rate (priority : Option ℤ)
  /-- `app_priority_queue.put`. -/
  | requeue
  /-- The monitor loop looks whether the queue is empty. -/
  | look
  /-- `_drain_pending_app_queue`. -/
  | drain
  /-- The loop of `remove_if` for the app. -/
  | scan (client : Client) (appId : String)
  /-- The end of `remove_if`, and the `SIGKILL`s. -/
  | cancel (client : Client)
  /-- `shutdown` is called. -/
  | shutdown
  | shutdownDone

namespace Suspension

variable {Client : Type}

/-- The service starts; the processes are not its own. -/
def init (critical : Bool) (alive : ℕ → Bool) : Suspension Client where
  critical := critical
  isRunning := true
  completed := false
  alive := alive
  suspended := fun _ => false
  ours := fun _ => false
  handled := fun _ => false
  launch := .idle
  pending := []
  hand := .top
  queue := .empty
  draining := false
  removals := fun _ => none

/-! ## Signals -/

/-- `SIGSTOP` stops the process that has the PID. -/
def sigstop (system : Suspension Client) (pid : ℕ) : Suspension Client :=
  if system.alive pid then
    { system with
      suspended := Function.update system.suspended pid true
      ours := Function.update system.ours pid true }
  else system

/-- `SIGCONT` continues it. -/
def sigcont (system : Suspension Client) (pid : ℕ) : Suspension Client :=
  { system with suspended := Function.update system.suspended pid false }

def gone (system : Suspension Client) (pid : ℕ) : Suspension Client :=
  { system with
    alive := Function.update system.alive pid false
    suspended := Function.update system.suspended pid false }

/-! ## The intercept thread -/

/-- The end of `_handle_launch_event`. -/
def launched (system : Suspension Client)
    (app : PendingApp) : Suspension Client :=
  { system with
    launch := .idle
    handled := Function.update system.handled app.pid true }

/-- `_handle_launch_event` under critical pressure, for a process that is not
marked as handled; an error of `SIGSTOP` is only logged. -/
def stop (system : Suspension Client) (app : PendingApp)
    (refused : Bool) : Suspension Client :=
  if system.launch = .idle ∧ system.critical ∧ !system.handled app.pid then
    { (if refused then system else system.sigstop app.pid) with
      launch := .stopped app }
  else system

/-- `handle_monitored_app` up to its branch; the one for a recovered system
continues the process. -/
def recheck (system : Suspension Client) : Suspension Client :=
  match system.launch with
  | .stopped app =>
    if system.critical then { system with launch := .announcing app }
    else (system.sigcont app.pid).launched app
  | _ => system

/-- The notification and the status; an exception is only logged. -/
def announce (system : Suspension Client) (raises : Bool) : Suspension Client :=
  match system.launch with
  | .announcing app =>
    if raises then system.launched app
    else { system with launch := .queuing app }
  | _ => system

/-- `app_pending_queue.put`; an exception is only logged. -/
def enqueue (system : Suspension Client) (raises : Bool) : Suspension Client :=
  match system.launch with
  | .queuing app =>
    if raises then system.launched app
    else { system with pending := system.pending ++ [app] }.launched app
  | _ => system

/-! ## The handle loop -/

/-- `while self.is_running`. -/
def loopTop (system : Suspension Client) : Suspension Client :=
  if system.hand = .top then
    { system with hand := if system.isRunning then .waiting else .exited }
  else system

/-- `app_pending_queue.get`. -/
def dequeue (system : Suspension Client) : Suspension Client :=
  match system.hand, system.pending with
  | .waiting, app :: rest => { system with hand := .got app, pending := rest }
  | _, _ => system

/-- `except queue.Empty: continue`. -/
def timeout (system : Suspension Client) : Suspension Client :=
  if system.hand = .waiting then { system with hand := .top } else system

/-- The priority of the app; an exception is only logged. -/
def rate (system : Suspension Client)
    (priority : Option ℤ) : Suspension Client :=
  match system.hand with
  | .got app =>
    { system with
      hand := match priority with
        | some priority => .rated app priority
        | none => .top }
  | _ => system

/-- `app_priority_queue.put`. -/
def requeue (system : Suspension Client) : Suspension Client :=
  match system.hand with
  | .rated app priority =>
    { system with hand := .top, queue := system.queue.put app priority }
  | _ => system

/-! ## The monitor loop, requests and the shutdown -/

/-- `if not self.app_priority_queue.empty()`. -/
def look (system : Suspension Client) : Suspension Client :=
  if system.isRunning && !system.queue.items.isEmpty then
    { system with draining := true }
  else system

/-- `_drain_pending_app_queue`; the loop logs the exceptions. -/
def drain (system : Suspension Client) : Suspension Client :=
  if system.draining then
    match system.queue.get with
    | some (app, rest) =>
      { system with draining := false, queue := rest }.sigcont app.pid
    | none => { system with draining := false }
  else system

variable [DecidableEq Client]

/-- The loop of `remove_if`. -/
def scan (system : Suspension Client) (client : Client)
    (appId : String) : Suspension Client :=
  if (system.removals client).isNone then
    { system with
      removals := Function.update system.removals client
        (some (system.queue.partition fun app => app.appId = appId)) }
  else system

/-- `remove_if` replaces the queue, and `cancel_relaunch_by_app_id` kills. -/
def cancel (system : Suspension Client) (client : Client) : Suspension Client :=
  match system.removals client with
  | some (kept, removed) =>
    removed.foldl (fun system app => system.gone app.pid)
      { system with
        queue := system.queue.replace kept
        removals := Function.update system.removals client none }
  | none => system

def step (system : Suspension Client) :
    SuspensionStep Client → Suspension Client
  | .setCritical critical => { system with critical := critical }
  | .spawn pid =>
    if system.alive pid then system
    else
      { system with
        alive := Function.update system.alive pid true
        ours := Function.update system.ours pid false }
  | .exit pid => system.gone pid
  | .forget pid =>
    if system.alive pid then system
    else { system with handled := Function.update system.handled pid false }
  | .stop app refused => system.stop app refused
  | .recheck => system.recheck
  | .announce raises => system.announce raises
  | .enqueue raises => system.enqueue raises
  | .loopTop => system.loopTop
  | .dequeue => system.dequeue
  | .timeout => system.timeout
  | .rate priority => system.rate priority
  | .requeue => system.requeue
  | .look => system.look
  | .drain => system.drain
  | .scan client appId => system.scan client appId
  | .cancel client => system.cancel client
  | .shutdown => { system with isRunning := false }
  | .shutdownDone =>
    if system.isRunning then system else { system with completed := true }

/-! ## What the service owes -/

/-- The places that hold a launch. -/
def holders (system : Suspension Client) : List ℕ :=
  (system.launch.apps ++ system.pending ++ system.hand.apps ++
    system.queue.items).map PendingApp.pid

/-- The queues and the hand of the handle loop. -/
def queued (system : Suspension Client) : List ℕ :=
  (system.pending ++ system.hand.apps ++ system.queue.items).map PendingApp.pid

/-- No process is left suspended. -/
structure NoneLeft (system : Suspension Client) : Prop where
  /-- A suspended process whose launch is not being handled is in exactly one
  of the queues and the hand of the handle loop. -/
  held : ∀ pid, system.suspended pid = true →
    pid ∉ system.launch.apps.map PendingApp.pid → system.queued.count pid = 1
  /-- After the shutdown there is none. -/
  shut : system.completed = true → ∀ pid, system.suspended pid = false

/-- The PIDs to which a step sends `SIGCONT` or `SIGKILL`. -/
def signalled (system : Suspension Client) : SuspensionStep Client → List ℕ
  | .recheck =>
    match system.launch with
    | .stopped app => if system.critical then [] else [app.pid]
    | _ => []
  | .drain =>
    if system.draining then
      (system.queue.get.toList.map Prod.fst).map PendingApp.pid
    else []
  | .cancel client =>
    ((system.removals client).toList.flatMap Prod.snd).map PendingApp.pid
  | _ => []

/-- Only processes that the service stopped are continued or killed. -/
def SignalsOwn (system : Suspension Client)
    (label : SuspensionStep Client) : Prop :=
  ∀ pid ∈ system.signalled label, system.alive pid = true →
    system.ours pid = true

/-- No launch is lost on its way, the shutdown finds none under way, and no PID
is used again while a launch under it is held. -/
def LosesNone (system : Suspension Client) : SuspensionStep Client → Prop
  | .spawn pid => system.alive pid = false → pid ∉ system.holders
  | .stop app refused =>
    system.launch = .idle → system.critical = true →
      system.handled app.pid = false → system.alive app.pid = true →
        refused = false ∧ system.completed = false
  | .announce raises =>
    ∀ app ∈ system.launch.apps, system.launch = .announcing app →
      system.suspended app.pid = true → raises = false
  | .enqueue raises =>
    ∀ app ∈ system.launch.apps, system.launch = .queuing app →
      system.suspended app.pid = true → raises = false
  | .rate priority =>
    ∀ app ∈ system.hand.apps, system.hand = .got app →
      system.suspended app.pid = true → priority.isSome = true
  | .requeue =>
    ∀ app ∈ system.hand.apps, system.hand ≠ .got app →
      ∀ client, (system.removals client).isNone = true
  | .drain =>
    system.draining = true → ∀ client, (system.removals client).isNone = true
  | .scan _ _ => ∀ client, (system.removals client).isNone = true
  | .shutdownDone =>
    system.isRunning = false → ∀ pid ∈ system.holders,
      system.suspended pid = false
  | _ => True

instance [Fintype Client]
    (system : Suspension Client)
    (label : SuspensionStep Client) :
    Decidable (LosesNone system label) :=
  match label with
  | .spawn pid =>
    inferInstanceAs (Decidable
      (system.alive pid = false → pid ∉ system.holders))
  | .stop app refused =>
    inferInstanceAs (Decidable (system.launch = .idle → system.critical = true →
        system.handled app.pid = false → system.alive app.pid = true →
          refused = false ∧ system.completed = false))
  | .announce raises =>
    inferInstanceAs (Decidable
      (∀ app ∈ system.launch.apps, system.launch = .announcing app →
        system.suspended app.pid = true → raises = false))
  | .enqueue raises =>
    inferInstanceAs (Decidable
      (∀ app ∈ system.launch.apps, system.launch = .queuing app →
        system.suspended app.pid = true → raises = false))
  | .rate priority =>
    inferInstanceAs (Decidable
      (∀ app ∈ system.hand.apps, system.hand = .got app →
        system.suspended app.pid = true → priority.isSome = true))
  | .requeue =>
    inferInstanceAs (Decidable
      (∀ app ∈ system.hand.apps, system.hand ≠ .got app →
        ∀ client, (system.removals client).isNone = true))
  | .drain =>
    inferInstanceAs (Decidable (system.draining = true →
        ∀ client, (system.removals client).isNone = true))
  | .scan _ _ =>
    inferInstanceAs (Decidable
      (∀ client, (system.removals client).isNone = true))
  | .shutdownDone =>
    inferInstanceAs (Decidable
      (system.isRunning = false → ∀ pid ∈ system.holders,
        system.suspended pid = false))
  | .setCritical _ | .exit _ | .forget _ | .recheck | .loopTop | .dequeue
  | .timeout | .look | .cancel _ | .shutdown => .isTrue trivial

end Suspension

end SmarTune
