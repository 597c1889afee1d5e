import SmarTune.Balancer.Operations

/-!
# The threads of the service

The limit operations as the threads run them.  A step of a thread is a lock
acquisition, a section under the registry lock, one kernel write, or a stretch
of code between two of these.  Limits hold `operation_lock` throughout.  The
manual restore and the reaper hold the registry lock while they forget entries
and write without it; the shutdown sweep writes under it; an auto entry is
stored without it.  Staged restores and freezes are not among the operations,
and control events other than those of a recorded limit are not followed.
-/

namespace SmarTune

/-- The threads that work on limits. -/
inductive ThreadId
  /-- `_run_monitor_resource_loop`: auto limits and the reaper. -/
  | monitor
  /-- A thread serving a REST call. -/
  | rest (client : Nat)
  /-- The thread that shuts the service down. -/
  | main
  deriving DecidableEq, Repr

/-- A `set_resource_limit` call, numbered, with the environment's answers to
the install and to the deferred disk cap. -/
structure LimitCall where
  ticket : Nat
  request : LimitRequest
  outcomes : InstallOutcomes
  late : Nat → IoCallOutcome

/-- An `_apply_resource_limits` call, numbered. -/
structure ApplyCall where
  ticket : Nat
  target : Candidate
  appId : CgroupId
  limitRates : LimitRates
  isControlled : Bool
  isDiskIoStressed : Bool
  pressureLevel : String
  outcomes : Balancer.ApplyOutcomes

/-- Where a thread is. -/
inductive Phase
  | idle
  /-- Kernel writes, then the next phase. -/
  | writing (writes : List KernelWrite) (next : Phase)
  /-- The end of an operation, or of its part under `operation_lock`. -/
  | leave (next : Phase)
  | limitEnter (call : LimitCall)
  | limitCheck (call : LimitCall)
  | limitCpuMem (call : LimitCall) (plan : InstallPlan)
  | limitIo (call : LimitCall) (plan : InstallPlan) (attempted : LimitParts)
      (resourceLimited : Bool)
  | limitRegister (call : LimitCall) (plan : InstallPlan)
      (attempted limitParts : LimitParts) (deferred : Option DeferredIo)
  /-- The reclaim runs, or waits for `operation_lock` after it. -/
  | deferredEnter (call : LimitCall) (item : DeferredIo)
  | deferredLookup (call : LimitCall) (item : DeferredIo)
  | deferredRecord (call : LimitCall) (item : DeferredIo) (accepted : Bool)
  | restorePop (appId : String) (outcomes : Balancer.ManualRestoreOutcomes)
  | reapPop (closed : CgroupId → Bool)
      (outcomes : CgroupId → Balancer.EntryOutcomes)
  | applyEnter (call : ApplyCall)
  | applyCheck (call : ApplyCall)
  | applyYield (call : ApplyCall)
  | applyYielded (call : ApplyCall) (key : CgroupId) (left : Option LimitedApp)
  | applyLimit (call : ApplyCall)
  | applyRecord (call : ApplyCall)
  | stop (outcomes : CgroupId → Balancer.EntryOutcomes)
  | sweepEnter (outcomes : CgroupId → Balancer.EntryOutcomes)
  | sweep (keys : List CgroupId) (outcomes : CgroupId → Balancer.EntryOutcomes)

/-- The writes a thread is about to make. -/
def Phase.pending : Phase → List KernelWrite
  | .writing writes _ => writes
  | _ => []

/-! ## One step of a thread -/

/-- What a thread sees and changes in one step. -/
structure Turn where
  balancer : Balancer
  operationLock : Option ThreadId
  registryLock : Option ThreadId
  /-- Ghost: the operation that created the entry under a key. -/
  creator : CgroupId → Option Nat
  phase : Phase
  /-- Ghost: the writes of the operation that no entry records yet. -/
  unrecorded : List KernelWrite

namespace Turn

/-- Take `operation_lock` or wait for it. -/
def enter (turn : Turn) (thread : ThreadId) (next : Phase) : Turn :=
  if turn.operationLock.isNone then
    { turn with operationLock := some thread, phase := next }
  else turn

/-- A section under the registry lock waits while another thread holds it. -/
def underRegistryLock (turn after : Turn) : Turn :=
  if turn.registryLock.isNone then after else turn

/-- Go on without a write and without a change of the registry. -/
def goto (turn : Turn) (next : Phase) : Turn := { turn with phase := next }

def write (turn : Turn) (write : KernelWrite) (writes : List KernelWrite)
    (next : Phase) : Turn :=
  { turn with
    balancer := turn.balancer.writes [write]
    unrecorded := turn.unrecorded ++ [write]
    phase := .writing writes next }

/-- End an operation and release the lock it may hold. -/
def finish (turn : Turn) (thread : ThreadId) (next : Phase) : Turn :=
  { turn with
    operationLock := if turn.operationLock = some thread then none
      else turn.operationLock
    unrecorded := []
    phase := next }

/-- The ownership check of an install and its plan. -/
def limitCheck (turn : Turn) (call : LimitCall) : Turn :=
  match turn.balancer.installPlan call.request call.outcomes with
  | .error _ => turn.goto (.leave .idle)
  | .ok plan => turn.goto (.limitCpuMem call plan)

/-- `is_running` is read and the CPU/memory caps are decided. -/
def limitCpuMem (turn : Turn) (call : LimitCall) (plan : InstallPlan) : Turn :=
  let running := turn.balancer.isRunning
  let result := plan.cpuMem running call.outcomes
  turn.goto (.writing result.2 (.limitIo call plan
    ⟨plan.attemptsCpuMem running, plan.attemptsIo running⟩ result.1))

/-- `is_running` is read again and the disk caps are decided or held back. -/
def limitIo (turn : Turn) (call : LimitCall) (plan : InstallPlan)
    (attempted : LimitParts) (resourceLimited : Bool) : Turn :=
  let running := turn.balancer.isRunning
  let result := plan.io running resourceLimited call.outcomes
  turn.goto (.writing result.2 (.limitRegister call plan attempted
    ⟨resourceLimited, result.1⟩
    (plan.deferred call.request running resourceLimited)))

/-- What follows an install: the deferred disk cap, if there is one. -/
def afterInstall (call : LimitCall) : Option DeferredIo → Phase
  | none => .idle
  | some item => .deferredEnter call item

/-- The entry of an install is stored. -/
def limitRegister (turn : Turn) (call : LimitCall) (plan : InstallPlan)
    (attempted limitParts : LimitParts) (deferred : Option DeferredIo) : Turn :=
  if limitParts.any then
    { turn with
      balancer := turn.balancer.registerManual call.request plan limitParts
        ⟨attempted.cpuMemLimited && !limitParts.cpuMemLimited,
          attempted.ioLimited && deferred.isNone && !limitParts.ioLimited⟩
        call.outcomes.now
      creator := Function.update turn.creator plan.primary (some call.ticket)
      unrecorded := []
      phase := .leave (afterInstall call deferred) }
  else turn.goto (.leave (afterInstall call deferred))

/-- The deferred disk cap is dropped when nothing is stored under its key. -/
def deferredLookup (turn : Turn) (call : LimitCall) (item : DeferredIo) :
    Turn :=
  match turn.balancer.allLimits.apps.get? item.key with
  | none => turn.goto (.leave .idle)
  | some _ =>
    let result := Balancer.deferredIoCall item call.late
    turn.goto (.writing result.2 (.deferredRecord call item result.1))

/-- The entry then stored under the key takes the flag. -/
def deferredRecord (turn : Turn) (item : DeferredIo) (accepted : Bool) : Turn :=
  match turn.balancer.allLimits.apps.get? item.key with
  | none => turn.goto (.leave .idle)
  | some _ =>
    { turn with
      balancer := turn.balancer.recordDeferredIo item accepted
      unrecorded := []
      phase := .leave .idle }

/-- The manual restore forgets its entry. -/
def restorePop (turn : Turn) (appId : String)
    (outcomes : Balancer.ManualRestoreOutcomes) : Turn :=
  match turn.balancer.allLimits.byPublicId appId .manual with
  | none => turn.goto (.leave .idle)
  | some (key, entry) =>
    { turn with
      balancer := turn.balancer.popManual key
      creator := Function.update turn.creator key none
      phase := .writing
        ((Balancer.manualRestoreCpuMem key entry outcomes).2 ++
          (Balancer.manualRestoreIo key entry outcomes).2 ++
          (Balancer.manualRestoreThaw key entry outcomes).2)
        (.leave .idle) }

/-- The reaper forgets the entries of closed apps. -/
def reapPop (turn : Turn) (closed : CgroupId → Bool)
    (outcomes : CgroupId → Balancer.EntryOutcomes) : Turn :=
  let popped := turn.balancer.popAllClosed closed
  { turn with
    balancer := popped.2
    creator := fun key => if closed key then none else turn.creator key
    phase := .writing
      (popped.1.flatMap fun app =>
        Balancer.restoreEntryWrites app.2 (outcomes app.1))
      (.leave .idle) }

/-- A candidate under a manual limit is left alone. -/
def applyCheck (turn : Turn) (call : ApplyCall) : Turn :=
  if turn.balancer.manualLimited call.target call.appId then
    turn.goto (.leave .idle)
  else if call.isDiskIoStressed then turn.goto (.applyLimit call)
  else turn.goto (.applyYield call)

/-- The disk cap that yields is lifted before a sys cap. -/
def applyYield (turn : Turn) (call : ApplyCall) : Turn :=
  match turn.balancer.yieldTarget call.appId with
  | none => turn.goto (.applyLimit call)
  | some (key, entry) =>
    turn.goto (.writing (turn.balancer.fullRestoreCall key entry .diskIo
        call.outcomes.yieldIo).2
      (.applyYielded call key (turn.balancer.afterFullRestore key entry .diskIo
          call.outcomes.yieldIo)))

/-- The registry part of that restore; `move_to_end` raises when the sweep has
popped the entry. -/
def applyYielded (turn : Turn) (call : ApplyCall) (key : CgroupId)
    (left : Option LimitedApp) : Turn :=
  match left with
  | none =>
    { turn with
      balancer := turn.balancer.popEntry key
      creator := Function.update turn.creator key none
      phase := .applyLimit call }
  | some remaining =>
    let moved := (turn.balancer.modifyEntry key fun _ => remaining).moveToEnd
      key true
    { turn with
      balancer := moved.2
      phase := match moved.1 with
        | .ok _ => .applyLimit call
        | .error _ => .leave .idle }

/-- `is_running` is read and the caps are decided. -/
def applyLimit (turn : Turn) (call : ApplyCall) : Turn :=
  let result := Balancer.applyChannel turn.balancer.isRunning call.target
    call.appId call.limitRates call.isDiskIoStressed call.outcomes
  turn.goto (.writing result.2
    (if result.1 then .applyRecord call else .leave .idle))

/-- The entry of an auto limit is stored, without the registry lock. -/
def applyRecord (turn : Turn) (call : ApplyCall) : Turn :=
  { turn with
    balancer := turn.balancer.upsertAutoLimited call.appId
      (Balancer.autoLimitOf call.target call.appId call.limitRates
        call.isControlled call.isDiskIoStressed call.pressureLevel
        call.outcomes)
      call.outcomes.now
    creator := Function.update turn.creator call.appId (some call.ticket)
    unrecorded := []
    phase := .leave .idle }

/-- `shutdown` stops the service unless it is stopped. -/
def stop (turn : Turn) (outcomes : CgroupId → Balancer.EntryOutcomes) : Turn :=
  if turn.balancer.isRunning then
    { turn with
      balancer := { turn.balancer with isRunning := false }
      phase := .sweepEnter outcomes }
  else turn.goto (.leave .idle)

/-- `restore_all_limited_apps_resources` takes the registry lock and lists the
keys. -/
def sweepEnter (turn : Turn) (thread : ThreadId)
    (outcomes : CgroupId → Balancer.EntryOutcomes) : Turn :=
  { turn with
    registryLock := some thread
    phase := .sweep turn.balancer.allLimits.apps.keys outcomes }

/-- One round of the sweep: forget the entry under the next key and restore it;
the channels it restores are read when it is forgotten. -/
def sweep (turn : Turn)
    (outcomes : CgroupId → Balancer.EntryOutcomes) : List CgroupId → Turn
  | [] => { turn with registryLock := none, phase := .leave .idle }
  | key :: keys =>
    { turn with
      balancer := turn.balancer.popSwept key
      creator := Function.update turn.creator key none
      phase :=
        match turn.balancer.allLimits.apps.get? key with
        | none => .sweep keys outcomes
        | some entry => .writing
            (Balancer.restoreEntryWrites entry (outcomes key))
            (.sweep keys outcomes) }

/-- One step of a thread; a thread that waits for a lock stays where it is. -/
def step (turn : Turn) (thread : ThreadId) : Turn :=
  match turn.phase with
  | .idle => turn
  | .writing [] next => turn.goto next
  | .writing (write :: writes) next => turn.write write writes next
  | .leave next => turn.finish thread next
  | .limitEnter call => turn.enter thread (.limitCheck call)
  | .limitCheck call => turn.underRegistryLock (turn.limitCheck call)
  | .limitCpuMem call plan => turn.limitCpuMem call plan
  | .limitIo call plan attempted resourceLimited =>
    turn.limitIo call plan attempted resourceLimited
  | .limitRegister call plan attempted limitParts deferred =>
    turn.underRegistryLock
      (turn.limitRegister call plan attempted limitParts deferred)
  | .deferredEnter call item => turn.enter thread (.deferredLookup call item)
  | .deferredLookup call item =>
    turn.underRegistryLock (turn.deferredLookup call item)
  | .deferredRecord _ item accepted =>
    turn.underRegistryLock (turn.deferredRecord item accepted)
  | .restorePop appId outcomes =>
    turn.underRegistryLock (turn.restorePop appId outcomes)
  | .reapPop closed outcomes =>
    turn.underRegistryLock (turn.reapPop closed outcomes)
  | .applyEnter call => turn.enter thread (.applyCheck call)
  | .applyCheck call => turn.applyCheck call
  | .applyYield call => turn.applyYield call
  | .applyYielded call key left => turn.applyYielded call key left
  | .applyLimit call => turn.applyLimit call
  | .applyRecord call => turn.applyRecord call
  | .stop outcomes => turn.stop outcomes
  | .sweepEnter outcomes =>
    turn.underRegistryLock (turn.sweepEnter thread outcomes)
  | .sweep keys outcomes => turn.sweep outcomes keys

end Turn

/-! ## The service -/

/-- The shared state and the threads. -/
structure Service where
  balancer : Balancer
  operationLock : Option ThreadId
  registryLock : Option ThreadId
  /-- Ghost: the operation that created the entry under a key. -/
  creator : CgroupId → Option Nat
  nextTicket : Nat
  phase : ThreadId → Phase
  /-- Ghost: the writes of each thread's operation that no entry records
  yet. -/
  unrecorded : ThreadId → List KernelWrite

/-- An operation a thread can be given. -/
inductive Operation
  | limit (request : LimitRequest) (outcomes : InstallOutcomes)
      (late : Nat → IoCallOutcome)
  | restore (appId : String) (outcomes : Balancer.ManualRestoreOutcomes)
  | reap (closed : CgroupId → Bool)
      (outcomes : CgroupId → Balancer.EntryOutcomes)
  | apply (target : Candidate) (appId : CgroupId) (limitRates : LimitRates)
      (isControlled isDiskIoStressed : Bool) (pressureLevel : String)
      (outcomes : Balancer.ApplyOutcomes)
  | shutdown (outcomes : CgroupId → Balancer.EntryOutcomes)

namespace Operation

def runsOn : Operation → ThreadId → Bool
  | .limit .., .rest _ => true
  | .restore .., .rest _ => true
  | .reap .., .monitor => true
  | .apply .., .monitor => true
  | .shutdown .., .main => true
  | _, _ => false

def first (ticket : Nat) : Operation → Phase
  | .limit request outcomes late =>
    .limitEnter ⟨ticket, request, outcomes, late⟩
  | .restore appId outcomes => .restorePop appId outcomes
  | .reap closed outcomes => .reapPop closed outcomes
  | .apply target appId limitRates isControlled isDiskIoStressed pressureLevel
      outcomes =>
      .applyEnter ⟨ticket, target, appId, limitRates, isControlled,
        isDiskIoStressed, pressureLevel, outcomes⟩
  | .shutdown outcomes => .stop outcomes

end Operation

/-- A move of the scheduler. -/
inductive Move
  /-- An idle thread is given an operation. -/
  | start (thread : ThreadId) (operation : Operation)
  /-- A thread takes its next step. -/
  | advance (thread : ThreadId)

namespace Service

/-- A service whose threads are all idle; its entries have no known creator. -/
def ofBalancer (balancer : Balancer) : Service where
  balancer := balancer
  operationLock := none
  registryLock := none
  creator := fun _ => none
  nextTicket := 0
  phase := fun _ => .idle
  unrecorded := fun _ => []

/-- What a thread sees. -/
def turn (service : Service) (thread : ThreadId) : Turn where
  balancer := service.balancer
  operationLock := service.operationLock
  registryLock := service.registryLock
  creator := service.creator
  phase := service.phase thread
  unrecorded := service.unrecorded thread

/-- Put back what a thread leaves. -/
def put (service : Service) (thread : ThreadId) (turn : Turn) : Service where
  balancer := turn.balancer
  operationLock := turn.operationLock
  registryLock := turn.registryLock
  creator := turn.creator
  nextTicket := service.nextTicket
  phase := Function.update service.phase thread turn.phase
  unrecorded := Function.update service.unrecorded thread turn.unrecorded

/-- Give an idle thread an operation it runs. -/
def start (service : Service) (thread : ThreadId)
    (operation : Operation) : Service :=
  match service.phase thread with
  | .idle =>
    if operation.runsOn thread then
      { service with
        nextTicket := service.nextTicket + 1
        phase := Function.update service.phase thread
          (operation.first service.nextTicket) }
    else service
  | _ => service

def step (service : Service) : Move → Service
  | .start thread operation => service.start thread operation
  | .advance thread => service.put thread ((service.turn thread).step thread)

/-- No thread is in the middle of an operation. -/
def Quiescent (service : Service) : Prop :=
  ∀ thread, service.phase thread = .idle

end Service

end SmarTune
