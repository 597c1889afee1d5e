import SmarTune.Threads.Service

/-!
# What one step of a thread can do

A step waits, goes on to another phase, takes or releases a lock, makes one
write, or changes the registry under one key (the reaper: under several).  What
holds in every run is proved by cases over these.
-/

namespace SmarTune
namespace Turn

/-- The phases a thread goes on to while kernel, registry and locks stay. -/
inductive Follows (turn : Turn) : Phase → Prop
  | written {next : Phase}
      (here : turn.phase = .writing [] next) : Follows turn next
  | limitRefused {call : LimitCall}
      (here : turn.phase = .limitCheck call) : Follows turn (.leave .idle)
  | limitPlanned {call : LimitCall} {plan : InstallPlan}
      (here : turn.phase = .limitCheck call) :
      Follows turn (.limitCpuMem call plan)
  | limitCpuMem {call : LimitCall} {plan : InstallPlan}
      (here : turn.phase = .limitCpuMem call plan) :
      Follows turn (turn.limitCpuMem call plan).phase
  | limitIo {call : LimitCall} {plan : InstallPlan} {attempted : LimitParts}
      {resourceLimited : Bool}
      (here : turn.phase = .limitIo call plan attempted resourceLimited) :
      Follows turn (turn.limitIo call plan attempted resourceLimited).phase
  | limitFailed {call : LimitCall} {plan : InstallPlan}
      {attempted limitParts : LimitParts} {deferred : Option DeferredIo}
      (here : turn.phase =
        .limitRegister call plan attempted limitParts deferred)
      (failed : limitParts.any = false) :
      Follows turn (.leave (afterInstall call deferred))
  | deferredDropped {call : LimitCall} {item : DeferredIo}
      (here : turn.phase = .deferredLookup call item) :
      Follows turn (.leave .idle)
  | deferredFound {call : LimitCall} {item : DeferredIo} {entry : LimitedApp}
      (here : turn.phase = .deferredLookup call item)
      (free : turn.registryLock = none)
      (stored : turn.balancer.allLimits.apps.get? item.key = some entry) :
      Follows turn (.writing (Balancer.deferredIoCall item call.late).2
        (.deferredRecord call item (Balancer.deferredIoCall item call.late).1))
  | deferredGone {call : LimitCall} {item : DeferredIo} {accepted : Bool}
      (here : turn.phase = .deferredRecord call item accepted)
      (absent : turn.balancer.allLimits.apps.get? item.key = none) :
      Follows turn (.leave .idle)
  | nothingToRestore {appId : String}
      {outcomes : Balancer.ManualRestoreOutcomes}
      (here : turn.phase = .restorePop appId outcomes) :
      Follows turn (.leave .idle)
  | applyRefused {call : ApplyCall}
      (here : turn.phase = .applyCheck call) : Follows turn (.leave .idle)
  | applyDisk {call : ApplyCall}
      (here : turn.phase = .applyCheck call) : Follows turn (.applyLimit call)
  | applySys {call : ApplyCall}
      (here : turn.phase = .applyCheck call) : Follows turn (.applyYield call)
  | nothingYields {call : ApplyCall}
      (here : turn.phase = .applyYield call) : Follows turn (.applyLimit call)
  | yielding {call : ApplyCall} {key : CgroupId} {entry : LimitedApp}
      (here : turn.phase = .applyYield call)
      (yields : turn.balancer.yieldTarget call.appId = some (key, entry)) :
      Follows turn (turn.applyYield call).phase
  | applyLimit {call : ApplyCall} (here : turn.phase = .applyLimit call) :
      Follows turn (turn.applyLimit call).phase
  | stopped {outcomes : CgroupId → Balancer.EntryOutcomes}
      (here : turn.phase = .stop outcomes) : Follows turn (.leave .idle)

/-- The phases that wait for `operation_lock` and what they go on to. -/
inductive Enters (turn : Turn) : Phase → Prop
  | limit {call : LimitCall}
      (here : turn.phase = .limitEnter call) : Enters turn (.limitCheck call)
  | deferred {call : LimitCall} {item : DeferredIo}
      (here : turn.phase = .deferredEnter call item) :
      Enters turn (.deferredLookup call item)
  | apply {call : ApplyCall}
      (here : turn.phase = .applyEnter call) : Enters turn (.applyCheck call)

/-- What one step of a thread can do. -/
inductive Stepped (thread : ThreadId) (turn : Turn) : Turn → Prop
  /-- The thread is idle or waits for a lock. -/
  | waits : Stepped thread turn turn
  | goes {next : Phase} (follows : turn.Follows next) :
      Stepped thread turn (turn.goto next)
  | enters {next : Phase} (enters : turn.Enters next)
      (free : turn.operationLock = none) :
      Stepped thread turn
        { turn with operationLock := some thread, phase := next }
  | writes {write : KernelWrite} {writes : List KernelWrite} {next : Phase}
      (here : turn.phase = .writing (write :: writes) next) :
      Stepped thread turn (turn.write write writes next)
  | finishes {next : Phase} (here : turn.phase = .leave next) :
      Stepped thread turn (turn.finish thread next)
  | registers {call : LimitCall} {plan : InstallPlan}
      {attempted limitParts : LimitParts} {deferred : Option DeferredIo}
      (here : turn.phase =
        .limitRegister call plan attempted limitParts deferred)
      (free : turn.registryLock = none)
      (landed : limitParts.any = true) :
      Stepped thread turn
        (turn.limitRegister call plan attempted limitParts deferred)
  | records {call : LimitCall} {item : DeferredIo} {accepted : Bool}
      {entry : LimitedApp}
      (here : turn.phase = .deferredRecord call item accepted)
      (free : turn.registryLock = none)
      (stored : turn.balancer.allLimits.apps.get? item.key = some entry) :
      Stepped thread turn (turn.deferredRecord item accepted)
  | restores {appId : String} {outcomes : Balancer.ManualRestoreOutcomes}
      {key : CgroupId} {entry : LimitedApp}
      (here : turn.phase = .restorePop appId outcomes)
      (free : turn.registryLock = none)
      (found : turn.balancer.allLimits.byPublicId appId .manual =
        some (key, entry)) :
      Stepped thread turn (turn.restorePop appId outcomes)
  | reaps {closed : CgroupId → Bool}
      {outcomes : CgroupId → Balancer.EntryOutcomes}
      (here : turn.phase = .reapPop closed outcomes)
      (free : turn.registryLock = none) :
      Stepped thread turn (turn.reapPop closed outcomes)
  | yielded {call : ApplyCall} {key : CgroupId} {left : Option LimitedApp}
      (here : turn.phase = .applyYielded call key left) :
      Stepped thread turn (turn.applyYielded call key left)
  | upserts {call : ApplyCall} (here : turn.phase = .applyRecord call) :
      Stepped thread turn (turn.applyRecord call)
  | stops {outcomes : CgroupId → Balancer.EntryOutcomes}
      (here : turn.phase = .stop outcomes)
      (running : turn.balancer.isRunning = true) :
      Stepped thread turn
        { turn with
          balancer := { turn.balancer with isRunning := false }
          phase := .sweepEnter outcomes }
  | locks {outcomes : CgroupId → Balancer.EntryOutcomes}
      (here : turn.phase = .sweepEnter outcomes)
      (free : turn.registryLock = none) :
      Stepped thread turn (turn.sweepEnter thread outcomes)
  | swept {outcomes : CgroupId → Balancer.EntryOutcomes}
      (here : turn.phase = .sweep [] outcomes) :
      Stepped thread turn
        { turn with registryLock := none, phase := .leave .idle }
  | sweeps {key : CgroupId} {keys : List CgroupId}
      {outcomes : CgroupId → Balancer.EntryOutcomes}
      (here : turn.phase = .sweep (key :: keys) outcomes) :
      Stepped thread turn (turn.sweep outcomes (key :: keys))

section Stepped

variable {thread : ThreadId} {turn after : Turn}

theorem deferredRecord_of_stored {item : DeferredIo} {entry : LimitedApp}
    {accepted : Bool}
    (stored : turn.balancer.allLimits.apps.get? item.key = some entry) :
    turn.deferredRecord item accepted =
      { turn with
        balancer := turn.balancer.recordDeferredIo item accepted
        unrecorded := []
        phase := .leave .idle } := by
  simp only [deferredRecord, stored]

theorem restorePop_of_found {appId : String}
    {outcomes : Balancer.ManualRestoreOutcomes} {key : CgroupId}
    {entry : LimitedApp}
    (found : turn.balancer.allLimits.byPublicId appId .manual =
      some (key, entry)) :
    turn.restorePop appId outcomes =
      { turn with
        balancer := turn.balancer.popManual key
        creator := Function.update turn.creator key none
        phase := .writing
          ((Balancer.manualRestoreCpuMem key entry outcomes).2 ++
            (Balancer.manualRestoreIo key entry outcomes).2 ++
            (Balancer.manualRestoreThaw key entry outcomes).2)
          (.leave .idle) } := by
  simp only [restorePop, found]

theorem stepped_enter {next : Phase} (enters : turn.Enters next) :
    Stepped thread turn (turn.enter thread next) := by
  unfold enter
  split
  · next free => exact .enters enters (Option.isNone_iff_eq_none.mp free)
  · exact .waits

theorem stepped_underRegistryLock
    (body : turn.registryLock = none → Stepped thread turn after) :
    Stepped thread turn (turn.underRegistryLock after) := by
  unfold underRegistryLock
  split
  · next free => exact body (Option.isNone_iff_eq_none.mp free)
  · exact .waits

/-- The registry part of a yielding disk cap holds on to the locks. -/
theorem applyYielded_locks (call : ApplyCall) (key : CgroupId)
    (left : Option LimitedApp) :
    (turn.applyYielded call key left).operationLock = turn.operationLock ∧
      (turn.applyYielded call key left).registryLock = turn.registryLock := by
  cases left <;> exact ⟨rfl, rfl⟩

/-- A step does one of the things listed. -/
theorem stepped_step (turn : Turn) (thread : ThreadId) :
    Stepped thread turn (turn.step thread) := by
  unfold step
  cases here : turn.phase with
  | idle => exact .waits
  | writing writes next =>
    cases writes with
    | nil => exact .goes (.written here)
    | cons write writes => exact .writes here
  | leave next => exact .finishes here
  | limitEnter call => exact stepped_enter (.limit here)
  | limitCheck call =>
    refine stepped_underRegistryLock fun free => ?_
    unfold limitCheck
    split
    · exact .goes (.limitRefused here)
    · exact .goes (.limitPlanned here)
  | limitCpuMem call plan => exact .goes (.limitCpuMem here)
  | limitIo call plan attempted resourceLimited => exact .goes (.limitIo here)
  | limitRegister call plan attempted limitParts deferred =>
    refine stepped_underRegistryLock fun free => ?_
    cases landed : limitParts.any with
    | true => exact .registers here free landed
    | false =>
      have failed : turn.limitRegister call plan attempted limitParts
          deferred = turn.goto (.leave (afterInstall call deferred)) := by
        simp [limitRegister, landed]
      rw [failed]
      exact .goes (.limitFailed here landed)
  | deferredEnter call item => exact stepped_enter (.deferred here)
  | deferredLookup call item =>
    refine stepped_underRegistryLock fun free => ?_
    unfold deferredLookup
    split
    · exact .goes (.deferredDropped here)
    · next entry stored => exact .goes (.deferredFound here free stored)
  | deferredRecord call item accepted =>
    refine stepped_underRegistryLock fun free => ?_
    cases stored : turn.balancer.allLimits.apps.get? item.key with
    | some entry => exact .records here free stored
    | none =>
      have gone : turn.deferredRecord item accepted =
          turn.goto (.leave .idle) := by
        simp [deferredRecord, stored]
      rw [gone]
      exact .goes (.deferredGone here stored)
  | restorePop appId outcomes =>
    refine stepped_underRegistryLock fun free => ?_
    cases found : turn.balancer.allLimits.byPublicId appId .manual with
    | some target => exact .restores here free found
    | none =>
      have nothing : turn.restorePop appId outcomes =
          turn.goto (.leave .idle) := by
        simp [restorePop, found]
      rw [nothing]
      exact .goes (.nothingToRestore here)
  | reapPop closed outcomes =>
    exact stepped_underRegistryLock fun free => .reaps here free
  | applyEnter call => exact stepped_enter (.apply here)
  | applyCheck call =>
    simp only [applyCheck]
    split
    · exact .goes (.applyRefused here)
    · split
      · exact .goes (.applyDisk here)
      · exact .goes (.applySys here)
  | applyYield call =>
    cases yields : turn.balancer.yieldTarget call.appId with
    | none =>
      have nothing : turn.applyYield call = turn.goto (.applyLimit call) := by
        simp [applyYield, yields]
      simp only [nothing]
      exact .goes (.nothingYields here)
    | some target =>
      have same : turn.applyYield call =
          turn.goto (turn.applyYield call).phase := by
        simp [applyYield, yields, goto]
      simp only
      rw [same]
      exact .goes (.yielding here yields)
  | applyYielded call key left => exact .yielded here
  | applyLimit call => exact .goes (.applyLimit here)
  | applyRecord call => exact .upserts here
  | stop outcomes =>
    simp only [stop]
    split
    · next running => exact .stops here running
    · exact .goes (.stopped here)
  | sweepEnter outcomes =>
    exact stepped_underRegistryLock fun free => .locks here free
  | sweep keys outcomes =>
    cases keys with
    | nil => exact .swept here
    | cons key keys => exact .sweeps here

end Stepped

end Turn
end SmarTune
