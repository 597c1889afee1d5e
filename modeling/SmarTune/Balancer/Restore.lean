import SmarTune.Balancer.State
import SmarTune.Balancer.FanOut

/-!
# Restoring limits

The staged restore of one channel (`restore_resources`, `_restore_channel_for`)
and the full restore of a removed entry (`_restore_entry`).  Python exceptions
raised by the balancer's own code are modelled: arithmetic on a rate that is
`None`, `move_to_end` on a key another thread has popped, and a scan of the
registry that another thread changes.  The state written before the exception
stays.
-/

namespace SmarTune

/-- The exceptions the limit code can raise. -/
inductive PyError
  | typeError
  | keyError
  | runtimeError
  deriving DecidableEq, Repr

/-- The scope of a staged restore step. -/
inductive RestoreType
  | partially
  | full
  deriving DecidableEq, Repr

/-- What the environment answers to one `restore_resources` call, by position
in the cgroup list. -/
structure RestoreOutcomes where
  totalMemory : Int
  mediaScale : DiskName → ℚ
  /-- The disks listed while the relaxed limits are scaled. -/
  listing : IoCallOutcome
  adjust : Nat → AdjustOutcome
  io : Nat → IoCallOutcome

/-- Twice a rate as the partial restore computes it: an absent key means no
limit, a key holding `None` cannot be multiplied. -/
def doubledRate (base : ℚ) : Option (Option ℚ) → Except PyError (Option Int)
  | none => .ok none
  | some none => .error .typeError
  | some (some rate) => .ok (some (pyInt (base * rate * 2)))

namespace Balancer

/-- The cgroups a staged restore addresses: the key itself and the extras of
the entry, when there is one. -/
def restoreTargets (balancer : Balancer) (appId : CgroupId) :
    List CgroupId :=
  appId :: match balancer.allLimits.apps.get? appId with
    | some entry => entry.cgroups.drop 1
    | none => []

/-- Clear a channel flag of the entry under a key. -/
def clearPart (balancer : Balancer) (appId : CgroupId)
    (channel : Channel) : Balancer :=
  match balancer.allLimits.apps.get? appId with
  | some entry => balancer.withApps
      (balancer.allLimits.apps.set appId (entry.clearPart channel))
  | none => balancer

/-- The CPU/memory part of `restore_resources`. -/
def restoreCpuMem (balancer : Balancer) (appId : CgroupId)
    (limitRates : LimitRates) (restoreType : RestoreType)
    (outcomes : RestoreOutcomes) : Except PyError Bool × Balancer :=
  let targets := balancer.restoreTargets appId
  match restoreType with
  | .partially =>
    match doubledRate 100 limitRates.cpuRate with
    | .error error => (.error error, balancer)
    | .ok cpuRestore =>
      match doubledRate outcomes.totalMemory limitRates.memRate with
      | .error error => (.error error, balancer)
      | .ok memRestore =>
        let result := fanOut (adjustEach .medium (fun _ => cpuRestore)
          (fun _ => memRestore) outcomes.adjust) targets
        (.ok result.1, balancer.writes result.2)
  | .full =>
    let result := fanOut (adjustEach .low (fun _ => none) (fun _ => none)
      outcomes.adjust) targets
    (.ok result.1, (if result.1 then balancer.clearPart appId .sys
        else balancer).writes result.2)

/-- The disks a staged restore addresses: those the cap was written to, or
all. -/
def restoreDisks (balancer : Balancer) (appId : CgroupId) : List DiskName :=
  match balancer.allLimits.apps.get? appId with
  | some entry => entry.limitDisks
  | none => []

/-- The disk part of `restore_resources`.  A partial step without a disk rate
in the dictionary writes nothing and succeeds. -/
def restoreIo (balancer : Balancer) (appId : CgroupId) (limitRates : LimitRates)
    (restoreType : RestoreType)
    (outcomes : RestoreOutcomes) : Except PyError Bool × Balancer :=
  let targets := balancer.restoreTargets appId
  let disks := balancer.restoreDisks appId
  match restoreType, limitRates.diskIoRate with
  | .partially, none => (.ok true, balancer)
  | .partially, some none => (.error .typeError, balancer)
  | .partially, some (some rate) =>
    let limits := scaledIoLimits rate.relaxed outcomes.mediaScale disks
      outcomes.listing
    let result := fanOut (throttleEach limits disks outcomes.io) targets
    (.ok result.1, balancer.writes result.2)
  | .full, _ =>
    let result := fanOut (unthrottleEach disks outcomes.io) targets
    (.ok result.1, (if result.1 then balancer.clearPart appId .diskIo
        else balancer).writes result.2)

/-- `restore_resources` for the one channel the staged restore passes.  A
stopped service restores nothing and reports success. -/
def restoreResources (balancer : Balancer) (appId : CgroupId)
    (limitRates : LimitRates) (channel : Channel) (restoreType : RestoreType)
    (outcomes : RestoreOutcomes) : Except PyError Bool × Balancer :=
  if !balancer.isRunning then (.ok true, balancer)
  else
    match channel with
    | .sys => balancer.restoreCpuMem appId limitRates restoreType outcomes
    | .diskIo => balancer.restoreIo appId limitRates restoreType outcomes

/-- When another thread pops the target of a staged restore step. -/
inductive PopPoint
  /-- After the target was picked, before its entry is looked up again. -/
  | beforeLookup
  /-- After the restore calls, before the entry is moved in the queue. -/
  | beforeMove
  deriving DecidableEq, Repr

/-- Remove an entry from the registry. -/
def popEntry (balancer : Balancer) (appId : CgroupId) : Balancer :=
  balancer.withApps (balancer.allLimits.apps.erase appId)

/-- Another thread pops the entry if this is the point at which it does. -/
def popAt (balancer : Balancer) (appId : CgroupId) (popped : Option PopPoint)
    (point : PopPoint) : Balancer :=
  if popped = some point then balancer.popEntry appId else balancer

/-- `move_to_end`, which raises on an absent key. -/
def moveToEnd (balancer : Balancer) (appId : CgroupId) (result : Bool) :
    Except PyError Bool × Balancer :=
  match balancer.allLimits.apps.moveToEnd appId with
  | some apps => (.ok result, balancer.withApps apps)
  | none => (.error .keyError, balancer)

/-- Rewrite the entry under a key, if there is one. -/
def modifyEntry (balancer : Balancer) (appId : CgroupId)
    (change : LimitedApp → LimitedApp) : Balancer :=
  match balancer.allLimits.apps.get? appId with
  | some entry =>
    balancer.withApps (balancer.allLimits.apps.set appId (change entry))
  | none => balancer

/-- The control event of a staged restore step. -/
def emitChannel (balancer : Balancer) (action : ControlAction)
    (channel : Channel) (appId : CgroupId) (entry : LimitedApp) : Balancer :=
  balancer.emit action (.only channel) entry.resourceParts
    (if entry.publicAppId = "" then appId else entry.publicAppId)
    entry.appName entry.protectionId .auto

/-- `_restore_channel_for`: restore one channel of one named entry.  The
entry's flags are those of the stored object while it is in the registry, and
those of the picked object once another thread has popped it. -/
def restoreChannelFor (balancer : Balancer) (appId : CgroupId)
    (entry : LimitedApp) (channel : Channel) (restoreType : RestoreType)
    (outcomes : RestoreOutcomes)
    (popped : Option PopPoint) : Except PyError Bool × Balancer :=
  let before := balancer.popAt appId popped .beforeLookup
  match before.restoreResources appId entry.limitRates channel restoreType
      outcomes with
  | (.error error, after) => (.error error, after)
  | (.ok restored, after) =>
    let parts := ((after.allLimits.apps.get? appId).getD entry).limitParts
    let after := after.popAt appId popped .beforeMove
    if !restored then
      match restoreType with
      | .full =>
        (after.emitChannel .failed channel appId entry).moveToEnd appId false
      | .partially => after.moveToEnd appId false
    else
      match restoreType with
      | .partially =>
        (after.modifyEntry appId fun entry => { entry with
          partialParts := entry.partialParts.set channel true
          state := some .partiallyRestored }).moveToEnd appId false
      | .full =>
        let after := (after.modifyEntry appId fun entry => { entry with
          partialParts := entry.partialParts.set channel false
          }).emitChannel .recovered channel appId entry
        if parts.any then after.moveToEnd appId true
        else (.ok true, after.popEntry appId)

/-- What happens around one `_restore_channel` call. -/
structure ChannelStep where
  outcomes : RestoreOutcomes
  popped : Option PopPoint
  /-- Another thread changes the registry during the scan for a target. -/
  scanDisturbed : Bool

/-- `_restore_channel`: pick the oldest entry carrying the channel and restore
that channel of it. -/
def restoreChannel (balancer : Balancer) (channel : Channel)
    (restoreType : RestoreType)
    (step : ChannelStep) : Except PyError Bool × Balancer :=
  if step.scanDisturbed then (.error .runtimeError, balancer)
  else
    match balancer.allLimits.firstAutoWithPart channel
        (restoreType = .partially) with
    | none => (.ok false, balancer)
    | some (appId, entry) =>
      balancer.restoreChannelFor appId entry channel restoreType
        step.outcomes step.popped

/-- `_clear_io_cap_before_sys_limit`: lift an auto disk cap off an app that is
about to be capped on CPU and memory.  The entry it finds is present and
nothing pops it in between, so the restore does not raise. -/
def clearIoCapBeforeSysLimit (balancer : Balancer) (appId : CgroupId)
    (outcomes : RestoreOutcomes) : Balancer :=
  match balancer.allLimits.byAnyId appId .auto with
  | some (key, entry) =>
    if entry.limitParts.ioLimited then
      (balancer.restoreChannelFor key entry .diskIo .full outcomes none).2
    else balancer
  | none => balancer

/-! ## A full restore, undisturbed -/

def fullRestoreCall (balancer : Balancer) (appId : CgroupId)
    (entry : LimitedApp) (channel : Channel)
    (outcomes : RestoreOutcomes) : ControllerCall :=
  if !balancer.isRunning then (true, [])
  else
    match channel with
    | .sys => fanOut (adjustEach .low (fun _ => none) (fun _ => none)
        outcomes.adjust) (appId :: entry.cgroups.drop 1)
    | .diskIo => fanOut (unthrottleEach entry.limitDisks outcomes.io)
        (appId :: entry.cgroups.drop 1)

/-- The full restore lifts the channel and forgets its flag. -/
def lifts (balancer : Balancer) (appId : CgroupId) (entry : LimitedApp)
    (channel : Channel) (outcomes : RestoreOutcomes) : Bool :=
  balancer.isRunning &&
    (balancer.fullRestoreCall appId entry channel outcomes).1

/-- What a full restore leaves of an entry: nothing once neither channel is
capped. -/
def afterFullRestore (balancer : Balancer) (appId : CgroupId)
    (entry : LimitedApp) (channel : Channel)
    (outcomes : RestoreOutcomes) : Option LimitedApp :=
  let call := balancer.fullRestoreCall appId entry channel outcomes
  let cleared := if balancer.lifts appId entry channel outcomes
    then entry.clearPart channel else entry
  if !call.1 then some entry
  else if cleared.limitParts.any then
    some { cleared with
      partialParts := cleared.partialParts.set channel false }
  else none

section Frame

variable (balancer : Balancer) (appId : CgroupId)

@[simp] theorem popAt_none (point : PopPoint) :
    balancer.popAt appId none point = balancer := by
  simp [popAt]

@[simp] theorem popEntry_isRunning :
    (balancer.popEntry appId).isRunning = balancer.isRunning := rfl

@[simp] theorem popAt_isRunning (popped : Option PopPoint) (point : PopPoint) :
    (balancer.popAt appId popped point).isRunning = balancer.isRunning := by
  unfold popAt
  split <;> rfl

@[simp] theorem clearPart_isRunning (channel : Channel) :
    (balancer.clearPart appId channel).isRunning = balancer.isRunning := by
  unfold clearPart
  split <;> rfl

@[simp] theorem modifyEntry_isRunning (change : LimitedApp → LimitedApp) :
    (balancer.modifyEntry appId change).isRunning = balancer.isRunning := by
  unfold modifyEntry
  split <;> rfl

@[simp] theorem moveToEnd_isRunning (result : Bool) :
    (balancer.moveToEnd appId result).2.isRunning = balancer.isRunning := by
  unfold moveToEnd
  split <;> rfl

@[simp] theorem clearPart_kernel (channel : Channel) :
    (balancer.clearPart appId channel).kernel = balancer.kernel := by
  unfold clearPart
  split <;> rfl

@[simp] theorem modifyEntry_kernel (change : LimitedApp → LimitedApp) :
    (balancer.modifyEntry appId change).kernel = balancer.kernel := by
  unfold modifyEntry
  split <;> rfl

theorem modifyEntry_get? (change : LimitedApp → LimitedApp) (other : CgroupId) :
    (balancer.modifyEntry appId change).allLimits.apps.get? other =
      if other = appId then (balancer.allLimits.apps.get? appId).map change
      else balancer.allLimits.apps.get? other := by
  unfold modifyEntry
  split
  · next entry stored =>
    rw [withApps_apps, OrderedDict.get?_set, stored]
    rfl
  · next absent =>
    split
    · next same => rw [same, absent]; rfl
    · rfl

theorem clearPart_get? (channel : Channel) (other : CgroupId) :
    (balancer.clearPart appId channel).allLimits.apps.get? other =
      if other = appId then
        (balancer.allLimits.apps.get? appId).map fun entry =>
          entry.clearPart channel
      else balancer.allLimits.apps.get? other :=
  modifyEntry_get? balancer appId (fun entry => entry.clearPart channel) other

@[simp] theorem moveToEnd_kernel (result : Bool) :
    (balancer.moveToEnd appId result).2.kernel = balancer.kernel := by
  unfold moveToEnd
  split <;> rfl

@[simp] theorem moveToEnd_get? (result : Bool) (other : CgroupId) :
    (balancer.moveToEnd appId result).2.allLimits.apps.get? other =
      balancer.allLimits.apps.get? other := by
  unfold moveToEnd
  split
  · next moved =>
    rw [withApps_apps, OrderedDict.get?_moveToEnd moved]
  · rfl

variable (action : ControlAction) (channel : Channel) (entry : LimitedApp)

@[simp] theorem emitChannel_kernel :
    (balancer.emitChannel action channel appId entry).kernel =
      balancer.kernel := emit_kernel ..

@[simp] theorem emitChannel_isRunning :
    (balancer.emitChannel action channel appId entry).isRunning =
      balancer.isRunning := emit_isRunning ..

@[simp] theorem emitChannel_allLimits :
    (balancer.emitChannel action channel appId entry).allLimits =
      balancer.allLimits := emit_allLimits ..

/-- A staged restore does not touch the service flag. -/
@[simp] theorem restoreResources_isRunning (limitRates : LimitRates)
    (restoreType : RestoreType) (outcomes : RestoreOutcomes) :
    (balancer.restoreResources appId limitRates channel restoreType
      outcomes).2.isRunning = balancer.isRunning := by
  unfold restoreResources
  split
  · rfl
  cases channel with
  | sys =>
    unfold restoreCpuMem
    cases restoreType with
    | partially =>
      simp only
      split
      · rfl
      · split <;> rfl
    | full =>
      simp only [writes_isRunning]
      split <;> simp
  | diskIo =>
    unfold restoreIo
    cases restoreType with
    | partially =>
      cases limitRates.diskIoRate with
      | none => rfl
      | some rate => cases rate <;> rfl
    | full =>
      simp only [writes_isRunning]
      split <;> simp

@[simp] theorem restoreChannelFor_isRunning (restoreType : RestoreType)
    (outcomes : RestoreOutcomes) (popped : Option PopPoint) :
    (balancer.restoreChannelFor appId entry channel restoreType outcomes
      popped).2.isRunning = balancer.isRunning := by
  have kept := restoreResources_isRunning (balancer.popAt appId popped
    .beforeLookup) appId channel entry.limitRates restoreType outcomes
  rw [popAt_isRunning] at kept
  simp only [restoreChannelFor]
  generalize Balancer.restoreResources _ _ _ _ _ _ = result at kept ⊢
  obtain ⟨restored, after⟩ := result
  cases restored with
  | error error => exact kept
  | ok restored =>
    cases restored <;> cases restoreType <;> simp only [Bool.not_true,
      Bool.not_false, Bool.false_eq_true, if_false, if_true] <;>
      try split
    all_goals simpa using kept

end Frame

section FullRestore

variable {balancer : Balancer} {appId : CgroupId} {entry : LimitedApp}

theorem afterFullRestore_eq_some {channel : Channel}
    {outcomes : RestoreOutcomes} {after : LimitedApp}
    (left : balancer.afterFullRestore appId entry channel outcomes =
      some after) :
    ∃ limitParts partialParts,
      after = { entry with
        limitParts := limitParts, partialParts := partialParts } := by
  simp only [afterFullRestore] at left
  generalize lifted : balancer.lifts appId entry channel outcomes = lifting
    at left
  split at left
  · exact ⟨_, _, (Option.some.inj left).symm⟩
  · cases lifting <;> cases channel <;>
      simp only [Bool.false_eq_true, if_false, if_true,
        LimitedApp.clearPart] at left <;>
      split at left <;>
      first
      | exact ⟨_, _, (Option.some.inj left).symm⟩
      | exact absurd left (by simp)

theorem restoring_fullRestoreCall (channel : Channel)
    (outcomes : RestoreOutcomes) :
    Restoring (balancer.fullRestoreCall appId entry channel outcomes).2 := by
  unfold fullRestoreCall
  split
  · exact restoring_nil
  · cases channel with
    | sys => exact restoring_adjustEach _ _ _ _
    | diskIo => exact restoring_unthrottleEach _ _ _

/-- A full restore calls the controllers on the entry's cgroups and clears the
flag when the primary's call succeeds. -/
theorem restoreResources_full
    (stored : balancer.allLimits.apps.get? appId = some entry)
    (limitRates : LimitRates) (channel : Channel) (outcomes : RestoreOutcomes) :
    balancer.restoreResources appId limitRates channel .full outcomes =
      (.ok (balancer.fullRestoreCall appId entry channel outcomes).1,
        (if balancer.lifts appId entry channel outcomes
          then balancer.clearPart appId channel else balancer).writes
            (balancer.fullRestoreCall appId entry channel outcomes).2) := by
  cases running : balancer.isRunning with
  | false =>
    have unchanged : balancer.writes [] = balancer := rfl
    simp [restoreResources, fullRestoreCall, lifts, running, unchanged]
  | true =>
    cases channel <;> simp [restoreResources, fullRestoreCall, lifts, running,
        restoreCpuMem, restoreIo, restoreTargets, restoreDisks, stored]

theorem restoreChannelFor_full_kernel
    (stored : balancer.allLimits.apps.get? appId = some entry)
    (channel : Channel) (outcomes : RestoreOutcomes) :
    (balancer.restoreChannelFor appId entry channel .full outcomes
      none).2.kernel =
      balancer.kernel.writeAll
        (balancer.fullRestoreCall appId entry channel outcomes).2 := by
  have written :
      ((if balancer.lifts appId entry channel outcomes
        then balancer.clearPart appId channel else balancer).writes
          (balancer.fullRestoreCall appId entry channel outcomes).2).kernel =
      balancer.kernel.writeAll
        (balancer.fullRestoreCall appId entry channel outcomes).2 := by
    split <;> simp
  simp only [restoreChannelFor, popAt_none, restoreResources_full stored]
  rw [← written]
  generalize Balancer.writes _ _ = after
  cases (balancer.fullRestoreCall appId entry channel outcomes).1
  · simp
  · simp only [Bool.not_true, Bool.false_eq_true, if_false]
    split <;> simp [popEntry]

theorem restoreChannelFor_full_get?
    (stored : balancer.allLimits.apps.get? appId = some entry)
    (channel : Channel) (outcomes : RestoreOutcomes) (other : CgroupId) :
    (balancer.restoreChannelFor appId entry channel .full outcomes
      none).2.allLimits.apps.get? other =
      if other = appId then
        balancer.afterFullRestore appId entry channel outcomes
      else balancer.allLimits.apps.get? other := by
  -- The entries as the controller calls leave them.
  have lookups : ∀ key, ((if balancer.lifts appId entry channel outcomes
        then balancer.clearPart appId channel else balancer).writes
          (balancer.fullRestoreCall appId entry channel
            outcomes).2).allLimits.apps.get? key =
      if key = appId then
        some (if balancer.lifts appId entry channel outcomes
          then entry.clearPart channel else entry)
      else balancer.allLimits.apps.get? key := by
    intro key
    rw [writes_allLimits]
    split
    · rw [clearPart_get?, stored]
      rfl
    · split
      · next same => rw [same, stored]
      · rfl
  have kept : (balancer.fullRestoreCall appId entry channel outcomes).1 =
      false → balancer.lifts appId entry channel outcomes = false := by
    intro refused
    simp [lifts, refused]
  simp only [restoreChannelFor, popAt_none, restoreResources_full stored,
    afterFullRestore]
  revert lookups
  generalize Balancer.writes _ _ = after
  intro lookups
  have current := lookups appId
  rw [if_pos rfl] at current
  cases accepted : (balancer.fullRestoreCall appId entry channel outcomes).1
  · rw [kept accepted] at lookups
    simpa using lookups other
  · simp only [Bool.not_true, Bool.false_eq_true, if_false, current,
      Option.getD_some]
    generalize (if balancer.lifts appId entry channel outcomes
      then entry.clearPart channel else entry) = left at lookups current ⊢
    split
    · simp only [moveToEnd_get?, emitChannel_allLimits, modifyEntry_get?,
        current, Option.map_some]
      split
      · rfl
      · next different => rw [lookups, if_neg different]
    · simp only [popEntry, withApps_apps, OrderedDict.get?_erase,
        emitChannel_allLimits, modifyEntry_get?, lookups]
      split <;> rfl

end FullRestore

/-! ## The disk cap that yields -/

/-- The entry whose disk cap yields to a sys cap. -/
def yieldTarget (balancer : Balancer)
    (appId : CgroupId) : Option (CgroupId × LimitedApp) :=
  (balancer.allLimits.byAnyId appId .auto).filter fun app =>
    app.2.limitParts.ioLimited

theorem yieldTarget_eq_some {balancer : Balancer} {appId key : CgroupId}
    {entry : LimitedApp}
    (yields : balancer.yieldTarget appId = some (key, entry)) :
    balancer.allLimits.apps.get? key = some entry ∧ entry.source = .auto ∧
      entry.limitParts.of .diskIo = true := by
  obtain ⟨found, capped⟩ := Option.filter_eq_some_iff.mp yields
  have answered := LimitRegistry.byAnyId_eq_some found
  exact ⟨answered.1, answered.2.1, capped⟩

theorem clearIoCapBeforeSysLimit_eq (balancer : Balancer) (appId : CgroupId)
    (outcomes : RestoreOutcomes) :
    balancer.clearIoCapBeforeSysLimit appId outcomes =
      match balancer.yieldTarget appId with
      | none => balancer
      | some (key, entry) =>
        (balancer.restoreChannelFor key entry .diskIo .full outcomes
          none).2 := by
  unfold clearIoCapBeforeSysLimit yieldTarget
  cases balancer.allLimits.byAnyId appId .auto with
  | none => rfl
  | some app =>
    obtain ⟨key, entry⟩ := app
    cases capped : entry.limitParts.ioLimited <;> simp [capped, Option.filter]

/-! ## A partial restore, undisturbed -/

/-- The controller calls of a partial restore, unless its arithmetic
raises. -/
def partialRestoreCall (balancer : Balancer) (appId : CgroupId)
    (entry : LimitedApp) (channel : Channel)
    (outcomes : RestoreOutcomes) : Except PyError ControllerCall :=
  if !balancer.isRunning then .ok (true, [])
  else
    match channel with
    | .sys =>
      match doubledRate 100 entry.limitRates.cpuRate with
      | .error error => .error error
      | .ok cpuRestore =>
        match doubledRate outcomes.totalMemory entry.limitRates.memRate with
        | .error error => .error error
        | .ok memRestore =>
          .ok (fanOut (adjustEach .medium (fun _ => cpuRestore)
            (fun _ => memRestore) outcomes.adjust)
            (appId :: entry.cgroups.drop 1))
    | .diskIo =>
      match entry.limitRates.diskIoRate with
      | none => .ok (true, [])
      | some none => .error .typeError
      | some (some rate) =>
        .ok (fanOut (throttleEach
          (scaledIoLimits rate.relaxed outcomes.mediaScale
            entry.limitDisks outcomes.listing)
          entry.limitDisks outcomes.io) (appId :: entry.cgroups.drop 1))

def afterPartialRestore (balancer : Balancer) (appId : CgroupId)
    (entry : LimitedApp) (channel : Channel)
    (outcomes : RestoreOutcomes) : LimitedApp :=
  match balancer.partialRestoreCall appId entry channel outcomes with
  | .ok (true, _) => { entry with
      partialParts := entry.partialParts.set channel true
      state := some .partiallyRestored }
  | _ => entry

section PartialRestore

variable {balancer : Balancer} {appId : CgroupId} {entry : LimitedApp}

theorem restoreResources_partially
    (stored : balancer.allLimits.apps.get? appId = some entry)
    (channel : Channel) (outcomes : RestoreOutcomes) :
    balancer.restoreResources appId entry.limitRates channel .partially
        outcomes =
      match balancer.partialRestoreCall appId entry channel outcomes with
      | .error error => (.error error, balancer)
      | .ok call => (.ok call.1, balancer.writes call.2) := by
  have unchanged : balancer.writes [] = balancer := rfl
  unfold restoreResources partialRestoreCall
  cases running : balancer.isRunning with
  | false => simp [unchanged]
  | true =>
    simp only [Bool.not_true, Bool.false_eq_true, if_false]
    cases channel with
    | sys =>
      simp only [restoreCpuMem, restoreTargets, stored]
      cases doubledRate 100 entry.limitRates.cpuRate with
      | error error => rfl
      | ok cpuRestore =>
        simp only
        cases doubledRate outcomes.totalMemory entry.limitRates.memRate <;> rfl
    | diskIo =>
      simp only [restoreIo, restoreTargets, restoreDisks, stored]
      cases entry.limitRates.diskIoRate with
      | none => simp [unchanged]
      | some rate => cases rate <;> rfl

theorem restoreChannelFor_partially_kernel
    (stored : balancer.allLimits.apps.get? appId = some entry)
    (channel : Channel) (outcomes : RestoreOutcomes) :
    (balancer.restoreChannelFor appId entry channel .partially outcomes
      none).2.kernel =
      match balancer.partialRestoreCall appId entry channel outcomes with
      | .error _ => balancer.kernel
      | .ok call => balancer.kernel.writeAll call.2 := by
  simp only [restoreChannelFor, popAt_none, restoreResources_partially stored]
  cases balancer.partialRestoreCall appId entry channel outcomes with
  | error error => rfl
  | ok call => cases accepted : call.1 <;> simp [accepted]

theorem restoreChannelFor_partially_get?
    (stored : balancer.allLimits.apps.get? appId = some entry)
    (channel : Channel) (outcomes : RestoreOutcomes) (other : CgroupId) :
    (balancer.restoreChannelFor appId entry channel .partially outcomes
      none).2.allLimits.apps.get? other =
      if other = appId then
        some (balancer.afterPartialRestore appId entry channel outcomes)
      else balancer.allLimits.apps.get? other := by
  have same : balancer.allLimits.apps.get? other =
      if other = appId then some entry
      else balancer.allLimits.apps.get? other := by
    split
    · next equal => rw [equal, stored]
    · rfl
  simp only [restoreChannelFor, popAt_none, restoreResources_partially stored,
    afterPartialRestore]
  cases balancer.partialRestoreCall appId entry channel outcomes with
  | error error => exact same
  | ok call =>
    obtain ⟨accepted, writes⟩ := call
    cases accepted with
    | false =>
      simp only [Bool.not_false, if_true, moveToEnd_get?, writes_allLimits]
      exact same
    | true =>
      simp only [Bool.not_true, Bool.false_eq_true, if_false,
        moveToEnd_get?, modifyEntry_get?, writes_allLimits, stored,
        Option.map_some]

end PartialRestore

/-! ## Restoring a removed entry -/

/-- What the environment answers to one `_restore_entry` call, by position in
the cgroup list. -/
structure EntryOutcomes where
  cgroupExists : Nat → Bool
  adjust : Nat → AdjustOutcome
  io : Nat → IoCallOutcome
  thaw : Nat → FreezeOutcome

end Balancer

def LimitedApp.targets (entry : LimitedApp) : List CgroupId :=
  if entry.cgroups = [] then [entry.publicAppId] else entry.cgroups

namespace Balancer

/-- The writes one round of `_restore_entry` makes on one cgroup. -/
def restoreEntryRound (entry : LimitedApp) (outcomes : EntryOutcomes)
    (position : Nat) (cgroup : CgroupId) : List KernelWrite :=
  if !outcomes.cgroupExists position then [.removed cgroup]
  else
    (if entry.limitParts.cpuMemLimited then
      (adjustResources cgroup .low none none (outcomes.adjust position)).2
    else []) ++
    (if entry.limitParts.ioLimited then
      (restoreDiskIoThrottle cgroup entry.limitDisks (outcomes.io position)).2
    else [])

/-- The channels whose restore failed on the primary cgroup. -/
def restoreEntryFailed (entry : LimitedApp)
    (outcomes : EntryOutcomes) : LimitParts :=
  match entry.targets with
  | [] => .none
  | primary :: _ =>
    { cpuMemLimited := outcomes.cgroupExists 0 &&
        entry.limitParts.cpuMemLimited &&
        !(adjustResources primary .low none none (outcomes.adjust 0)).1
      ioLimited := outcomes.cgroupExists 0 && entry.limitParts.ioLimited &&
        !(restoreDiskIoThrottle primary entry.limitDisks
          (outcomes.io 0)).1 }

/-- `_thaw_cgroups`: the calls thaw every cgroup and all must succeed. -/
def thawCgroups (cgroups : List CgroupId)
    (outcome : Nat → FreezeOutcome) : Bool × List KernelWrite :=
  let calls := cgroups.zipIdx.map fun target =>
    freezeCgroup target.1 false (outcome target.2)
  (calls.all Prod.fst, calls.flatMap Prod.snd)

/-- The writes of `_restore_entry`, in order. -/
def restoreEntryWrites (entry : LimitedApp)
    (outcomes : EntryOutcomes) : List KernelWrite :=
  (entry.targets.zipIdx.flatMap fun target =>
    restoreEntryRound entry outcomes target.2 target.1) ++
  if entry.frozen then (thawCgroups entry.targets outcomes.thaw).2 else []

/-- The result of `_restore_entry`. -/
def restoreEntryResult (entry : LimitedApp) (outcomes : EntryOutcomes) : Bool :=
  !(restoreEntryFailed entry outcomes).any &&
    (!entry.frozen || (thawCgroups entry.targets outcomes.thaw).1)

/-- `_restore_entry`: restore every cgroup of an entry; only the primary's
failures are reported. -/
def restoreEntry (balancer : Balancer) (entry : LimitedApp)
    (outcomes : EntryOutcomes) : Bool × Balancer :=
  let failed := restoreEntryFailed entry outcomes
  let restored : LimitParts :=
    { cpuMemLimited := entry.limitParts.cpuMemLimited && !failed.cpuMemLimited
      ioLimited := entry.limitParts.ioLimited && !failed.ioLimited }
  let event := fun (balancer : Balancer) action parts =>
    balancer.emit action parts entry.resourceParts entry.publicAppId
      entry.appName entry.protectionId .auto
  (restoreEntryResult entry outcomes,
    event (event (balancer.writes (restoreEntryWrites entry outcomes))
      .recovered restored) .failed failed)

end Balancer

end SmarTune
