import SmarTune.Library.OpenLog
import SmarTune.Balancer.SoleOwner

/-!
# Control lifecycles

Diagnostics reads the control events as a ledger: APPLIED opens the lifecycle
of a channel under a protection id and RECOVERED closes it.  The ledger is
balanced when the events alternate and exactly the channels flagged by an entry
under its own protection id are open.
-/

namespace SmarTune

/-- What an action does to a lifecycle. -/
def ControlAction.opens : ControlAction → Option Bool
  | .applied => some true
  | .recovered => some false
  | .failed => none

/-- The event names a resource of the channel. -/
def ControlEvent.concerns (event : ControlEvent) : Channel → Bool
  | .sys => event.resources.contains .cpu || event.resources.contains .memory
  | .diskIo => event.resources.contains .diskIo

/-- The ledger read for one channel of one protection. -/
def lifecycleMark (id : ProtectionId) (channel : Channel)
    (event : ControlEvent) : Option Bool :=
  if event.protectionId = some id ∧ event.concerns channel = true
  then event.action.opens
  else none

/-! ## The events of one emission -/

/-- The arguments of `_emit_control_events`. -/
structure Emission where
  action : ControlAction
  parts : LimitParts
  resourceParts : ResourceParts
  appId : String
  appName : String
  protectionId : Option ProtectionId
  controlMode : Source

namespace Emission

def events (emission : Emission) : List ControlEvent :=
  match controlResources emission.parts emission.resourceParts with
  | [] => []
  | resources =>
    [⟨emission.action, emission.appId, emission.appName,
      emission.protectionId, resources, emission.controlMode⟩]

theorem protectionId_of_mem {emission : Emission} {event : ControlEvent}
    (member : event ∈ emission.events) :
    event.protectionId = emission.protectionId := by
  unfold events at member
  split at member
  · cases member
  · rw [List.mem_singleton.mp member]

end Emission

theorem Balancer.emit_events (balancer : Balancer) (action : ControlAction)
    (parts : LimitParts) (resourceParts : ResourceParts)
    (appId appName : String) (protectionId : Option ProtectionId)
    (controlMode : Source) :
    (balancer.emit action parts resourceParts appId appName protectionId
      controlMode).events =
      balancer.events ++ Emission.events ⟨action, parts, resourceParts, appId,
        appName, protectionId, controlMode⟩ := by
  cases resources : controlResources parts resourceParts <;>
    simp [emit, Emission.events, resources]

/-- The resources of a set of channels name exactly these channels. -/
theorem concerns_of_resources (parts : LimitParts)
    (resourceParts : ResourceParts) (channel : Channel) {event : ControlEvent}
    (resources : event.resources = controlResources parts resourceParts) :
    event.concerns channel = parts.of channel := by
  obtain ⟨cpuMemLimited, ioLimited⟩ := parts
  obtain ⟨cpu, memory⟩ := resourceParts
  cases channel <;> simp only [ControlEvent.concerns, resources] <;>
    cases cpuMemLimited <;> cases ioLimited <;> cases cpu <;> cases memory <;>
    rfl

theorem of_eq_false_of_no_resources {parts : LimitParts}
    {resourceParts : ResourceParts}
    (resources : controlResources parts resourceParts = [])
    (channel : Channel) :
    parts.of channel = false := by
  rw [← concerns_of_resources parts resourceParts channel
    (by exact resources.symm :
      (⟨.failed, "", "", none, [], .auto⟩ : ControlEvent).resources = _)]
  cases channel <;> rfl

namespace Emission

variable {emission : Emission} {id : ProtectionId} {channel : Channel}
  {start : Bool}

theorem leads_of_foreign (foreign : emission.protectionId ≠ some id) :
    OpenLog.Leads (lifecycleMark id channel) start emission.events start := by
  apply OpenLog.leads_of_unmarked
  intro event member
  unfold lifecycleMark
  rw [protectionId_of_mem member]
  simp [foreign]

theorem leads_of_own (own : emission.protectionId = some id)
    (alternates : emission.parts.of channel = true →
      emission.action.opens ≠ some start) :
    OpenLog.Leads (lifecycleMark id channel) start emission.events
      (if emission.parts.of channel = true
        then emission.action.opens.getD start else start) := by
  cases resources : controlResources emission.parts emission.resourceParts with
  | nil =>
    have silent : emission.events = [] := by simp [events, resources]
    have unconcerned := of_eq_false_of_no_resources resources channel
    rw [silent, if_neg (by simp [unconcerned])]
    exact OpenLog.leads_nil
  | cons resource rest =>
    have single : emission.events = [⟨emission.action, emission.appId,
        emission.appName, emission.protectionId, resource :: rest,
        emission.controlMode⟩] := by simp [events, resources]
    have marked : lifecycleMark id channel ⟨emission.action, emission.appId,
        emission.appName, emission.protectionId, resource :: rest,
        emission.controlMode⟩ =
        if emission.parts.of channel = true then emission.action.opens
        else none := by
      unfold lifecycleMark
      rw [concerns_of_resources emission.parts emission.resourceParts channel
        resources.symm]
      simp [own]
    rw [single]
    constructor
    · rw [OpenLog.alternates_cons, marked]
      refine ⟨?_, trivial⟩
      split
      · next concerned => exact alternates concerned
      · simp
    · rw [OpenLog.after_cons, OpenLog.after_nil, marked]
      split <;> rfl

theorem leads_of_failed (failed : emission.action = .failed) :
    OpenLog.Leads (lifecycleMark id channel) start emission.events start := by
  by_cases own : emission.protectionId = some id
  · have alternates : emission.parts.of channel = true →
        emission.action.opens ≠ some start := by
      simp [failed, ControlAction.opens]
    simpa [failed, ControlAction.opens] using leads_of_own own alternates
  · exact leads_of_foreign own

theorem leads_of_applied (applied : emission.action = .applied)
    (own : emission.protectionId = some id)
    (closed : emission.parts.of channel = true → start = false) :
    OpenLog.Leads (lifecycleMark id channel) start emission.events
      (start || emission.parts.of channel) := by
  have alternates : emission.parts.of channel = true →
      emission.action.opens ≠ some start := by
    intro concerned
    simp [applied, ControlAction.opens, closed concerned]
  convert leads_of_own own alternates using 1
  cases concerned : emission.parts.of channel <;>
    simp [applied, ControlAction.opens]

theorem leads_of_recovered (recovered : emission.action = .recovered)
    (own : emission.protectionId = some id)
    (opened : emission.parts.of channel = true → start = true) :
    OpenLog.Leads (lifecycleMark id channel) start emission.events
      (start && !emission.parts.of channel) := by
  have alternates : emission.parts.of channel = true →
      emission.action.opens ≠ some start := by
    intro concerned
    simp [recovered, ControlAction.opens, opened concerned]
  convert leads_of_own own alternates using 1
  cases concerned : emission.parts.of channel <;>
    simp [recovered, ControlAction.opens]

theorem actions_events (emission : Emission) (channel : Channel) :
    (emission.events.filter (·.concerns channel)).map (·.action) =
      if emission.parts.of channel = true then [emission.action] else [] := by
  cases resources : controlResources emission.parts emission.resourceParts with
  | nil =>
    have unconcerned := of_eq_false_of_no_resources resources channel
    simp [events, resources, unconcerned]
  | cons resource rest =>
    have concerned : (⟨emission.action, emission.appId, emission.appName,
        emission.protectionId, resource :: rest, emission.controlMode⟩ :
          ControlEvent).concerns channel = emission.parts.of channel :=
      concerns_of_resources _ _ channel resources.symm
    simp only [events, resources, List.filter_cons, concerned, List.filter_nil]
    split <;> rfl

end Emission

/-! ## The balanced ledger -/

/-- The entry is protected under an id of its own key and source. -/
def LimitedApp.OwnsId (entry : LimitedApp) (key : CgroupId) : Prop :=
  ∃ id : ProtectionId, entry.protectionId = some id ∧
    id.effectiveAppId = key ∧ id.source = entry.source

/-- What is stored under a key flags the channel under the id. -/
def flags (stored : Option LimitedApp) (id : ProtectionId)
    (channel : Channel) : Bool :=
  stored.any fun entry =>
    entry.protectionId = some id && entry.limitParts.of channel

namespace Balancer

/-- The events alternate, and the channels they leave open are those the
entries flag under their own ids. -/
structure Balanced (balancer : Balancer) : Prop where
  ids : ∀ key entry, balancer.allLimits.apps.get? key = some entry →
    entry.OwnsId key
  alternates : ∀ id channel,
    OpenLog.Alternates (lifecycleMark id channel) false balancer.events
  opened : ∀ id channel,
    OpenLog.after (lifecycleMark id channel) false balancer.events =
      flags (balancer.allLimits.apps.get? id.effectiveAppId) id channel

section Balanced

variable {before after balancer : Balancer} {key : CgroupId}
  {entry : LimitedApp} {id : ProtectionId} {channel : Channel}

theorem flags_of_own (own : entry.protectionId = some id) :
    flags (some entry) id channel = entry.limitParts.of channel := by
  simp [flags, own]

theorem flags_of_foreign (foreign : entry.protectionId ≠ some id) :
    flags (some entry) id channel = false := by
  simp [flags, foreign]

@[simp] theorem flags_none : flags none id channel = false := rfl

theorem Balanced.opened_iff (balanced : balancer.Balanced) (id : ProtectionId)
    (channel : Channel) :
    OpenLog.after (lifecycleMark id channel) false balancer.events = true ↔
      ∃ key entry, balancer.allLimits.apps.get? key = some entry ∧
        entry.protectionId = some id ∧ entry.limitParts.of channel = true := by
  rw [balanced.opened]
  constructor
  · intro flagged
    obtain ⟨entry, stored, matched⟩ := (Option.any_eq_true _ _).mp flagged
    simp only [Bool.and_eq_true, decide_eq_true_eq] at matched
    exact ⟨id.effectiveAppId, entry, stored, matched⟩
  · rintro ⟨key, entry, stored, own, flag⟩
    obtain ⟨ownId, ownEq, keyEq, _⟩ := balanced.ids key entry stored
    obtain rfl : ownId = id := by
      rw [own] at ownEq
      exact (Option.some.inj ownEq).symm
    rw [keyEq, stored, flags_of_own own, flag]

theorem Balanced.change (balanced : before.Balanced) {left : Option LimitedApp}
    {events : List ControlEvent}
    (lookup : ∀ other, after.allLimits.apps.get? other =
      if other = key then left else before.allLimits.apps.get? other)
    (emitted : after.events = before.events ++ events)
    (ids : ∀ new, left = some new → new.OwnsId key)
    (own : ∀ event ∈ events, ∀ id, event.protectionId = some id →
      id.effectiveAppId = key)
    (leads : ∀ id channel, OpenLog.Leads (lifecycleMark id channel)
      (flags (before.allLimits.apps.get? key) id channel) events
      (flags left id channel)) :
    after.Balanced := by
  have combined : ∀ id channel, OpenLog.Leads (lifecycleMark id channel) false
      after.events (flags (after.allLimits.apps.get? id.effectiveAppId) id
        channel) := by
    intro id channel
    rw [emitted]
    refine OpenLog.Leads.append
      ⟨balanced.alternates id channel, balanced.opened id channel⟩ ?_
    rw [lookup]
    split
    · next same =>
      rw [same]
      exact leads id channel
    · next different =>
      apply OpenLog.leads_of_unmarked
      intro event member
      have foreign : event.protectionId ≠ some id :=
        fun marked => different (own event member id marked)
      simp [lifecycleMark, foreign]
  constructor
  · intro other entry stored
    rw [lookup] at stored
    split at stored
    · next same => exact same ▸ ids entry stored
    · exact balanced.ids other entry stored
  · exact fun id channel => (combined id channel).alternates
  · exact fun id channel => (combined id channel).finish

/-- The same for events of a single id, where neither the old nor the new
entry flags anything under another id. -/
theorem Balanced.changeOwn (balanced : before.Balanced)
    {left : Option LimitedApp} {events : List ControlEvent}
    {ownId : ProtectionId} (keyEq : ownId.effectiveAppId = key)
    (lookup : ∀ other, after.allLimits.apps.get? other =
      if other = key then left else before.allLimits.apps.get? other)
    (emitted : after.events = before.events ++ events)
    (marked : ∀ event ∈ events, event.protectionId = some ownId)
    (quiet : ∀ id channel, id ≠ ownId →
      flags (before.allLimits.apps.get? key) id channel = false)
    (kept : ∀ new, left = some new →
      new.protectionId = some ownId ∧ ownId.source = new.source)
    (leads : ∀ channel, OpenLog.Leads (lifecycleMark ownId channel)
      (flags (before.allLimits.apps.get? key) ownId channel) events
      (flags left ownId channel)) :
    after.Balanced := by
  refine balanced.change lookup emitted ?_ ?_ ?_
  · intro new leaves
    exact ⟨ownId, (kept new leaves).1, keyEq, (kept new leaves).2⟩
  · intro event member id same
    rw [marked event member] at same
    rw [← Option.some.inj same, keyEq]
  · intro id channel
    by_cases same : id = ownId
    · rw [same]
      exact leads channel
    · have quietAfter : flags left id channel = false := by
        cases leaves : left with
        | none => rfl
        | some new =>
          apply flags_of_foreign
          rw [(kept new leaves).1]
          exact fun equal => same (Option.some.inj equal).symm
      rw [quiet id channel same, quietAfter]
      apply OpenLog.leads_of_unmarked
      intro event member
      have foreign : event.protectionId ≠ some id := by
        rw [marked event member]
        exact fun equal => same (Option.some.inj equal).symm
      simp [lifecycleMark, foreign]

theorem flags_quiet {ownId : ProtectionId}
    (own : entry.protectionId = some ownId) (id : ProtectionId)
    (channel : Channel) (different : id ≠ ownId) :
    flags (some entry) id channel = false := by
  apply flags_of_foreign
  rw [own]
  exact fun equal => different (Option.some.inj equal).symm

/-- A change that emits nothing and keeps every id and flag. -/
theorem Balanced.of_silent (balanced : before.Balanced)
    (silent : after.events = before.events)
    (kept : ∀ key, (after.allLimits.apps.get? key).map (fun entry =>
        (entry.source, entry.protectionId, entry.limitParts)) =
      (before.allLimits.apps.get? key).map fun entry =>
        (entry.source, entry.protectionId, entry.limitParts)) :
    after.Balanced := by
  have sameFlags : ∀ key id channel,
      flags (after.allLimits.apps.get? key) id channel =
        flags (before.allLimits.apps.get? key) id channel := by
    intro key id channel
    have same := kept key
    cases stored : after.allLimits.apps.get? key <;>
      cases old : before.allLimits.apps.get? key <;>
      simp_all [flags]
  constructor
  · intro key entry stored
    have same := kept key
    rw [stored] at same
    obtain ⟨old, storedOld, equal⟩ := Option.map_eq_some_iff.mp same.symm
    simp only [Prod.mk.injEq] at equal
    obtain ⟨id, own, keyEq, source⟩ := balanced.ids key old storedOld
    exact ⟨id, equal.2.1 ▸ own, keyEq, equal.1 ▸ source⟩
  · intro id channel
    rw [silent]
    exact balanced.alternates id channel
  · intro id channel
    rw [silent, sameFlags]
    exact balanced.opened id channel

end Balanced

/-! ## Staged restores -/

section Staged

variable {balancer : Balancer} {appId : CgroupId} {entry : LimitedApp}

@[simp] theorem clearPart_events (channel : Channel) :
    (balancer.clearPart appId channel).events = balancer.events := by
  unfold clearPart
  split <;> rfl

@[simp] theorem modifyEntry_events (change : LimitedApp → LimitedApp) :
    (balancer.modifyEntry appId change).events = balancer.events := by
  unfold modifyEntry
  split <;> rfl

@[simp] theorem moveToEnd_events (result : Bool) :
    (balancer.moveToEnd appId result).2.events = balancer.events := by
  unfold moveToEnd
  split <;> rfl

@[simp] theorem popEntry_events :
    (balancer.popEntry appId).events = balancer.events := rfl

@[simp] theorem writes_events (list : List KernelWrite) :
    (balancer.writes list).events = balancer.events := rfl

/-- The emission of a staged restore step. -/
def channelEmission (action : ControlAction) (channel : Channel)
    (appId : CgroupId) (entry : LimitedApp) : Emission :=
  ⟨action, .only channel, entry.resourceParts,
    if entry.publicAppId = "" then appId else entry.publicAppId,
    entry.appName, entry.protectionId, .auto⟩

@[simp] theorem emitChannel_events (action : ControlAction)
    (channel : Channel) :
    (balancer.emitChannel action channel appId entry).events =
      balancer.events ++ (channelEmission action channel appId entry).events :=
  emit_events ..

theorem restoreChannelFor_full_events
    (stored : balancer.allLimits.apps.get? appId = some entry)
    (channel : Channel) (outcomes : RestoreOutcomes) :
    (balancer.restoreChannelFor appId entry channel .full outcomes
      none).2.events =
      balancer.events ++ (channelEmission
        (if (balancer.fullRestoreCall appId entry channel outcomes).1
          then .recovered else .failed) channel appId entry).events := by
  have silent :
      ((if balancer.lifts appId entry channel outcomes
        then balancer.clearPart appId channel else balancer).writes
          (balancer.fullRestoreCall appId entry channel
            outcomes).2).events = balancer.events := by
    split <;> simp
  simp only [restoreChannelFor, popAt_none, restoreResources_full stored]
  revert silent
  generalize Balancer.writes _ _ = after
  intro silent
  cases (balancer.fullRestoreCall appId entry channel outcomes).1
  · simp [silent]
  · simp only [Bool.not_true, Bool.false_eq_true, if_false, if_true]
    split <;> simp [silent]

/-- A partial restore emits nothing. -/
theorem restoreChannelFor_partially_events
    (stored : balancer.allLimits.apps.get? appId = some entry)
    (channel : Channel) (outcomes : RestoreOutcomes) :
    (balancer.restoreChannelFor appId entry channel .partially outcomes
      none).2.events = balancer.events := by
  simp only [restoreChannelFor, popAt_none, restoreResources_partially stored]
  cases balancer.partialRestoreCall appId entry channel outcomes with
  | error error => rfl
  | ok call => cases accepted : call.1 <;> simp [accepted]

theorem clearPart_of (channel other : Channel) :
    (entry.clearPart channel).limitParts.of other =
      (entry.limitParts.of other && !(LimitParts.only channel).of other) := by
  cases channel <;> cases other <;>
    simp [LimitedApp.clearPart, LimitParts.of, LimitParts.only]

/-- An entry without flags flags no channel. -/
theorem of_eq_false_of_not_any {parts : LimitParts}
    (unlimited : parts.any = false) (channel : Channel) :
    parts.of channel = false := by
  simp only [LimitParts.any, Bool.or_eq_false_iff] at unlimited
  cases channel
  · exact unlimited.1
  · exact unlimited.2

theorem flags_afterFullRestore {channel : Channel} {outcomes : RestoreOutcomes}
    (running : balancer.isRunning = true) {id : ProtectionId}
    (own : entry.protectionId = some id) (other : Channel) :
    flags (balancer.afterFullRestore appId entry channel outcomes) id other =
      if (balancer.fullRestoreCall appId entry channel outcomes).1 = true
      then entry.limitParts.of other && !(LimitParts.only channel).of other
      else entry.limitParts.of other := by
  simp only [afterFullRestore, lifts, running, Bool.true_and]
  cases (balancer.fullRestoreCall appId entry channel outcomes).1 with
  | false =>
    simp only [Bool.not_false, Bool.false_eq_true, if_true, if_false]
    exact flags_of_own own
  | true =>
    simp only [Bool.not_true, Bool.false_eq_true, if_true, if_false]
    rw [← clearPart_of]
    split
    · refine flags_of_own ?_
      cases channel <;> exact own
    · next unlimited =>
      rw [of_eq_false_of_not_any (by simpa using unlimited)]
      rfl

/-- A staged restore of a flagged channel keeps the ledger balanced. -/
theorem Balanced.restoreChannelFor (balanced : balancer.Balanced)
    (running : balancer.isRunning = true)
    (stored : balancer.allLimits.apps.get? appId = some entry)
    {channel : Channel} (carries : entry.limitParts.of channel = true)
    (restoreType : RestoreType) (outcomes : RestoreOutcomes) :
    (balancer.restoreChannelFor appId entry channel restoreType outcomes
      none).2.Balanced := by
  obtain ⟨ownId, own, keyEq, source⟩ := balanced.ids appId entry stored
  cases restoreType with
  | partially =>
    refine balanced.of_silent
      (restoreChannelFor_partially_events stored channel outcomes) ?_
    intro key
    rw [restoreChannelFor_partially_get? stored]
    split
    · next same =>
      subst same
      rw [stored, afterPartialRestore]
      split <;> rfl
    · rfl
  | full =>
    refine balanced.changeOwn keyEq
      (restoreChannelFor_full_get? stored channel outcomes)
      (restoreChannelFor_full_events stored channel outcomes) ?_ ?_ ?_ ?_
    · intro event member
      rw [Emission.protectionId_of_mem member]
      exact own
    · rw [stored]
      exact flags_quiet own
    · intro left leaves
      obtain ⟨limitParts, partialParts, rfl⟩ :=
        afterFullRestore_eq_some leaves
      exact ⟨own, source⟩
    · intro other
      rw [stored, flags_of_own own, flags_afterFullRestore running own other]
      split
      · apply Emission.leads_of_recovered rfl own
        intro concerned
        cases channel <;> cases other <;>
          first | exact carries | cases concerned
      · exact Emission.leads_of_failed rfl

theorem Balanced.yieldIoCap (balanced : balancer.Balanced)
    (running : ∀ key entry, balancer.allLimits.apps.get? key = some entry →
      balancer.isRunning = true)
    (isDiskIoStressed : Bool)
    (outcomes : ApplyOutcomes) :
    (balancer.yieldIoCap appId isDiskIoStressed outcomes).Balanced := by
  unfold Balancer.yieldIoCap
  split
  · exact balanced
  · rw [clearIoCapBeforeSysLimit_eq]
    cases yields : balancer.yieldTarget appId with
    | none => exact balanced
    | some app =>
      obtain ⟨key, entry⟩ := app
      obtain ⟨stored, _, carries⟩ := yieldTarget_eq_some yields
      exact balanced.restoreChannelFor (running key entry stored) stored
        carries .full outcomes.yieldIo

end Staged

/-! ## Limits -/

section Limits

variable {balancer : Balancer}

/-- The emission of a recorded auto limit, over the parts capped before. -/
def upsertEmission (previous : LimitParts) (entry : LimitedApp)
    (limit : AutoLimit) : Emission :=
  ⟨.applied, ⟨limit.resourceLimited && !previous.cpuMemLimited,
      limit.ioLimited && !previous.ioLimited⟩,
    entry.resourceParts, limit.publicId, limit.appName, entry.protectionId,
    .auto⟩

/-- Without a manual entry under a key, no auto entry means no entry. -/
theorem absent_of_autoEntry {appId : CgroupId}
    (auto : ∀ entry, balancer.allLimits.apps.get? appId = some entry →
      entry.source = .auto)
    (missing : balancer.autoEntry appId = none) :
    balancer.allLimits.apps.get? appId = none := by
  cases stored : balancer.allLimits.apps.get? appId with
  | none => rfl
  | some entry =>
    have found : balancer.autoEntry appId = some entry := by
      simp [autoEntry, stored, auto entry stored]
    rw [missing] at found
    cases found

/-- A merge flags what was flagged and what its emission announces. -/
theorem merged_limitParts_of (limit : AutoLimit) (appId : CgroupId)
    (entry : LimitedApp) (now : ℚ) (channel : Channel) :
    (limit.merged appId entry now).limitParts.of channel =
      (entry.limitParts.of channel || (upsertEmission entry.limitParts
        (limit.merged appId entry now) limit).parts.of channel) := by
  cases channel <;> simp only [upsertEmission, AutoLimit.merged, LimitParts.of]
  · cases entry.limitParts.cpuMemLimited <;> simp
  · cases entry.limitParts.ioLimited <;> simp

/-- Recording an auto limit opens the channels it newly caps. -/
theorem Balanced.upsertAutoLimited (balanced : balancer.Balanced)
    {appId : CgroupId}
    (auto : ∀ entry, balancer.allLimits.apps.get? appId = some entry →
      entry.source = .auto)
    (limit : AutoLimit)
    (now : ℚ) :
    (balancer.upsertAutoLimited appId limit now).Balanced := by
  have lookup := balancer.upsertAutoLimited_get? appId limit now
  have emitted : (balancer.upsertAutoLimited appId limit now).events =
      balancer.events ++ (upsertEmission
        (((balancer.autoEntry appId).map (·.limitParts)).getD .none)
        (balancer.upsertedEntry appId limit now) limit).events := emit_events ..
  cases previous : balancer.autoEntry appId with
  | none =>
    have absent := absent_of_autoEntry auto previous
    simp only [upsertedEntry, previous, Option.map_none,
      Option.getD_none] at lookup emitted
    have own : (limit.fresh appId now).protectionId =
      some ⟨.auto, limit.publicId, appId, now⟩ := rfl
    have keyEq : ProtectionId.effectiveAppId
      ⟨.auto, limit.publicId, appId, now⟩ = appId := rfl
    refine balanced.changeOwn keyEq lookup emitted ?_ ?_ ?_ ?_
    · intro event member
      rw [Emission.protectionId_of_mem member]
      exact own
    · intro id channel _
      rw [absent]
      rfl
    · intro new leaves
      rw [← Option.some.inj leaves]
      exact ⟨own, rfl⟩
    · intro channel
      rw [absent, flags_none, flags_of_own own]
      have opened : (limit.fresh appId now).limitParts.of channel =
          (false || (upsertEmission .none (limit.fresh appId now)
            limit).parts.of channel) := by
        cases channel <;> simp [upsertEmission, AutoLimit.fresh, LimitParts.of,
            LimitParts.none]
      rw [opened]
      exact Emission.leads_of_applied rfl own fun _ => rfl
  | some entry =>
    obtain ⟨stored, _⟩ := autoEntry_eq_some previous
    obtain ⟨ownId, ownEntry, keyEq, source⟩ :=
      balanced.ids appId entry stored
    simp only [upsertedEntry, previous, Option.map_some,
      Option.getD_some] at lookup emitted
    have own : (limit.merged appId entry now).protectionId = some ownId := by
      simp [AutoLimit.merged, ownEntry]
    refine balanced.changeOwn keyEq lookup emitted ?_ ?_ ?_ ?_
    · intro event member
      rw [Emission.protectionId_of_mem member]
      exact own
    · rw [stored]
      exact flags_quiet ownEntry
    · intro new leaves
      rw [← Option.some.inj leaves]
      exact ⟨own, source.trans (auto entry stored)⟩
    · intro channel
      rw [stored, flags_of_own ownEntry, flags_of_own own]
      have closed : (upsertEmission entry.limitParts
          (limit.merged appId entry now) limit).parts.of channel = true →
          entry.limitParts.of channel = false := by
        cases channel <;> simp [upsertEmission, LimitParts.of]
      rw [merged_limitParts_of]
      exact Emission.leads_of_applied rfl own closed

/-- An apply keeps the ledger balanced when a stopped service has no
entries. -/
theorem Balanced.applyResourceLimits (balanced : balancer.Balanced)
    (running : ∀ key entry, balancer.allLimits.apps.get? key = some entry →
      balancer.isRunning = true)
    (target : Candidate)
    (appId : CgroupId)
    (limitRates : LimitRates)
    (isControlled isDiskIoStressed : Bool)
    (pressureLevel : String)
    (outcomes : ApplyOutcomes) :
    (balancer.applyResourceLimits target appId limitRates isControlled
      isDiskIoStressed pressureLevel outcomes).Balanced := by
  unfold Balancer.applyResourceLimits
  split
  · exact balanced
  next free =>
  have yielded : (balancer.yieldIoCap appId isDiskIoStressed
      outcomes).Balanced := balanced.yieldIoCap running isDiskIoStressed outcomes
  have written : ∀ list, ((balancer.yieldIoCap appId isDiskIoStressed
      outcomes).writes list).Balanced :=
    fun list => yielded.of_silent rfl fun _ => rfl
  simp only
  split
  · refine (written _).upsertAutoLimited ?_ _ _
    intro entry stored
    obtain ⟨old, storedOld, same⟩ :=
      narrows_yieldIoCap appId isDiskIoStressed outcomes appId entry stored
    have source : entry.source = old.source := congrArg (·.source) same
    cases owner : entry.source with
    | auto => rfl
    | manual =>
      have touched : balancer.manualLimited target appId = true := by
        refine List.any_eq_true.mpr ⟨appId, List.mem_cons_self, ?_⟩
        rw [Option.isSome_iff_ne_none]
        intro missing
        have unanswered := LimitRegistry.byAnyId_eq_none_iff.mp missing appId
          old storedOld (source.symm.trans owner)
        simp [LimitedApp.answersTo] at unanswered
      exact absurd touched free
  · exact written _

theorem Balanced.of_failed {before after : Balancer}
    (balanced : before.Balanced) {emission : Emission} {ownId : ProtectionId}
    (failed : emission.action = .failed)
    (own : emission.protectionId = some ownId)
    (emitted : after.events = before.events ++ emission.events)
    (same : ∀ key, after.allLimits.apps.get? key =
      before.allLimits.apps.get? key) :
    after.Balanced := by
  have lookup : ∀ other, after.allLimits.apps.get? other =
      if other = ownId.effectiveAppId
      then before.allLimits.apps.get? ownId.effectiveAppId
      else before.allLimits.apps.get? other := by
    intro other
    rw [same]
    split
    · next equal => rw [equal]
    · rfl
  refine balanced.change lookup emitted (balanced.ids ownId.effectiveAppId) ?_ ?_
  · intro event member id marked
    rw [Emission.protectionId_of_mem member, own] at marked
    rw [← Option.some.inj marked]
  · intro id channel
    exact Emission.leads_of_failed failed

def installEmission (action : ControlAction) (parts : LimitParts)
    (resourceParts : ResourceParts) (request : LimitRequest)
    (plan : InstallPlan) (now : ℚ) : Emission :=
  ⟨action, parts, resourceParts, request.appId, request.appName,
    some ⟨.manual, request.appId, plan.primary, now⟩, .manual⟩

variable {request : LimitRequest} {outcomes : InstallOutcomes}
  {plan : InstallPlan}

/-- A manual limit that no call accepts emits a failure. -/
theorem installResourceLimit_events_of_unrecorded
    (planned : balancer.installPlan request outcomes = .ok plan)
    (unrecorded : (plan.accepted balancer.isRunning outcomes).any = false) :
    ∃ parts, (balancer.installResourceLimit request outcomes).2.2.events =
        balancer.events ++ (installEmission .failed parts ⟨false, false⟩
          request plan outcomes.now).events := by
  simp only [InstallPlan.accepted] at unrecorded
  refine ⟨⟨plan.attemptsCpuMem balancer.isRunning,
    plan.attemptsIo balancer.isRunning⟩, ?_⟩
  simp only [Balancer.installResourceLimit, planned, unrecorded,
    Bool.false_eq_true, if_false, emit_events]
  rfl

theorem installResourceLimit_events_of_recorded
    (planned : balancer.installPlan request outcomes = .ok plan)
    (recorded : (plan.accepted balancer.isRunning outcomes).any = true) :
    ∃ failed, (balancer.installResourceLimit request outcomes).2.2.events =
        balancer.events ++ ((installEmission .applied
            (plan.accepted balancer.isRunning outcomes)
            ⟨plan.cpuQuota.isSome, plan.memHigh.isSome⟩ request plan
            outcomes.now).events ++
          (installEmission .failed failed
            ⟨plan.cpuQuota.isSome, plan.memHigh.isSome⟩ request plan
            outcomes.now).events) := by
  simp only [InstallPlan.accepted] at recorded
  let running := balancer.isRunning
  let cpuMem := (plan.cpuMem running outcomes).1
  refine ⟨⟨plan.attemptsCpuMem running && !cpuMem,
    plan.attemptsIo running && !plan.defersIo running cpuMem &&
      !(plan.io running cpuMem outcomes).1⟩, ?_⟩
  simp only [Balancer.installResourceLimit, planned, recorded, if_true,
    registerManual, emit_events, List.append_assoc]
  rfl

theorem Balanced.installResourceLimit (balanced : balancer.Balanced)
    {request : LimitRequest} {outcomes : InstallOutcomes}
    (unflagged : ∀ plan, balancer.installPlan request outcomes = .ok plan →
      (plan.accepted balancer.isRunning outcomes).any = true →
      ∀ entry, balancer.allLimits.apps.get? plan.primary = some entry →
        entry.limitParts.any = false) :
    (balancer.installResourceLimit request outcomes).2.2.Balanced := by
  cases planned : balancer.installPlan request outcomes with
  | error reply => rwa [installResourceLimit_refused planned]
  | ok plan =>
    cases recorded : (plan.accepted balancer.isRunning outcomes).any with
    | false =>
      obtain ⟨parts, emitted⟩ :=
        installResourceLimit_events_of_unrecorded planned recorded
      exact balanced.of_failed rfl rfl emitted
        (installResourceLimit_get?_of_unrecorded planned recorded)
    | true =>
      have quiet : ∀ id channel,
          flags (balancer.allLimits.apps.get? plan.primary) id channel =
            false := by
        intro id channel
        cases stored : balancer.allLimits.apps.get? plan.primary with
        | none => rfl
        | some entry =>
          simp [flags, of_eq_false_of_not_any
            (unflagged plan planned recorded entry stored)]
      obtain ⟨failed, emitted⟩ :=
        installResourceLimit_events_of_recorded planned recorded
      have keyEq : ProtectionId.effectiveAppId
        ⟨.manual, request.appId, plan.primary, outcomes.now⟩ =
          plan.primary := rfl
      refine balanced.changeOwn keyEq
        (stores_installResourceLimit planned recorded) emitted ?_ ?_ ?_ ?_
      · intro event member
        rcases List.mem_append.mp member with inApplied | inFailed
        · rw [Emission.protectionId_of_mem inApplied]
          rfl
        · rw [Emission.protectionId_of_mem inFailed]
          rfl
      · intro id channel _
        exact quiet id channel
      · intro new leaves
        rw [← Option.some.inj leaves]
        exact ⟨rfl, rfl⟩
      · intro channel
        rw [quiet, flags_of_own rfl]
        exact (Emission.leads_of_applied rfl rfl fun _ => rfl).append
          (Emission.leads_of_failed rfl)

theorem Balanced.applyDeferredIoCap (balanced : balancer.Balanced)
    {deferred : DeferredIo}
    (uncapped : ∀ entry,
      balancer.allLimits.apps.get? deferred.key = some entry →
      entry.limitParts.ioLimited = false)
    (outcome : Nat → IoCallOutcome) :
    (balancer.applyDeferredIoCap deferred outcome).Balanced := by
  cases stored : balancer.allLimits.apps.get? deferred.key with
  | none => simpa [Balancer.applyDeferredIoCap, stored] using balanced
  | some entry =>
    obtain ⟨ownId, own, keyEq, source⟩ :=
      balanced.ids deferred.key entry stored
    generalize called : deferredIoCall deferred outcome = call
    have result : balancer.applyDeferredIoCap deferred outcome =
        (balancer.writes call.2).recordDeferredIo deferred call.1 := by
      simp only [Balancer.applyDeferredIoCap, stored, called]
    have emitted : (balancer.applyDeferredIoCap deferred outcome).events =
        balancer.events ++ Emission.events
          ⟨if call.1 then .applied else .failed, .only .diskIo,
            ⟨false, false⟩, deferred.appId, deferred.appName,
            entry.protectionId, .manual⟩ := by
      rw [result, recordDeferredIo, writes_allLimits, stored]
      exact emit_events ..
    have lookup := recordDeferredIo_get? (balancer.writes call.2) stored call.1
    rw [← result] at lookup
    refine balanced.changeOwn keyEq lookup emitted ?_ ?_ ?_ ?_
    · intro event member
      rw [Emission.protectionId_of_mem member]
      exact own
    · rw [stored]
      exact flags_quiet own
    · intro new leaves
      rw [← Option.some.inj leaves]
      exact ⟨own, source⟩
    · intro channel
      have ownAfter : (deferredEntry entry call.1).protectionId =
        some ownId := own
      have closed := uncapped entry stored
      rw [stored, flags_of_own own, flags_of_own ownAfter]
      cases accepted : call.1 with
      | false =>
        have kept : (deferredEntry entry false).limitParts.of channel =
            entry.limitParts.of channel := by
          cases channel <;> simp [deferredEntry, LimitParts.of, closed]
        rw [kept]
        exact Emission.leads_of_failed rfl
      | true =>
        have opened : (deferredEntry entry true).limitParts.of channel =
            (entry.limitParts.of channel ||
              (LimitParts.only .diskIo).of channel) := by
          cases channel <;> simp [deferredEntry, LimitParts.of, LimitParts.only]
        rw [opened]
        refine Emission.leads_of_applied rfl own ?_
        intro concerned
        cases channel
        · cases concerned
        · exact closed

end Limits

end Balancer

end SmarTune
