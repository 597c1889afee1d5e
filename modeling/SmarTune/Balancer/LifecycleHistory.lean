import SmarTune.Balancer.Lifecycles

/-!
# Control lifecycles over histories

Restores of whole entries and handoffs close and open every channel of an entry
at once.  A history keeps the ledger balanced when no restore forgets an entry
with a failed channel or reports a channel recovered and keeps its flag, and no
manual limit replaces a flagged entry.
-/

namespace SmarTune

namespace Balancer

/-! ## Restores of whole entries -/

section Entries

variable {before after balancer : Balancer} {key : CgroupId}
  {entry : LimitedApp}

/-- The channels of an entry but those whose restore failed. -/
def restoredParts (entry : LimitedApp) (failed : LimitParts) : LimitParts :=
  ⟨entry.limitParts.cpuMemLimited && !failed.cpuMemLimited,
    entry.limitParts.ioLimited && !failed.ioLimited⟩

/-- The emissions of `_restore_entry`. -/
def entryEmission (entry : LimitedApp) (action : ControlAction)
    (parts : LimitParts) : Emission :=
  ⟨action, parts, entry.resourceParts, entry.publicAppId, entry.appName,
    entry.protectionId, .auto⟩

/-- The events of `_restore_entry`. -/
def entryEvents (entry : LimitedApp)
    (outcomes : EntryOutcomes) : List ControlEvent :=
  let failed := restoreEntryFailed entry outcomes
  (entryEmission entry .recovered (restoredParts entry failed)).events ++
    (entryEmission entry .failed failed).events

@[simp] theorem restoreEntry_events (outcomes : EntryOutcomes) :
    (balancer.restoreEntry entry outcomes).2.events =
      balancer.events ++ entryEvents entry outcomes := by
  simp only [restoreEntry, emit_events, writes_events, List.append_assoc]
  rfl

variable {id : ProtectionId} {outcomes : EntryOutcomes}

theorem leads_recoveredThenFailed {recovered failed : Emission}
    {channel : Channel} {start : Bool}
    (isRecovered : recovered.action = .recovered)
    (isFailed : failed.action = .failed)
    (own : recovered.protectionId = some id)
    (opened : recovered.parts.of channel = true → start = true) :
    OpenLog.Leads (lifecycleMark id channel) start
      (recovered.events ++ failed.events)
      (start && !recovered.parts.of channel) :=
  (Emission.leads_of_recovered isRecovered own opened).append
    (Emission.leads_of_failed isFailed)

theorem restoredParts_of (entry : LimitedApp) (failed : LimitParts)
    (channel : Channel) :
    (restoredParts entry failed).of channel =
      (entry.limitParts.of channel && !failed.of channel) := by
  cases channel <;> rfl

theorem protectionId_of_entryEvents {event : ControlEvent}
    (member : event ∈ entryEvents entry outcomes) :
    event.protectionId = entry.protectionId := by
  rcases List.mem_append.mp member with inRecovered | inFailed
  · exact Emission.protectionId_of_mem inRecovered
  · exact Emission.protectionId_of_mem inFailed

theorem leads_entryEvents (own : entry.protectionId = some id)
    (channel : Channel) :
    OpenLog.Leads (lifecycleMark id channel) (entry.limitParts.of channel)
      (entryEvents entry outcomes)
      (entry.limitParts.of channel &&
        (restoreEntryFailed entry outcomes).of channel) := by
  have opened : (restoredParts entry
      (restoreEntryFailed entry outcomes)).of channel = true →
      entry.limitParts.of channel = true := by
    rw [restoredParts_of]
    simp +contextual
  have closes : (entry.limitParts.of channel &&
        (restoreEntryFailed entry outcomes).of channel) =
      (entry.limitParts.of channel && !(restoredParts entry
        (restoreEntryFailed entry outcomes)).of channel) := by
    rw [restoredParts_of]
    cases entry.limitParts.of channel <;> simp
  rw [closes]
  exact leads_recoveredThenFailed rfl rfl own opened

theorem Balanced.forget (balanced : before.Balanced) {outcomes : EntryOutcomes}
    (stored : before.allLimits.apps.get? key = some entry)
    (restores : (restoreEntryFailed entry outcomes).any = false)
    (emitted : after.events = before.events ++ entryEvents entry outcomes)
    (lookup : ∀ other, after.allLimits.apps.get? other =
      if other = key then none else before.allLimits.apps.get? other) :
    after.Balanced := by
  obtain ⟨ownId, own, keyEq, _⟩ := balanced.ids key entry stored
  refine balanced.changeOwn keyEq lookup emitted ?_ ?_ ?_ ?_
  · intro event member
    rw [protectionId_of_entryEvents member]
    exact own
  · rw [stored]
    exact flags_quiet own
  · intro new leaves
    cases leaves
  · intro channel
    have closes : (entry.limitParts.of channel &&
        (restoreEntryFailed entry outcomes).of channel) = false := by
      rw [of_eq_false_of_not_any restores, Bool.and_false]
    rw [stored, flags_of_own own, flags_none, ← closes]
    exact leads_entryEvents own channel

theorem Balanced.forgetAll {gone : List (CgroupId × LimitedApp)}
    {outcomes : CgroupId → EntryOutcomes} (balanced : before.Balanced)
    (stored : ∀ app ∈ gone, before.allLimits.apps.get? app.1 = some app.2)
    (distinct : (gone.map Prod.fst).Nodup)
    (restores : ∀ app ∈ gone,
      (restoreEntryFailed app.2 (outcomes app.1)).any = false)
    (emitted : after.events = before.events ++ gone.flatMap fun app =>
      entryEvents app.2 (outcomes app.1))
    (lookup : ∀ other, after.allLimits.apps.get? other =
      if other ∈ gone.map Prod.fst then none
      else before.allLimits.apps.get? other) :
    after.Balanced := by
  induction gone generalizing before with
  | nil =>
    refine balanced.of_silent (by simpa using emitted) ?_
    intro key
    rw [lookup]
    simp
  | cons app gone ih =>
    rw [List.map_cons, List.nodup_cons] at distinct
    let middle : Balancer := { before.popEntry app.1 with
      events := before.events ++ entryEvents app.2 (outcomes app.1) }
    have lookupMiddle : ∀ other, middle.allLimits.apps.get? other =
        if other = app.1 then none
        else before.allLimits.apps.get? other :=
      before.popEntry_get? app.1
    have balancedMiddle : middle.Balanced :=
      balanced.forget (stored app List.mem_cons_self)
        (restores app List.mem_cons_self) rfl lookupMiddle
    refine ih balancedMiddle ?_ distinct.2
      (fun other member => restores other (List.mem_cons_of_mem _ member))
      ?_ ?_
    · intro other member
      have different : other.1 ≠ app.1 := by
        intro same
        exact distinct.1 (same ▸ List.mem_map_of_mem member)
      rw [lookupMiddle, if_neg different]
      exact stored other (List.mem_cons_of_mem _ member)
    · rw [emitted, List.flatMap_cons, ← List.append_assoc]
    · intro other
      rw [lookup, lookupMiddle]
      simp only [List.map_cons, List.mem_cons]
      by_cases same : other = app.1
      · rw [if_pos (Or.inl same), if_pos same, ite_self]
      · simp only [same, false_or, if_false]

end Entries

section Paths

variable {balancer : Balancer}

theorem Balanced.setRestoreResource (balanced : balancer.Balanced)
    {appId : String} {outcomes : ManualRestoreOutcomes}
    (accepted : ∀ key entry,
      balancer.allLimits.byPublicId appId .manual = some (key, entry) →
      (manualRestoreCpuMem key entry outcomes).1 = true ∧
        (manualRestoreIo key entry outcomes).1 = true) :
    (balancer.setRestoreResource appId outcomes).2.Balanced := by
  cases found : balancer.allLimits.byPublicId appId .manual with
  | none => simpa [Balancer.setRestoreResource, found] using balanced
  | some app =>
    obtain ⟨key, entry⟩ := app
    obtain ⟨cpuMem, io⟩ := accepted key entry found
    obtain ⟨stored, _⟩ := LimitRegistry.byPublicId_eq_some found
    obtain ⟨ownId, own, keyEq, _⟩ := balanced.ids key entry stored
    let emission := fun action parts => Emission.mk action parts
      entry.resourceParts appId (orElseName entry.appName appId)
      entry.protectionId .manual
    have emitted : (balancer.setRestoreResource appId outcomes).2.events =
        balancer.events ++
          ((emission .recovered (restoredParts entry .none)).events ++
            (emission .failed .none).events) := by
      simp only [Balancer.setRestoreResource, found, emit_events, cpuMem, io,
        writes_events, List.append_assoc, Bool.not_true, Bool.and_false]
      rfl
    have lookup : ∀ other, (balancer.setRestoreResource appId
        outcomes).2.allLimits.apps.get? other =
        if other = key then none
        else balancer.allLimits.apps.get? other := by
      intro other
      simp [Balancer.setRestoreResource, found]
    refine balanced.changeOwn keyEq lookup emitted ?_ ?_ ?_ ?_
    · intro event member
      rcases List.mem_append.mp member with inRecovered | inFailed
      · exact (Emission.protectionId_of_mem inRecovered).trans own
      · exact (Emission.protectionId_of_mem inFailed).trans own
    · rw [stored]
      exact flags_quiet own
    · intro new leaves
      cases leaves
    · intro channel
      have all : (restoredParts entry .none).of channel =
          entry.limitParts.of channel := by
        rw [restoredParts_of]
        cases channel <;> simp [LimitParts.of, LimitParts.none]
      have closes : (entry.limitParts.of channel &&
          !(restoredParts entry .none).of channel) = false := by
        rw [all, Bool.and_not_self]
      rw [stored, flags_of_own own, flags_none, ← closes]
      refine leads_recoveredThenFailed rfl rfl own ?_
      intro recovered
      rwa [← all]

@[simp] theorem popClosed_events (key : CgroupId) :
    (balancer.popClosed key).events = balancer.events := rfl

/-- The reaper emits what its restores emit. -/
theorem reapClosedApps_events (closed : CgroupId → Bool)
    (outcomes : CgroupId → EntryOutcomes) :
    (balancer.reapClosedApps closed outcomes).events =
      balancer.events ++ (balancer.popAllClosed closed).1.flatMap fun app =>
        entryEvents app.2 (outcomes app.1) := by
  have restored : ∀ (gone : List (CgroupId × LimitedApp)) (before : Balancer),
      (gone.foldl (fun balancer app =>
        (balancer.restoreEntry app.2 (outcomes app.1)).2) before).events =
      before.events ++ gone.flatMap fun app =>
        entryEvents app.2 (outcomes app.1) := by
    intro gone
    induction gone with
    | nil => simp
    | cons app gone ih =>
      intro before
      rw [List.foldl_cons, ih, restoreEntry_events,
        List.flatMap_cons, List.append_assoc]
  have popped : ∀ (gone : List (CgroupId × LimitedApp)) (before : Balancer),
      (gone.foldl (fun balancer app => balancer.popClosed app.1)
        before).events = before.events := by
    intro gone
    induction gone with
    | nil => exact fun _ => rfl
    | cons app gone ih =>
      intro before
      rw [List.foldl_cons, ih, popClosed_events]
  rw [reapClosedApps, restored]
  congr 1
  exact popped _ _

theorem Balanced.reapClosedApps (balanced : balancer.Balanced)
    {closed : CgroupId → Bool} {outcomes : CgroupId → EntryOutcomes}
    (restores : ∀ key entry, balancer.allLimits.apps.get? key = some entry →
      closed key = true →
      (restoreEntryFailed entry (outcomes key)).any = false) :
    (balancer.reapClosedApps closed outcomes).Balanced := by
  have member : ∀ app ∈ (balancer.popAllClosed closed).1,
      balancer.allLimits.apps.get? app.1 = some app.2 ∧
        closed app.1 = true := by
    intro app gone
    obtain ⟨present, isClosed⟩ := List.mem_filter.mp gone
    exact ⟨(OrderedDict.get?_eq_some_iff _ _ _).mpr present, isClosed⟩
  refine balanced.forgetAll (fun app gone => (member app gone).1) ?_
    (fun app gone => restores app.1 app.2 (member app gone).1
      (member app gone).2)
    (reapClosedApps_events closed outcomes) ?_
  · exact balancer.allLimits.apps.nodupKeys.sublist
      (List.filter_sublist.map Prod.fst)
  · intro other
    have restoring := (balancer.popAllClosed closed).2.foldl_restoreEntry
      (balancer.popAllClosed closed).1 outcomes
    refine (congrArg (fun limits => limits.apps.get? other)
      restoring.2).trans ?_
    exact balancer.foldl_popClosed_get? other _

theorem Balanced.restoreAutoLimited (balanced : balancer.Balanced)
    {appId : String} {exclude : Bool} {outcomes : EntryOutcomes} {now : ℚ}
    (whole : ∀ key entry, balancer.findAuto appId = some (key, entry) →
      restoreEntryResult entry outcomes = false →
      ∀ channel, entry.limitParts.of channel = true →
        (restoreEntryFailed entry outcomes).of channel = true) :
    (balancer.restoreAutoLimited appId exclude outcomes now).2.Balanced := by
  cases found : balancer.findAuto appId with
  | none => simpa [Balancer.restoreAutoLimited, found] using balanced
  | some app =>
    obtain ⟨key, entry⟩ := app
    have stored := (findAuto_eq_some found).1
    cases succeeded : restoreEntryResult entry outcomes with
    | true =>
      rw [restoreAutoLimited_of_succeeded found succeeded]
      have restores : (restoreEntryFailed entry outcomes).any = false := by
        simp only [restoreEntryResult, Bool.and_eq_true,
          Bool.not_eq_true'] at succeeded
        exact succeeded.1
      refine balanced.forget stored restores ?_ ?_
      · cases exclude <;> simp [forgetRestored, popSwept]
      · intro other
        cases exclude <;> simp [forgetRestored]
    | false =>
      rw [restoreAutoLimited_of_failed found succeeded]
      obtain ⟨ownId, own, keyEq, source⟩ := balanced.ids key entry stored
      have lookup : ∀ other, (balancer.restoreEntry entry
          outcomes).2.allLimits.apps.get? other =
          if other = key then some entry
          else balancer.allLimits.apps.get? other := by
        intro other
        rw [restoreEntry_allLimits]
        split
        · next same => rw [same, stored]
        · rfl
      refine balanced.changeOwn keyEq lookup
        (restoreEntry_events outcomes) ?_ ?_ ?_ ?_
      · intro event member
        rw [protectionId_of_entryEvents member]
        exact own
      · rw [stored]
        exact flags_quiet own
      · intro new leaves
        rw [← Option.some.inj leaves]
        exact ⟨own, source⟩
      · intro channel
        have stays : (entry.limitParts.of channel &&
            (restoreEntryFailed entry outcomes).of channel) =
            entry.limitParts.of channel := by
          cases flag : entry.limitParts.of channel with
          | false => rfl
          | true => rw [whole key entry found succeeded channel flag]; rfl
        rw [stored, flags_of_own own]
        have leads : OpenLog.Leads (lifecycleMark ownId channel)
            (entry.limitParts.of channel) (entryEvents entry outcomes)
            (entry.limitParts.of channel &&
              (restoreEntryFailed entry outcomes).of channel) :=
          leads_entryEvents own channel
        rwa [stays] at leads

theorem Balanced.sweep {outcomes : CgroupId → EntryOutcomes}
    (keys : List CgroupId) (balanced : balancer.Balanced)
    (restores : ∀ key entry, balancer.allLimits.apps.get? key = some entry →
      (restoreEntryFailed entry (outcomes key)).any = false) :
    (keys.foldl (sweepEntry outcomes) balancer).Balanced := by
  induction keys generalizing balancer with
  | nil => exact balanced
  | cons key keys ih =>
    rw [List.foldl_cons]
    apply ih
    · cases stored : balancer.allLimits.apps.get? key with
      | none =>
        refine balanced.of_silent (by simp [sweepEntry, stored, popSwept]) ?_
        intro other
        rw [sweepEntry_get?]
        split
        · next same => rw [same, stored]
        · rfl
      | some entry =>
        refine balanced.forget stored (restores key entry stored) ?_
          (balancer.sweepEntry_get? outcomes key)
        simp [sweepEntry, stored, popSwept]
    · intro other entry stored
      rw [sweepEntry_get?] at stored
      split at stored
      · cases stored
      · exact restores other entry stored

/-- A handoff closes the lifecycle of the auto limit and opens that of the
manual one. -/
theorem Balanced.handOver (balanced : balancer.Balanced) {key : CgroupId}
    {entry old : LimitedApp} (flips : balancer.FlipsAuto key entry old)
    (now : ℚ) :
    (balancer.handOver key entry now).Balanced := by
  obtain ⟨oldId, oldOwn, keyEq, oldSource⟩ :=
    balanced.ids key old flips.stored
  have own : entry.protectionId = some oldId :=
    flips.protectionId.trans oldOwn
  let newId : ProtectionId := ⟨.manual, entry.publicAppId, key, now⟩
  have different : oldId ≠ newId := by
    intro same
    have source : oldId.source = newId.source := congrArg (·.source) same
    rw [oldSource, flips.auto] at source
    cases source
  let closing : Emission := ⟨.recovered, entry.limitParts, entry.resourceParts,
    entry.publicAppId, entry.appName, entry.protectionId, .auto⟩
  let opening : Emission := ⟨.applied, entry.limitParts, entry.resourceParts,
    entry.publicAppId, entry.appName, some newId, .manual⟩
  have emitted : (balancer.handOver key entry now).events =
      balancer.events ++ (closing.events ++ opening.events) := by
    simp only [Balancer.handOver, emit_events, withApps]
    rw [List.append_assoc]
    rfl
  refine balanced.change (stores_handOver key entry now) emitted ?_ ?_ ?_
  · intro new leaves
    rw [← Option.some.inj leaves]
    exact ⟨newId, rfl, rfl, rfl⟩
  · intro event member id marked
    rcases List.mem_append.mp member with inClosing | inOpening
    · have same : some oldId = some id := own.symm.trans
        ((Emission.protectionId_of_mem inClosing).symm.trans marked)
      rw [← Option.some.inj same, keyEq]
    · have same : some newId = some id :=
        (Emission.protectionId_of_mem inOpening).symm.trans marked
      rw [← Option.some.inj same]
  · intro id channel
    have newOwn : (handedOver key entry now).protectionId = some newId := rfl
    rw [flips.stored]
    by_cases isOld : id = oldId
    · subst isOld
      have flagged : entry.limitParts.of channel = old.limitParts.of channel :=
        congrArg (·.of channel) flips.limitParts
      have closes : OpenLog.Leads (lifecycleMark id channel)
          (entry.limitParts.of channel) closing.events
          (entry.limitParts.of channel && !entry.limitParts.of channel) :=
        Emission.leads_of_recovered rfl own fun opened => opened
      rw [Bool.and_not_self] at closes
      rw [flags_of_own oldOwn, flags_quiet newOwn id channel different,
        ← flagged]
      refine closes.append (Emission.leads_of_foreign ?_)
      exact fun same => different (Option.some.inj same).symm
    · rw [flags_quiet oldOwn id channel isOld]
      have foreign : entry.protectionId ≠ some id := by
        rw [own]
        exact fun same => isOld (Option.some.inj same).symm
      refine (Emission.leads_of_foreign foreign).append ?_
      by_cases isNew : id = newId
      · subst isNew
        rw [flags_of_own newOwn]
        exact Emission.leads_of_applied rfl rfl fun _ => rfl
      · rw [flags_quiet newOwn id channel isNew]
        apply Emission.leads_of_foreign
        exact fun same => isNew (Option.some.inj same).symm

/-- Freezing changes no lifecycle. -/
theorem Balanced.setFreeze (balanced : balancer.Balanced) (appId : String)
    (freeze : Bool) (outcomes : SetFreezeOutcomes) :
    (balancer.setFreeze appId freeze outcomes).2.Balanced := by
  unfold Balancer.setFreeze
  cases balancer.allLimits.byPublicId appId .manual with
  | none => exact balanced
  | some app =>
    obtain ⟨key, entry⟩ := app
    simp only
    split
    · exact balanced
    split
    · split <;> exact balanced.of_silent rfl fun _ => rfl
    · refine balanced.of_silent (by simp) ?_
      intro other
      rw [modifyEntry_get?]
      split
      · next same =>
        rw [same, Option.map_map]
        rfl
      · rfl

end Paths

/-! ## The service flag -/

/-- A stopped service has no entries. -/
def EmptyOnceStopped (balancer : Balancer) : Prop :=
  balancer.isRunning = false → ∀ key, balancer.allLimits.apps.get? key = none

section Running

variable {before after balancer : Balancer}

theorem EmptyOnceStopped.running (empty : balancer.EmptyOnceStopped)
    {key : CgroupId} {entry : LimitedApp}
    (stored : balancer.allLimits.apps.get? key = some entry) :
    balancer.isRunning = true := by
  by_contra stopped
  rw [empty (by simpa using stopped) key] at stored
  cases stored

theorem EmptyOnceStopped.narrows (empty : before.EmptyOnceStopped)
    (same : after.isRunning = before.isRunning)
    (narrows : Narrows before after) :
    after.EmptyOnceStopped := by
  intro stopped key
  cases stored : after.allLimits.apps.get? key with
  | none => rfl
  | some entry =>
    obtain ⟨old, storedOld, _⟩ := narrows key entry stored
    rw [empty (same ▸ stopped) key] at storedOld
    cases storedOld

theorem applyResourceLimits_isRunning (target : Candidate) (appId : CgroupId)
    (limitRates : LimitRates) (isControlled isDiskIoStressed : Bool)
    (pressureLevel : String) (outcomes : ApplyOutcomes) :
    (balancer.applyResourceLimits target appId limitRates isControlled
      isDiskIoStressed pressureLevel outcomes).isRunning =
      balancer.isRunning := by
  unfold applyResourceLimits
  split
  · rfl
  · simp only
    split <;> simp [upsertAutoLimited]

theorem running_of_applyChannel {isRunning : Bool} {target : Candidate}
    {appId : CgroupId} {limitRates : LimitRates} {isDiskIoStressed : Bool}
    {outcomes : ApplyOutcomes}
    (accepted : (applyChannel isRunning target appId limitRates
      isDiskIoStressed outcomes).1 = true) :
    isRunning = true := by
  by_contra stopped
  simp only [Bool.not_eq_true] at stopped
  subst stopped
  cases isDiskIoStressed with
  | false => simp [applyChannel, applyCpuMem] at accepted
  | true =>
    simp only [applyChannel, if_true, applyDiskIo] at accepted
    split at accepted <;> simp at accepted

theorem installResourceLimit_isRunning (request : LimitRequest)
    (outcomes : InstallOutcomes) :
    (balancer.installResourceLimit request outcomes).2.2.isRunning =
      balancer.isRunning := by
  cases planned : balancer.installPlan request outcomes with
  | error reply => rw [installResourceLimit_refused planned]
  | ok plan =>
    simp only [installResourceLimit, planned]
    split <;> simp [registerManual]

theorem running_of_accepted {plan : InstallPlan} {isRunning : Bool}
    {outcomes : InstallOutcomes}
    (recorded : (plan.accepted isRunning outcomes).any = true) :
    isRunning = true := by
  by_contra stopped
  simp only [Bool.not_eq_true] at stopped
  subst stopped
  simp only [InstallPlan.accepted, InstallPlan.cpuMem,
    InstallPlan.attemptsCpuMem, InstallPlan.io, Bool.and_false,
    Bool.false_eq_true, if_false, Bool.false_and, LimitParts.any,
    Bool.false_or] at recorded
  split at recorded <;> cases recorded

theorem applyDeferredIoCap_isRunning (deferred : DeferredIo)
    (outcome : Nat → IoCallOutcome) :
    (balancer.applyDeferredIoCap deferred outcome).isRunning =
      balancer.isRunning := by
  unfold applyDeferredIoCap
  split
  · rfl
  · simp only [recordDeferredIo]
    split <;> simp

theorem setFreeze_isRunning (appId : String) (freeze : Bool)
    (outcomes : SetFreezeOutcomes) :
    (balancer.setFreeze appId freeze outcomes).2.isRunning =
      balancer.isRunning := by
  unfold setFreeze
  split
  · rfl
  · simp only
    split
    · rfl
    split
    · split <;> rfl
    · simp

@[simp] theorem restoreEntry_isRunning (entry : LimitedApp)
    (outcomes : EntryOutcomes) :
    (balancer.restoreEntry entry outcomes).2.isRunning =
      balancer.isRunning := by
  simp [restoreEntry]

theorem restored_isRunning (path : RestorePath) :
    (balancer.restored path).isRunning = balancer.isRunning := by
  cases path with
  | manual appId outcomes =>
    simp only [restored, setRestoreResource]
    split
    · rfl
    · simp [popManual]
  | reaper closed outcomes =>
    simp only [restored, reapClosedApps]
    rw [← balancer.popAllClosed_isRunning closed]
    generalize (balancer.popAllClosed closed).1 = gone
    generalize (balancer.popAllClosed closed).2 = popped
    induction gone generalizing popped with
    | nil => rfl
    | cons app gone ih => rw [List.foldl_cons, ih, restoreEntry_isRunning]
  | user appId exclude outcomes now =>
    rw [restored]
    cases found : balancer.findAuto appId with
    | none => simp [restoreAutoLimited, found]
    | some app =>
      obtain ⟨key, entry⟩ := app
      cases succeeded : restoreEntryResult entry outcomes with
      | false => simp [restoreAutoLimited_of_failed found succeeded]
      | true =>
        rw [restoreAutoLimited_of_succeeded found succeeded]
        cases exclude <;> simp [forgetRestored, popSwept]
  | staged channel restoreType outcomes =>
    simp only [restored, restoreChannel, undisturbed, Bool.false_eq_true,
      if_false]
    split
    · rfl
    · exact restoreChannelFor_isRunning ..

theorem handOver_isRunning (key : CgroupId) (entry : LimitedApp) (now : ℚ) :
    (balancer.handOver key entry now).isRunning = balancer.isRunning := by
  simp [handOver]

end Running

end Balancer

/-! ## Every history -/

namespace LimitSystem

open Balancer

/-- When an operation keeps the ledger balanced, read off the state before it
and the answers of the environment. -/
def KeepsLifecycles (system : LimitSystem) : LimitOperation → Prop
  | .limit request outcomes =>
    ∀ plan, system.balancer.installPlan request outcomes = .ok plan →
      (plan.accepted system.balancer.isRunning outcomes).any = true →
      ∀ entry, system.balancer.allLimits.apps.get? plan.primary = some entry →
        entry.limitParts.any = false
  | .deferredIo position _ =>
    ∀ deferred, system.pending[position]? = some deferred → ∀ entry,
        system.balancer.allLimits.apps.get? deferred.key = some entry →
        entry.limitParts.ioLimited = false
  | .restore (.manual appId outcomes) =>
    ∀ key entry, system.balancer.allLimits.byPublicId appId .manual =
        some (key, entry) →
      (manualRestoreCpuMem key entry outcomes).1 = true ∧
        (manualRestoreIo key entry outcomes).1 = true
  | .restore (.reaper closed outcomes) =>
    ∀ key entry, system.balancer.allLimits.apps.get? key = some entry →
      closed key = true →
      (restoreEntryFailed entry (outcomes key)).any = false
  | .restore (.user appId _ outcomes _) =>
    ∀ key entry, system.balancer.findAuto appId = some (key, entry) →
      restoreEntryResult entry outcomes = false →
      ∀ channel, entry.limitParts.of channel = true →
        (restoreEntryFailed entry outcomes).of channel = true
  | .shutdown outcomes =>
    ∀ key entry, system.balancer.allLimits.apps.get? key = some entry →
      (restoreEntryFailed entry (outcomes key)).any = false
  | _ => True

/-- What holds of every state reached. -/
structure LedgerKept (balancer : Balancer) : Prop where
  balanced : balancer.Balanced
  empty : balancer.EmptyOnceStopped

section Step

variable {system : LimitSystem}

theorem LedgerKept.handOverTarget (kept : LedgerKept system.balancer)
    {target : Option (CgroupId × LimitedApp)}
    (flips : ∀ key entry, target = some (key, entry) →
      ∃ old, system.balancer.FlipsAuto key entry old)
    (now : ℚ) :
    LedgerKept (system.balancer.handOverTarget target now) := by
  cases target with
  | none => exact kept
  | some app =>
    obtain ⟨key, entry⟩ := app
    obtain ⟨old, flipsOld⟩ := flips key entry rfl
    refine ⟨kept.balanced.handOver flipsOld now, ?_⟩
    intro stopped
    have running := kept.empty.running flipsOld.stored
    rw [Balancer.handOverTarget, handOver_isRunning, running] at stopped
    cases stopped

theorem LedgerKept.restored (kept : LedgerKept system.balancer)
    {path : RestorePath} (keeps : system.KeepsLifecycles (.restore path)) :
    LedgerKept (system.balancer.restored path) where
  empty := kept.empty.narrows (restored_isRunning path)
    (narrows_restored system.balancer path)
  balanced := by
    cases path with
    | manual appId outcomes => exact kept.balanced.setRestoreResource keeps
    | reaper closed outcomes => exact kept.balanced.reapClosedApps keeps
    | user appId exclude outcomes now =>
      exact kept.balanced.restoreAutoLimited keeps
    | staged channel restoreType outcomes =>
      simp only [Balancer.restored, restoreChannel, undisturbed,
        Bool.false_eq_true, if_false]
      cases found : system.balancer.allLimits.firstAutoWithPart channel
          (restoreType = .partially) with
      | none => exact kept.balanced
      | some app =>
        obtain ⟨key, entry⟩ := app
        obtain ⟨stored, _, carries, _⟩ :=
          LimitRegistry.firstAutoWithPart_eq_some found
        exact kept.balanced.restoreChannelFor (kept.empty.running stored)
          stored carries restoreType outcomes

theorem LedgerKept.step (kept : LedgerKept system.balancer)
    {operation : LimitOperation} (keeps : system.KeepsLifecycles operation) :
    LedgerKept (system.step operation).balancer := by
  have running : ∀ key entry,
      system.balancer.allLimits.apps.get? key = some entry →
      system.balancer.isRunning = true := fun _ _ => kept.empty.running
  cases operation with
  | applyLimits target appId limitRates isControlled isDiskIoStressed
      pressureLevel outcomes =>
      have sameFlag := system.balancer.applyResourceLimits_isRunning target
        appId limitRates isControlled isDiskIoStressed pressureLevel outcomes
      refine ⟨kept.balanced.applyResourceLimits running _ _ _ _ _ _ _, ?_⟩
      by_cases records : system.balancer.RecordsAuto target appId limitRates
          isDiskIoStressed outcomes
      · intro stopped
        rw [LimitSystem.step, sameFlag,
          running_of_applyChannel records.2] at stopped
        cases stopped
      · exact kept.empty.narrows sameFlag (narrows_applyResourceLimits records)
  | limit request outcomes =>
    refine ⟨kept.balanced.installResourceLimit keeps, ?_⟩
    have sameFlag := system.balancer.installResourceLimit_isRunning request
      outcomes
    cases planned : system.balancer.installPlan request outcomes with
    | error reply =>
      refine kept.empty.narrows sameFlag (narrows_of_same fun _ => ?_)
      simp only [LimitSystem.step, installResourceLimit_refused planned]
    | ok plan =>
      cases recorded :
          (plan.accepted system.balancer.isRunning outcomes).any with
      | false =>
        exact kept.empty.narrows sameFlag (narrows_of_same
          (installResourceLimit_get?_of_unrecorded planned recorded))
      | true =>
        intro stopped
        rw [LimitSystem.step, sameFlag, running_of_accepted recorded] at stopped
        cases stopped
  | deferredIo position outcome =>
    simp only [LimitSystem.step]
    cases item : system.pending[position]? with
    | none => exact kept
    | some deferred =>
      exact ⟨kept.balanced.applyDeferredIoCap (keeps deferred item) outcome,
        kept.empty.narrows (applyDeferredIoCap_isRunning deferred outcome)
          (narrows_applyDeferredIoCap deferred outcome)⟩
  | freeze appId freeze outcomes =>
    exact ⟨kept.balanced.setFreeze appId freeze outcomes,
      kept.empty.narrows (setFreeze_isRunning appId freeze outcomes)
        (narrows_setFreeze appId freeze outcomes)⟩
  | restore path => exact kept.restored keeps
  | lockToManual appId currentControlled now =>
    simp only [LimitSystem.step, lockToManual_eq]
    exact kept.handOverTarget (fun _ _ => lockTarget_eq_some) now
  | adopt effectiveAppId newAppId newAppName priority now =>
    simp only [LimitSystem.step, adoptAutoLimit_eq]
    exact kept.handOverTarget (fun _ _ => adoptTarget_eq_some) now
  | removeExclusion ident =>
    exact ⟨kept.balanced.of_silent rfl fun key => by
        simp [LimitSystem.step, removeAutoLimitExclusion],
      kept.empty.narrows rfl
        (narrows_removeAutoLimitExclusion system.balancer ident)⟩
  | shutdown outcomes =>
    have stopped : ({ system.balancer with
        isRunning := false } : Balancer).Balanced :=
      kept.balanced.of_silent rfl fun _ => rfl
    exact ⟨stopped.sweep _ keeps, fun _ key =>
      restoreAllLimitedAppsResources_get? _ outcomes key⟩

/-- A service that has just started. -/
theorem ledgerKept_initial : LedgerKept initial.balancer where
  balanced :=
    { ids := fun _ _ stored => by cases stored
      alternates := fun _ _ => trivial
      opened := fun _ _ => rfl }
  empty := fun _ _ => rfl

/-- In a history whose restores report what they leave and whose manual limits
replace no flagged entry, the events of each channel of each protection
alternate, and the channel is open exactly while an entry with that id flags
it. -/
theorem lifecycles_alternate {operations : List LimitOperation}
    (keeping : Runs.EveryStep step KeepsLifecycles initial operations)
    (id : ProtectionId) (channel : Channel) :
    let balancer := (Runs.run step initial operations).balancer
    OpenLog.Alternates (lifecycleMark id channel) false balancer.events ∧
    (OpenLog.after (lifecycleMark id channel) false balancer.events = true ↔
      ∃ key entry, balancer.allLimits.apps.get? key = some entry ∧
        entry.protectionId = some id ∧
        entry.limitParts.of channel = true) := by
  have kept : LedgerKept (Runs.run step initial operations).balancer :=
    Runs.invariant_run (fun system => LedgerKept system.balancer)
      (fun _ _ before keeps => before.step keeps) ledgerKept_initial keeping
  exact ⟨kept.balanced.alternates id channel,
    kept.balanced.opened_iff id channel⟩

end Step

/-- The app's disk cap, on top of its CPU cap, every write accepted. -/
def limitDisk (appId : CgroupId) : LimitOperation :=
  .applyLimits { publicAppId := some "app" } appId
    ⟨some (some (1 / 2)), none, some (some ⟨10, 10, 100, 100⟩)⟩ true true
    "critical" (.accepting [("sda", "8:0")] 0)

/-- The user restores the app; the disk writes are accepted or refused. -/
def userRestore (disks : Bool) : LimitOperation :=
  .restore (.user "app" true
    { cgroupExists := fun _ => true
      adjust := fun _ => .accepting
      io := fun _ => { IoCallOutcome.accepting [("sda", "8:0")] with
        ioEnabled := disks }
      thaw := fun _ => .accepting } 1)

/-- A user's restore that fails on the disk channel reports the other one
recovered and keeps its flag: the retry reports it again. -/
theorem retried_restore_recovers_twice :
    ¬ OpenLog.Alternates (lifecycleMark ⟨.auto, "app", "a.scope", 0⟩ .sys)
      false (Runs.run step initial [limitCpu "a.scope" [], limitDisk "a.scope",
        userRestore false, userRestore true]).balancer.events := by
  decide +kernel

/-- Limited on both channels and restored at once, both lifecycles alternate. -/
theorem restored_once_alternates :
    OpenLog.Alternates (lifecycleMark ⟨.auto, "app", "a.scope", 0⟩ .sys)
      false (Runs.run step initial [limitCpu "a.scope" [], limitDisk "a.scope",
        userRestore true]).balancer.events := by
  have keeping : Runs.EveryStep step KeepsLifecycles initial
      [limitCpu "a.scope" [], limitDisk "a.scope", userRestore true] := by
    refine ⟨trivial, trivial, ?_, trivial⟩
    intro key entry found failed
    have restored : ((Runs.run step initial [limitCpu "a.scope" [],
        limitDisk "a.scope"]).balancer.findAuto "app").all (fun app =>
          restoreEntryResult app.2
            { cgroupExists := fun _ => true
              adjust := fun _ => .accepting
              io := fun _ => { IoCallOutcome.accepting [("sda", "8:0")] with
                ioEnabled := true }
              thaw := fun _ => .accepting }) = true := by decide +kernel
    have target : (Runs.run step initial [limitCpu "a.scope" [],
      limitDisk "a.scope"]).balancer.findAuto "app" = some (key, entry) := found
    rw [target] at restored
    exact absurd (failed.symm.trans restored) (by decide)
  exact (lifecycles_alternate keeping ⟨.auto, "app", "a.scope", 0⟩ .sys).1

end LimitSystem

end SmarTune
