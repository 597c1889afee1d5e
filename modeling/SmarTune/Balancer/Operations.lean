import SmarTune.Balancer.Manual

/-!
# The operations on limits

The reaper, the user's restore of an auto limit, the handoffs of an auto limit
to the user and the shutdown sweep join the apply, install and restore paths:
together they are the operations a history of limits is made of.  The service
runs them one after the other here.
-/

namespace SmarTune
namespace Balancer

/-! ## Forgetting entries -/

/-- Forget the entry of a closed app with its peak and its exclusion. -/
def popClosed (balancer : Balancer) (key : CgroupId) : Balancer :=
  let limits := (balancer.popEntry key).allLimits.removeExclusion key
  { balancer with
    allLimits := { limits with
      manualLimitBaseline := limits.manualLimitBaseline.erase key } }

/-- The section of `_reap_closed_apps` under the registry lock: the forgotten
entries and the new state. -/
def popAllClosed (balancer : Balancer)
    (closed : CgroupId → Bool) : List (CgroupId × LimitedApp) × Balancer :=
  let gone := balancer.allLimits.apps.entries.filter fun app => closed app.1
  (gone, gone.foldl (fun balancer app => balancer.popClosed app.1) balancer)

/-- One round of `restore_all_limited_apps_resources` before its writes. -/
def popSwept (balancer : Balancer) (key : CgroupId) : Balancer :=
  let limits := (balancer.popEntry key).allLimits
  { balancer with
    allLimits := { limits with
      manualLimitBaseline := limits.manualLimitBaseline.erase key } }

/-- `_reap_closed_apps`: forget the entries of closed apps, then restore
them. -/
def reapClosedApps (balancer : Balancer) (closed : CgroupId → Bool)
    (outcomes : CgroupId → EntryOutcomes) : Balancer :=
  let popped := balancer.popAllClosed closed
  popped.1.foldl
    (fun balancer app => (balancer.restoreEntry app.2 (outcomes app.1)).2)
    popped.2

/-- One round of `restore_all_limited_apps_resources`. -/
def sweepEntry (outcomes : CgroupId → EntryOutcomes) (balancer : Balancer)
    (key : CgroupId) : Balancer :=
  match balancer.allLimits.apps.get? key with
  | none => balancer.popSwept key
  | some entry => ((balancer.popSwept key).restoreEntry entry (outcomes key)).2

/-- `restore_all_limited_apps_resources`: the shutdown sweep. -/
def restoreAllLimitedAppsResources (balancer : Balancer)
    (outcomes : CgroupId → EntryOutcomes) : Balancer :=
  balancer.allLimits.apps.keys.foldl (sweepEntry outcomes) balancer

/-! ## The user and auto limits -/

/-- The auto entry a request of the user names. -/
def findAuto (balancer : Balancer)
    (appId : String) : Option (CgroupId × LimitedApp) :=
  (balancer.allLimits.byPublicId appId .auto).or
    (balancer.allLimits.byAnyId appId .auto)

def forgetRestored (balancer : Balancer) (key : CgroupId) (entry : LimitedApp)
    (exclude : Bool) (now : ℚ) : Balancer :=
  let forgotten := balancer.popSwept key
  if exclude then
    { forgotten with
      allLimits := forgotten.allLimits.addExclusion entry .userRestore now }
  else forgotten

/-- `restore_auto_limited`: the entry is forgotten once its restore
succeeded. -/
def restoreAutoLimited (balancer : Balancer) (appId : String) (exclude : Bool)
    (outcomes : EntryOutcomes) (now : ℚ) : Bool × Balancer :=
  match balancer.findAuto appId with
  | none => (false, balancer)
  | some (key, entry) =>
    let restored := balancer.restoreEntry entry outcomes
    if restored.1 then
      (true, restored.2.forgetRestored key entry exclude now)
    else (false, restored.2)

/-- The entry of an auto limit the user has taken over. -/
def handedOver (key : CgroupId) (entry : LimitedApp) (now : ℚ) : LimitedApp :=
  { entry with
    source := .manual
    state := none
    limitedAt := now
    protectionId := some ⟨.manual, entry.publicAppId, key, now⟩
    adoptedFromAuto := true }

/-- Flip the ownership of an entry in place: the auto lifecycle is closed, the
app exempted and the manual lifecycle opened. -/
def handOver (balancer : Balancer) (key : CgroupId) (entry : LimitedApp)
    (now : ℚ) : Balancer :=
  let manual := handedOver key entry now
  let closed := balancer.emit .recovered entry.limitParts entry.resourceParts
    entry.publicAppId entry.appName entry.protectionId .auto
  let stored := closed.withApps (closed.allLimits.apps.set key manual)
  let exempted := { stored with
    allLimits := stored.allLimits.addExclusion manual .manualLimit now }
  exempted.emit .applied manual.limitParts manual.resourceParts
    manual.publicAppId manual.appName manual.protectionId .manual

/-- `lock_to_manual`; an uncontrolled entry is re-tagged when its app is under
control by now. -/
def lockToManual (balancer : Balancer) (appId : String)
    (currentControlled : Bool) (now : ℚ) : Bool × Balancer :=
  match balancer.findAuto appId with
  | none => (false, balancer)
  | some (key, entry) =>
    if entry.isControlled then (true, balancer.handOver key entry now)
    else if currentControlled then
      (true, balancer.handOver key
        { entry with isControlled := true, publicAppId := appId } now)
    else (false, balancer)

/-- The entry `adopt_auto_limit` is asked to adopt. -/
def findAdopted (balancer : Balancer)
    (effectiveAppId : CgroupId) : Option (CgroupId × LimitedApp) :=
  ((balancer.allLimits.apps.get? effectiveAppId).map fun entry =>
      (effectiveAppId, entry)).or
    (balancer.allLimits.byAnyId effectiveAppId .auto)

/-- The entry under its new identity. -/
def adopted (entry : LimitedApp)
    (newAppId newAppName priority : String) : LimitedApp :=
  { entry with
    publicAppId := newAppId
    appName := orElseName newAppName entry.appName
    priority := orElseName priority entry.priority
    isControlled := true }

/-- `adopt_auto_limit`. -/
def adoptAutoLimit (balancer : Balancer) (effectiveAppId : CgroupId)
    (newAppId newAppName priority : String) (now : ℚ) : Bool × Balancer :=
  match balancer.findAdopted effectiveAppId with
  | none => (false, balancer)
  | some (key, entry) =>
    if entry.source = .auto then
      (true, balancer.handOver key
        (adopted entry newAppId newAppName priority) now)
    else (false, balancer)

/-- `remove_auto_limit_exclusion`. -/
def removeAutoLimitExclusion (balancer : Balancer)
    (ident : String) : Balancer :=
  { balancer with allLimits := balancer.allLimits.removeExclusion ident }

/-! ## What the registry sections leave under each key -/

section Sections

variable (balancer : Balancer)

@[simp] theorem registerManual_kernel (request : LimitRequest)
    (plan : InstallPlan) (limitParts failed : LimitParts) (now : ℚ) :
    (balancer.registerManual request plan limitParts failed now).kernel =
      balancer.kernel := by
  simp [registerManual]

@[simp] theorem registerManual_get? (request : LimitRequest)
    (plan : InstallPlan) (limitParts failed : LimitParts) (now : ℚ)
    (other : CgroupId) :
    (balancer.registerManual request plan limitParts failed
      now).allLimits.apps.get? other =
      if other = plan.primary then some (plan.entry request limitParts now)
      else balancer.allLimits.apps.get? other := by
  simp [registerManual, OrderedDict.get?_set]

/-- The entry under the key with its disk flag set to a verdict. -/
def deferredEntry (entry : LimitedApp) (accepted : Bool) : LimitedApp :=
  { entry with
    limitParts := { entry.limitParts with ioLimited := accepted } }

@[simp] theorem recordDeferredIo_kernel (item : DeferredIo) (accepted : Bool) :
    (balancer.recordDeferredIo item accepted).kernel = balancer.kernel := by
  unfold recordDeferredIo
  split <;> simp

theorem recordDeferredIo_get? {item : DeferredIo} {entry : LimitedApp}
    (stored : balancer.allLimits.apps.get? item.key = some entry)
    (accepted : Bool) (other : CgroupId) :
    (balancer.recordDeferredIo item accepted).allLimits.apps.get? other =
      if other = item.key then some (deferredEntry entry accepted)
      else balancer.allLimits.apps.get? other := by
  simp only [recordDeferredIo, stored, emit_allLimits, withApps_apps,
    OrderedDict.get?_set, deferredEntry]

@[simp] theorem upsertAutoLimited_kernel (appId : CgroupId) (limit : AutoLimit)
    (now : ℚ) :
    (balancer.upsertAutoLimited appId limit now).kernel = balancer.kernel := by
  simp [upsertAutoLimited]

@[simp] theorem upsertAutoLimited_get? (appId : CgroupId) (limit : AutoLimit)
    (now : ℚ) (other : CgroupId) :
    (balancer.upsertAutoLimited appId limit now).allLimits.apps.get? other =
      if other = appId then some (balancer.upsertedEntry appId limit now)
      else balancer.allLimits.apps.get? other := by
  simp [upsertAutoLimited, OrderedDict.get?_set]

variable (key other : CgroupId)

@[simp] theorem popEntry_kernel :
    (balancer.popEntry key).kernel = balancer.kernel := rfl

@[simp] theorem popEntry_get? :
    (balancer.popEntry key).allLimits.apps.get? other =
      if other = key then none else balancer.allLimits.apps.get? other := by
  simp [popEntry, OrderedDict.get?_erase]

@[simp] theorem popManual_kernel :
    (balancer.popManual key).kernel = balancer.kernel := rfl

@[simp] theorem popManual_get? :
    (balancer.popManual key).allLimits.apps.get? other =
      if other = key then none else balancer.allLimits.apps.get? other := by
  simp [popManual]

@[simp] theorem popSwept_kernel :
    (balancer.popSwept key).kernel = balancer.kernel := rfl

@[simp] theorem popSwept_get? :
    (balancer.popSwept key).allLimits.apps.get? other =
      if other = key then none else balancer.allLimits.apps.get? other := by
  rw [← popEntry_get?]
  rfl

@[simp] theorem popClosed_kernel :
    (balancer.popClosed key).kernel = balancer.kernel := rfl

@[simp] theorem popClosed_get? :
    (balancer.popClosed key).allLimits.apps.get? other =
      if other = key then none else balancer.allLimits.apps.get? other := by
  simp [popClosed]

/-- The reaper's section does not write. -/
@[simp] theorem popAllClosed_kernel (closed : CgroupId → Bool) :
    (balancer.popAllClosed closed).2.kernel = balancer.kernel := by
  simp only [popAllClosed]
  generalize balancer.allLimits.apps.entries.filter _ = gone
  induction gone generalizing balancer with
  | nil => rfl
  | cons app gone ih => rw [List.foldl_cons, ih, popClosed_kernel]

/-- Nor does it stop the service. -/
@[simp] theorem popAllClosed_isRunning (closed : CgroupId → Bool) :
    (balancer.popAllClosed closed).2.isRunning = balancer.isRunning := by
  simp only [popAllClosed]
  generalize balancer.allLimits.apps.entries.filter _ = gone
  induction gone generalizing balancer with
  | nil => rfl
  | cons app gone ih =>
    rw [List.foldl_cons, ih]
    rfl

/-- Forgetting entries one by one forgets exactly those. -/
theorem foldl_popClosed_get? (gone : List (CgroupId × LimitedApp)) :
    (gone.foldl (fun balancer app => balancer.popClosed app.1)
      balancer).allLimits.apps.get? other =
      if other ∈ gone.map Prod.fst then none
      else balancer.allLimits.apps.get? other := by
  induction gone generalizing balancer with
  | nil => rfl
  | cons app gone ih =>
    rw [List.foldl_cons, ih, popClosed_get?, List.map_cons]
    by_cases later : other ∈ gone.map Prod.fst
    · rw [if_pos later, if_pos (List.mem_cons_of_mem _ later)]
    · by_cases same : other = app.1
      · simp [same]
      · simp [later, same]

@[simp] theorem popAllClosed_get? (closed : CgroupId → Bool) :
    (balancer.popAllClosed closed).2.allLimits.apps.get? other =
      if closed other then none else balancer.allLimits.apps.get? other := by
  simp only [popAllClosed, foldl_popClosed_get?]
  by_cases listed : other ∈ (balancer.allLimits.apps.entries.filter fun app =>
      closed app.1).map Prod.fst
  · rw [if_pos listed]
    obtain ⟨app, member, rfl⟩ := List.mem_map.mp listed
    rw [if_pos (List.mem_filter.mp member).2]
  · rw [if_neg listed]
    split
    · next isClosed =>
      rw [OrderedDict.get?_eq_none_iff]
      intro value present
      exact listed (List.mem_map.mpr
        ⟨(other, value), List.mem_filter.mpr ⟨present, isClosed⟩, rfl⟩)
    · rfl

end Sections

end Balancer

end SmarTune
