import SmarTune.Balancer.ManualBooks

/-!
# Frozen cgroups and the entries that own up to them

A freeze leaves its mark in the kernel and in the `frozen` flag of the app's
manual entry.  The trace below follows every call to the freezer: which apps'
freezes hold a cgroup that was not thawed since, and which cgroups were found
gone.
-/

namespace SmarTune

open Balancer

/-! ## Calls to the freezer -/

/-- One `freeze_cgroup` call and its answer. -/
structure FreezeCall where
  cgroup : CgroupId
  frozen : Bool
  outcome : FreezeOutcome

namespace FreezeCall

/-- The call writes `cgroup.freeze`. -/
def wrote (call : FreezeCall) : Bool :=
  call.outcome.exists_ && call.outcome.written

/-- The call leaves the cgroup written, or finds it gone. -/
def takesEffect (call : FreezeCall) : Bool :=
  !call.outcome.exists_ || call.outcome.written

def writes (call : FreezeCall) : List KernelWrite :=
  (freezeCgroup call.cgroup call.frozen call.outcome).2

/-- The result of a call. -/
def succeeds (call : FreezeCall) : Bool :=
  (freezeCgroup call.cgroup call.frozen call.outcome).1

theorem writes_eq (call : FreezeCall) :
    call.writes =
      if call.wrote then [.freeze call.cgroup call.frozen] else [] := by
  unfold writes wrote freezeCgroup
  cases call.outcome.exists_ <;> cases call.outcome.written <;> simp

theorem of_succeeds {call : FreezeCall} (done : call.succeeds = true) :
    call.takesEffect = true ∧ (call.frozen = true → call.wrote = true) := by
  unfold succeeds freezeCgroup at done
  unfold takesEffect wrote
  revert done
  cases call.outcome.exists_ <;> cases call.outcome.written <;>
    cases call.frozen <;> simp

end FreezeCall

/-- The calls of `freezeEach`, up to the first that fails. -/
def freezeEachCalls (freeze : Bool) :
    List CgroupId → (Nat → FreezeOutcome) → List FreezeCall
  | [], _ => []
  | cgroup :: rest, outcome =>
    let call : FreezeCall := ⟨cgroup, freeze, outcome 0⟩
    if call.succeeds then
      call :: freezeEachCalls freeze rest fun position =>
        outcome (position + 1)
    else [call]

/-- The calls of `_thaw_cgroups`. -/
def thawCalls (cgroups : List CgroupId)
    (outcome : Nat → FreezeOutcome) : List FreezeCall :=
  cgroups.zipIdx.map fun target => ⟨target.1, false, outcome target.2⟩

theorem freezeEach_writes (freeze : Bool) (cgroups : List CgroupId)
    (outcome : Nat → FreezeOutcome) :
    (freezeEach freeze cgroups outcome).2.2 =
      (freezeEachCalls freeze cgroups outcome).flatMap FreezeCall.writes := by
  induction cgroups generalizing outcome with
  | nil => rfl
  | cons cgroup rest ih =>
    cases succeeded : (freezeCgroup cgroup freeze (outcome 0)).1 with
    | true =>
      have calls : freezeEachCalls freeze (cgroup :: rest) outcome =
          ⟨cgroup, freeze, outcome 0⟩ :: freezeEachCalls freeze rest
            fun position => outcome (position + 1) := if_pos succeeded
      rw [calls, List.flatMap_cons, ← ih, freezeEach, if_pos succeeded]
      rfl
    | false =>
      have stopped : ¬ (freezeCgroup cgroup freeze (outcome 0)).1 = true :=
        by simp [succeeded]
      have calls : freezeEachCalls freeze (cgroup :: rest) outcome =
          [⟨cgroup, freeze, outcome 0⟩] := if_neg stopped
      rw [calls, freezeEach, if_neg stopped]
      exact (List.append_nil _).symm

theorem thawCgroups_writes (cgroups : List CgroupId)
    (outcome : Nat → FreezeOutcome) :
    (thawCgroups cgroups outcome).2 =
      (thawCalls cgroups outcome).flatMap FreezeCall.writes := by
  simp only [thawCgroups, thawCalls, List.flatMap_map]
  rfl

variable {freeze : Bool} {cgroups : List CgroupId}
  {outcome : Nat → FreezeOutcome} {call : FreezeCall} {cgroup : CgroupId}

theorem mem_freezeEachCalls
    (member : call ∈ freezeEachCalls freeze cgroups outcome) :
    call.cgroup ∈ cgroups ∧ call.frozen = freeze := by
  induction cgroups generalizing outcome with
  | nil => cases member
  | cons cgroup rest ih =>
    simp only [freezeEachCalls] at member
    split at member
    · rcases List.mem_cons.mp member with rfl | later
      · exact ⟨List.mem_cons_self, rfl⟩
      · obtain ⟨listed, same⟩ := ih later
        exact ⟨List.mem_cons_of_mem _ listed, same⟩
    · obtain rfl := List.mem_singleton.mp member
      exact ⟨List.mem_cons_self, rfl⟩

theorem outcome_of_mem_freezeEachCalls
    (member : call ∈ freezeEachCalls freeze cgroups outcome) :
    ∃ position, call.outcome = outcome position := by
  induction cgroups generalizing outcome with
  | nil => cases member
  | cons cgroup rest ih =>
    simp only [freezeEachCalls] at member
    split at member
    · rcases List.mem_cons.mp member with rfl | later
      · exact ⟨0, rfl⟩
      · obtain ⟨position, same⟩ := ih later
        exact ⟨position + 1, same⟩
    · obtain rfl := List.mem_singleton.mp member
      exact ⟨0, rfl⟩

theorem freezeEachCalls_of_done
    (done : (freezeEach freeze cgroups outcome).1 = true)
    (listed : cgroup ∈ cgroups) :
    ∃ call ∈ freezeEachCalls freeze cgroups outcome,
      call.cgroup = cgroup ∧ call.succeeds = true := by
  induction cgroups generalizing outcome with
  | nil => cases listed
  | cons first rest ih =>
    simp only [freezeEach] at done
    split at done
    · next succeeded =>
      have calls : freezeEachCalls freeze (first :: rest) outcome =
          ⟨first, freeze, outcome 0⟩ :: freezeEachCalls freeze rest
            fun position => outcome (position + 1) := if_pos succeeded
      rw [calls]
      rcases List.mem_cons.mp listed with rfl | later
      · exact ⟨_, List.mem_cons_self, rfl, succeeded⟩
      · obtain ⟨call, member, on, succeeds⟩ := ih done later
        exact ⟨call, List.mem_cons_of_mem _ member, on, succeeds⟩
    · cases done

theorem mem_thawCalls (member : call ∈ thawCalls cgroups outcome) :
    call.cgroup ∈ cgroups ∧ call.frozen = false := by
  obtain ⟨target, located, rfl⟩ := List.mem_map.mp member
  exact ⟨List.fst_mem_of_mem_zipIdx located, rfl⟩

theorem freezeEach_accepting (freeze : Bool)
    (accepting : ∀ position, outcome position = .accepting)
    (cgroups : List CgroupId) :
    (freezeEach freeze cgroups outcome).1 = true := by
  induction cgroups generalizing outcome with
  | nil => rfl
  | cons cgroup rest ih =>
    have succeeded : (freezeCgroup cgroup freeze (outcome 0)).1 = true := by
      rw [accepting 0]
      rfl
    rw [freezeEach, if_pos succeeded]
    exact ih fun position => accepting (position + 1)

theorem exists_thawCall (outcome : Nat → FreezeOutcome)
    (listed : cgroup ∈ cgroups) :
    ∃ position, ⟨cgroup, false, outcome position⟩ ∈
      thawCalls cgroups outcome := by
  obtain ⟨position, bound, rfl⟩ := List.getElem_of_mem listed
  refine ⟨position, List.mem_map.mpr ⟨(cgroups[position], position), ?_, rfl⟩⟩
  exact List.mk_mem_zipIdx_iff_getElem?.mpr (List.getElem?_eq_getElem bound)

theorem wrote_of_accepting (accepting : call.outcome = .accepting) :
    call.wrote = true := by
  simp [FreezeCall.wrote, accepting, FreezeOutcome.accepting]

/-! ## The trace of the freezer -/

/-- Which apps' freezes hold a cgroup, and which cgroups were found gone. -/
structure FreezeTrace where
  heldBy : CgroupId → List String
  gone : CgroupId → Bool

namespace FreezeTrace

/-- Nothing is frozen. -/
def thawed : FreezeTrace := ⟨fun _ => [], fun _ => false⟩

def after (trace : FreezeTrace) (appId : String) (call : FreezeCall) :
    FreezeTrace where
  heldBy := fun cgroup =>
    if cgroup = call.cgroup && call.takesEffect then
      if call.wrote && call.frozen then appId :: trace.heldBy cgroup else []
    else trace.heldBy cgroup
  gone := fun cgroup =>
    if cgroup = call.cgroup then
      !call.outcome.exists_ || (!call.wrote && trace.gone cgroup)
    else trace.gone cgroup

/-- The calls of an operation, in order. -/
def run (trace : FreezeTrace) (appId : String) (calls : List FreezeCall) :
    FreezeTrace :=
  calls.foldl (fun trace call => trace.after appId call) trace

section Run

variable {trace : FreezeTrace} {appId holder : String} {cgroup : CgroupId}
  {call : FreezeCall} {calls : List FreezeCall}

theorem mem_heldBy_after
    (held : holder ∈ (trace.after appId call).heldBy cgroup) :
    (holder ∈ trace.heldBy cgroup ∧
      (call.cgroup = cgroup → call.frozen = false → call.takesEffect = false)) ∨
    (holder = appId ∧ call.cgroup = cgroup ∧ call.wrote = true ∧
      call.frozen = true) := by
  simp only [after, Bool.and_eq_true, decide_eq_true_eq] at held
  split at held
  · next here =>
    split at held
    · next froze =>
      rcases List.mem_cons.mp held with new | old
      · exact Or.inr ⟨new, here.1.symm, froze⟩
      · exact Or.inl ⟨old, fun _ thawing => by simp [froze.2] at thawing⟩
    · cases held
  · next elsewhere =>
    exact Or.inl ⟨held, fun same _ => by simpa [same] using elsewhere⟩

theorem mem_heldBy_run_thaw (thawing : ∀ call ∈ calls, call.frozen = false)
    (held : holder ∈ (trace.run appId calls).heldBy cgroup) :
    holder ∈ trace.heldBy cgroup ∧
      ∀ call ∈ calls, call.cgroup = cgroup → call.takesEffect = false := by
  induction calls generalizing trace with
  | nil => exact ⟨held, by simp⟩
  | cons call calls ih =>
    obtain ⟨heldThen, later⟩ := ih
      (fun other member => thawing other (List.mem_cons_of_mem _ member)) held
    have thaws := thawing call List.mem_cons_self
    rcases mem_heldBy_after heldThen with ⟨before, first⟩ | froze
    · refine ⟨before, ?_⟩
      intro other member same
      rcases List.mem_cons.mp member with rfl | rest
      · exact first same thaws
      · exact later other rest same
    · exact absurd froze.2.2.2 (by simp [thaws])

theorem mem_heldBy_run (held : holder ∈ (trace.run appId calls).heldBy cgroup) :
    holder ∈ trace.heldBy cgroup ∨
      (holder = appId ∧ ∃ call ∈ calls, call.cgroup = cgroup ∧
        call.wrote = true) := by
  induction calls generalizing trace with
  | nil => exact Or.inl held
  | cons call calls ih =>
    rcases ih held with heldThen | ⟨same, other, member, on⟩
    · rcases mem_heldBy_after heldThen with before | ⟨new, here, wrote, _⟩
      · exact Or.inl before.1
      · exact Or.inr ⟨new, call, List.mem_cons_self, here, wrote⟩
    · exact Or.inr ⟨same, other, List.mem_cons_of_mem _ member, on⟩

theorem run_append (first second : List FreezeCall) :
    trace.run appId (first ++ second) =
      (trace.run appId first).run appId second :=
  List.foldl_append

end Run

end FreezeTrace

/-! ## The trace and the kernel -/

/-- A cgroup that is frozen is held by some app, or is gone. -/
def FreezeTrace.Tracks (trace : FreezeTrace) (kernel : Kernel) : Prop :=
  ∀ cgroup, kernel.freeze cgroup = true →
    trace.heldBy cgroup ≠ [] ∨ trace.gone cgroup = true

variable {trace : FreezeTrace} {kernel : Kernel}

theorem FreezeTrace.Tracks.after (tracks : trace.Tracks kernel) (appId : String)
    (call : FreezeCall) :
    (trace.after appId call).Tracks (kernel.writeAll call.writes) := by
  intro cgroup frozen
  rw [call.writes_eq] at frozen
  by_cases here : cgroup = call.cgroup
  · subst here
    cases wrote : call.wrote with
    | true =>
      have on : call.frozen = true := by
        simpa [wrote, Kernel.write] using frozen
      have present : call.takesEffect = true := by
        simp only [FreezeCall.wrote, Bool.and_eq_true] at wrote
        simp [FreezeCall.takesEffect, wrote.2]
      left
      simp [FreezeTrace.after, wrote, on, present]
    | false =>
      have before : kernel.freeze call.cgroup = true := by
        simpa [wrote] using frozen
      cases exists_ : call.outcome.exists_ with
      | false => exact Or.inr (by simp [FreezeTrace.after, exists_])
      | true =>
        have kept : call.takesEffect = false := by
          simpa [FreezeCall.takesEffect, FreezeCall.wrote, exists_] using wrote
        refine (tracks call.cgroup before).imp ?_ ?_
        · intro held
          simpa [FreezeTrace.after, kept] using held
        · intro gone
          simp [FreezeTrace.after, exists_, wrote, gone]
  · have before : kernel.freeze cgroup = true := by
      split at frozen
      · simpa [Kernel.write, here] using frozen
      · exact frozen
    simpa [FreezeTrace.after, here] using tracks cgroup before

theorem FreezeTrace.Tracks.run (tracks : trace.Tracks kernel) (appId : String)
    (calls : List FreezeCall) :
    (trace.run appId calls).Tracks
      (kernel.writeAll (calls.flatMap FreezeCall.writes)) := by
  induction calls generalizing trace kernel with
  | nil => exact tracks
  | cons call calls ih =>
    rw [List.flatMap_cons, Kernel.writeAll_append]
    exact ih (tracks.after appId call)

theorem freeze_writeAll_thaw {calls : List FreezeCall}
    (thawing : ∀ call ∈ calls, call.frozen = false) {kernel : Kernel}
    {cgroup : CgroupId}
    (frozen : (kernel.writeAll
      (calls.flatMap FreezeCall.writes)).freeze cgroup = true) :
    kernel.freeze cgroup = true ∧
      ∀ call ∈ calls, call.cgroup = cgroup → call.wrote = false := by
  induction calls generalizing kernel with
  | nil => exact ⟨frozen, by simp⟩
  | cons call calls ih =>
    rw [List.flatMap_cons, Kernel.writeAll_append] at frozen
    obtain ⟨frozenThen, later⟩ := ih
      (fun other member => thawing other (List.mem_cons_of_mem _ member))
      frozen
    have thaws := thawing call List.mem_cons_self
    have first : kernel.freeze cgroup = true ∧
        (call.cgroup = cgroup → call.wrote = false) := by
      rw [call.writes_eq] at frozenThen
      split at frozenThen
      · simp only [Kernel.writeAll_cons, Kernel.writeAll_nil, Kernel.write,
          thaws] at frozenThen
        split at frozenThen
        · cases frozenThen
        · next elsewhere =>
          exact ⟨frozenThen, fun same => absurd same.symm elsewhere⟩
      · next silent => exact ⟨frozenThen, fun _ => by simpa using silent⟩
    refine ⟨first.1, ?_⟩
    intro other member same
    rcases List.mem_cons.mp member with rfl | rest
    · exact first.2 same
    · exact later other rest same

/-- A write that leaves the freezer alone. -/
def KernelWrite.SparesFreezer : KernelWrite → Prop
  | .quota _ _ | .ioMax _ _ _ | .ioCleared _ _ => True
  | .freeze _ _ | .removed _ => False

theorem freeze_writeAll_of_spares {writes : List KernelWrite}
    (spares : ∀ write ∈ writes, write.SparesFreezer) (kernel : Kernel) :
    (kernel.writeAll writes).freeze = kernel.freeze := by
  induction writes generalizing kernel with
  | nil => rfl
  | cons head tail ih =>
    rw [Kernel.writeAll_cons, ih fun write member =>
      spares write (List.mem_cons_of_mem _ member)]
    have headSpares := spares head List.mem_cons_self
    cases head with
    | quota cgroup cap => rfl
    | ioMax cgroup disk limits => rfl
    | ioCleared cgroup disk => rfl
    | freeze cgroup frozen => exact headSpares.elim
    | removed cgroup => exact headSpares.elim

theorem sparesFreezer_allWrites {plan : InstallPlan} {isRunning : Bool}
    {outcomes : InstallOutcomes} :
    ∀ write ∈ plan.allWrites isRunning outcomes, write.SparesFreezer := by
  intro write member
  rcases List.mem_append.mp member with inCpuMem | inIo
  · unfold InstallPlan.cpuMem at inCpuMem
    split at inCpuMem
    · obtain ⟨_, _, _, _, rfl⟩ := adjustEach_writes (by decide) inCpuMem
      trivial
    · cases inCpuMem
  · unfold InstallPlan.io at inIo
    split at inIo
    · cases inIo
    · split at inIo
      · obtain ⟨_, _, _, _, _, _, rfl⟩ := throttleEach_writes inIo
        trivial
      · cases inIo

/-- Lifting caps does too. -/
theorem sparesFreezer_manualRestore (key : CgroupId) (entry : LimitedApp)
    (outcomes : ManualRestoreOutcomes) :
    ∀ write ∈ (manualRestoreCpuMem key entry outcomes).2 ++
      (manualRestoreIo key entry outcomes).2, write.SparesFreezer := by
  intro write member
  rcases List.mem_append.mp member with inCpuMem | inIo
  · unfold manualRestoreCpuMem at inCpuMem
    split at inCpuMem
    · obtain ⟨_, _, _, _, rfl⟩ := adjustEach_low_writes.mp inCpuMem
      trivial
    · cases inCpuMem
  · unfold manualRestoreIo at inIo
    split at inIo
    · obtain ⟨_, _, _, _, rfl⟩ := unthrottleEach_writes inIo
      trivial
    · cases inIo

/-! ## The calls of a step -/

namespace Balancer

/-- The freezer calls of `set_freeze`, the undone ones included. -/
def setFreezeCalls (balancer : Balancer) (appId : String) (freeze : Bool)
    (outcomes : SetFreezeOutcomes) : List FreezeCall :=
  match balancer.allLimits.byPublicId appId .manual with
  | none => []
  | some (key, entry) =>
    if entry.frozen = freeze then []
    else
      let cgroups := entry.cgroupsOrKey key
      let result := freezeEach freeze cgroups outcomes.freeze
      freezeEachCalls freeze cgroups outcomes.freeze ++
        if freeze && !result.1 then thawCalls result.2.1 outcomes.thaw
        else []

/-- The freezer calls of `set_restore_resource`. -/
def manualRestoreCalls (balancer : Balancer) (appId : String)
    (outcomes : ManualRestoreOutcomes) : List FreezeCall :=
  match balancer.allLimits.byPublicId appId .manual with
  | none => []
  | some (key, entry) =>
    if entry.frozen then thawCalls (entry.cgroupsOrKey key) outcomes.thaw
    else []

variable {balancer : Balancer} {appId : String} {key : CgroupId}
  {entry : LimitedApp}

theorem setFreeze_kernel (freeze : Bool) (outcomes : SetFreezeOutcomes) :
    (balancer.setFreeze appId freeze outcomes).2.kernel =
      balancer.kernel.writeAll
        ((balancer.setFreezeCalls appId freeze outcomes).flatMap
          FreezeCall.writes) := by
  simp only [setFreeze, setFreezeCalls]
  cases balancer.allLimits.byPublicId appId .manual with
  | none => rfl
  | some target =>
    obtain ⟨key, entry⟩ := target
    simp only
    split
    · rfl
    · rw [List.flatMap_append, ← freezeEach_writes]
      cases result : (freezeEach freeze (entry.cgroupsOrKey key)
          outcomes.freeze).1 <;>
        cases freeze <;>
        simp [Kernel.writeAll_append, ← thawCgroups_writes]

theorem manualRestoreThaw_writes
    (found : balancer.allLimits.byPublicId appId .manual = some (key, entry))
    (outcomes : ManualRestoreOutcomes) :
    (manualRestoreThaw key entry outcomes).2 =
      (balancer.manualRestoreCalls appId outcomes).flatMap
        FreezeCall.writes := by
  simp only [manualRestoreThaw, manualRestoreCalls, found]
  split
  · exact thawCgroups_writes _ _
  · rfl

theorem setRestoreResource_kernel
    (found : balancer.allLimits.byPublicId appId .manual = some (key, entry))
    (outcomes : ManualRestoreOutcomes) :
    (balancer.setRestoreResource appId outcomes).2.kernel =
      (balancer.kernel.writeAll ((manualRestoreCpuMem key entry outcomes).2 ++
        (manualRestoreIo key entry outcomes).2)).writeAll
          ((balancer.manualRestoreCalls appId outcomes).flatMap
            FreezeCall.writes) := by
  rw [← manualRestoreThaw_writes found, ← Kernel.writeAll_append]
  simp [setRestoreResource, found, popManual, popEntry]

end Balancer

/-! ## Entries that list a frozen cgroup -/

namespace Balancer

/-- The manual entry of the app is frozen and lists the cgroup. -/
def HoldsFrozen (balancer : Balancer) (appId : String)
    (cgroup : CgroupId) : Prop :=
  ∃ key entry, balancer.allLimits.byPublicId appId .manual = some (key, entry) ∧
    entry.frozen = true ∧ cgroup ∈ entry.cgroupsOrKey key

variable {balancer : Balancer} {appId holder : String} {key : CgroupId}
  {entry : LimitedApp} {cgroup : CgroupId}

/-- An install stores its entry neither over the app's nor ahead of it. -/
def SparesEntry (balancer : Balancer) (request : LimitRequest)
    (plan : InstallPlan) (appId : String) : Prop :=
  ∀ key entry, balancer.allLimits.byPublicId appId .manual = some (key, entry) →
      plan.primary ≠ key ∧ (appId = request.appId →
        plan.primary ∉ balancer.allLimits.apps.keys.takeWhile (· ≠ key))

theorem installResourceLimit_freeze (request : LimitRequest)
    (outcomes : InstallOutcomes) :
    (balancer.installResourceLimit request outcomes).2.2.kernel.freeze =
      balancer.kernel.freeze := by
  cases planned : balancer.installPlan request outcomes with
  | error reply => rw [installResourceLimit_refused planned]
  | ok plan =>
    rw [installResourceLimit_kernel planned]
    exact freeze_writeAll_of_spares sparesFreezer_allWrites _

theorem holdsFrozen_installResourceLimit {request : LimitRequest}
    {outcomes : InstallOutcomes} (holds : balancer.HoldsFrozen holder cgroup)
    (spares : ∀ plan, balancer.installPlan request outcomes = .ok plan →
      (plan.accepted balancer.isRunning outcomes).any = true →
        balancer.SparesEntry request plan holder) :
    (balancer.installResourceLimit request outcomes).2.2.HoldsFrozen holder
      cgroup := by
  cases planned : balancer.installPlan request outcomes with
  | error reply =>
    rw [installResourceLimit_refused planned]
    exact holds
  | ok plan =>
    obtain ⟨key, entry, found, frozen, listed⟩ := holds
    refine ⟨key, entry, ?_, frozen, listed⟩
    rw [LimitRegistry.byPublicId, installResourceLimit_apps planned]
    split
    · next stored =>
      obtain ⟨different, younger⟩ := spares plan planned stored key entry found
      apply OrderedDict.find?_set_of_ne found different
      by_cases own : holder = request.appId
      · exact Or.inr (younger own)
      · exact Or.inl (by simp [InstallPlan.entry, Ne.symm own])
    · exact found

theorem applyDeferredIoCap_freeze (deferred : DeferredIo)
    (outcome : Nat → IoCallOutcome) :
    (balancer.applyDeferredIoCap deferred outcome).kernel.freeze =
      balancer.kernel.freeze := by
  cases stored : balancer.allLimits.apps.get? deferred.key with
  | none => simp [applyDeferredIoCap, stored]
  | some entry =>
    rw [applyDeferredIoCap_kernel stored]
    apply freeze_writeAll_of_spares
    intro write member
    obtain ⟨_, _, _, _, _, _, rfl⟩ := throttleEach_writes member
    trivial

/-- A held-back disk cap changes no more than a flag of the entry. -/
theorem holdsFrozen_applyDeferredIoCap
    (holds : balancer.HoldsFrozen holder cgroup) (deferred : DeferredIo)
    (outcome : Nat → IoCallOutcome) :
    (balancer.applyDeferredIoCap deferred outcome).HoldsFrozen holder
      cgroup := by
  cases stored : balancer.allLimits.apps.get? deferred.key with
  | none => simpa [applyDeferredIoCap, stored] using holds
  | some standing =>
    obtain ⟨key, entry, found, frozen, listed⟩ := holds
    obtain ⟨storedThere, manual, own⟩ :=
      LimitRegistry.byPublicId_eq_some found
    simp only [HoldsFrozen, LimitRegistry.byPublicId,
      applyDeferredIoCap_apps stored]
    by_cases same : deferred.key = key
    · subst same
      obtain rfl := Option.some.inj (stored.symm.trans storedThere)
      exact ⟨deferred.key, _, OrderedDict.find?_set_self found
        (by simp [own, manual]), frozen, listed⟩
    · exact ⟨key, entry, OrderedDict.find?_set_of_same found same stored rfl,
        frozen, listed⟩

/-- Freezing or thawing another app leaves its entry first. -/
theorem holdsFrozen_setFreeze_of_ne (holds : balancer.HoldsFrozen holder cgroup)
    (different : holder ≠ appId) (freeze : Bool)
    (outcomes : SetFreezeOutcomes) :
    (balancer.setFreeze appId freeze outcomes).2.HoldsFrozen holder
      cgroup := by
  simp only [setFreeze]
  split
  · exact holds
  next target found =>
  split
  · exact holds
  split
  · split
    · exact holds
    · exact holds
  · obtain ⟨stored, manual, own⟩ := LimitRegistry.byPublicId_eq_some found
    obtain ⟨key, entry, foundOther, frozen, listed⟩ := holds
    obtain ⟨storedOther, _, ownOther⟩ :=
      LimitRegistry.byPublicId_eq_some foundOther
    refine ⟨key, entry, ?_, frozen, listed⟩
    simp only [modifyEntry, writes_allLimits, stored, LimitRegistry.byPublicId,
      withApps_apps]
    apply OrderedDict.find?_set_of_ne foundOther
    · rintro rfl
      obtain rfl := Option.some.inj (stored.symm.trans storedOther)
      exact different (ownOther.symm.trans own)
    · exact Or.inl (by simp [own, Ne.symm different])

theorem holdsFrozen_setRestoreResource_of_ne
    (holds : balancer.HoldsFrozen holder cgroup) (different : holder ≠ appId)
    (outcomes : ManualRestoreOutcomes) :
    (balancer.setRestoreResource appId outcomes).2.HoldsFrozen holder
      cgroup := by
  cases found : balancer.allLimits.byPublicId appId .manual with
  | none => simpa [setRestoreResource, found] using holds
  | some target =>
    obtain ⟨erased, forgotten⟩ := target
    obtain ⟨stored, _, own⟩ := LimitRegistry.byPublicId_eq_some found
    obtain ⟨key, entry, foundOther, frozen, listed⟩ := holds
    obtain ⟨storedOther, _, ownOther⟩ :=
      LimitRegistry.byPublicId_eq_some foundOther
    refine ⟨key, entry, ?_, frozen, listed⟩
    have apps : (balancer.setRestoreResource appId
        outcomes).2.allLimits.apps = balancer.allLimits.apps.erase erased := by
      simp [setRestoreResource, found, popManual, popEntry]
    rw [LimitRegistry.byPublicId, apps]
    apply OrderedDict.find?_erase_of_ne foundOther
    rintro rfl
    obtain rfl := Option.some.inj (stored.symm.trans storedOther)
    exact different (ownOther.symm.trans own)

theorem setFreeze_apps {freeze : Bool}
    (found : balancer.allLimits.byPublicId appId .manual = some (key, entry))
    (changing : entry.frozen ≠ freeze) (outcomes : SetFreezeOutcomes) :
    (balancer.setFreeze appId freeze outcomes).2.allLimits.apps =
      if (freezeEach freeze (entry.cgroupsOrKey key) outcomes.freeze).1 then
        balancer.allLimits.apps.set key
          { entry with
            frozen := freeze
            frozenAt := if freeze then outcomes.now else 0
            freezeNotified := false }
      else balancer.allLimits.apps := by
  have stored := (LimitRegistry.byPublicId_eq_some found).1
  simp only [setFreeze, found, if_neg changing]
  cases (freezeEach freeze (entry.cgroupsOrKey key) outcomes.freeze).1 with
  | false => cases freeze <;> rfl
  | true => simp [modifyEntry, stored]

theorem setFreezeCalls_of_changing {freeze : Bool}
    (found : balancer.allLimits.byPublicId appId .manual = some (key, entry))
    (changing : entry.frozen ≠ freeze) (outcomes : SetFreezeOutcomes) :
    balancer.setFreezeCalls appId freeze outcomes =
      freezeEachCalls freeze (entry.cgroupsOrKey key) outcomes.freeze ++
        if freeze &&
          !(freezeEach freeze (entry.cgroupsOrKey key) outcomes.freeze).1 then
          thawCalls
            (freezeEach freeze (entry.cgroupsOrKey key) outcomes.freeze).2.1
            outcomes.thaw
        else [] := by
  simp only [setFreezeCalls, found, if_neg changing]

end Balancer

/-! ## Histories with a trace -/

/-- The manual path with the trace of its freezes. -/
structure FreezeSystem where
  manual : ManualSystem
  trace : FreezeTrace

namespace FreezeSystem

/-- A service that has just started; nothing is frozen. -/
def initial : FreezeSystem := ⟨.initial, .thawed⟩

def step (system : FreezeSystem) (step : ManualStep) : FreezeSystem where
  manual := system.manual.step step
  trace := match step with
    | .limit _ _ | .deferredIo _ _ => system.trace
    | .freeze appId freeze outcomes =>
      system.trace.run appId
        (system.manual.balancer.setFreezeCalls appId freeze outcomes)
    | .restore appId outcomes =>
      system.trace.run appId
        (system.manual.balancer.manualRestoreCalls appId outcomes)

/-- The condition on one step, read off the state before it. -/
def KeepsFreezes (system : FreezeSystem) : ManualStep → Prop
  | .limit request outcomes =>
    ∀ plan, system.manual.balancer.installPlan request outcomes = .ok plan →
      (plan.accepted system.manual.balancer.isRunning outcomes).any = true →
        ∀ holder cgroup, holder ∈ system.trace.heldBy cgroup →
          system.manual.balancer.SparesEntry request plan holder
  | .deferredIo _ _ => True
  | .freeze appId freeze outcomes =>
    ∀ key entry, system.manual.balancer.allLimits.byPublicId appId .manual =
          some (key, entry) →
      entry.frozen = false → freeze = true →
        -- A freeze that stops half way leaves no cgroup frozen.
        let result := freezeEach true (entry.cgroupsOrKey key) outcomes.freeze
        result.1 = false →
          ∀ call ∈ freezeEachCalls true (entry.cgroupsOrKey key)
              outcomes.freeze,
            call.wrote = true → ∃ undo ∈ thawCalls result.2.1 outcomes.thaw,
                undo.cgroup = call.cgroup ∧ undo.takesEffect = true
  | .restore appId outcomes =>
    ∀ key entry, system.manual.balancer.allLimits.byPublicId appId .manual =
          some (key, entry) →
      entry.frozen = true → ∀ cgroup, appId ∈ system.trace.heldBy cgroup →
          ∃ call ∈ thawCalls (entry.cgroupsOrKey key) outcomes.thaw,
            call.cgroup = cgroup ∧ call.takesEffect = true

/-- The entries own up to every freeze the trace holds. -/
structure Sound (system : FreezeSystem) : Prop where
  tracks : system.trace.Tracks system.manual.balancer.kernel
  listed : ∀ holder cgroup, holder ∈ system.trace.heldBy cgroup →
    system.manual.balancer.HoldsFrozen holder cgroup

theorem sound_initial : initial.Sound where
  tracks := by
    intro cgroup frozen
    cases frozen
  listed := by
    intro holder cgroup held
    cases held

variable {system : FreezeSystem}

theorem Sound.not_held (sound : system.Sound) {appId : String} {key : CgroupId}
    {entry : LimitedApp}
    (found : system.manual.balancer.allLimits.byPublicId appId .manual =
      some (key, entry))
    (thawed : entry.frozen = false)
    (cgroup : CgroupId) :
    appId ∉ system.trace.heldBy cgroup := by
  intro held
  obtain ⟨_, _, foundHolder, frozen, _⟩ := sound.listed appId cgroup held
  obtain ⟨rfl, rfl⟩ := Prod.mk.inj
    (Option.some.inj (found.symm.trans foundHolder))
  rw [thawed] at frozen
  cases frozen

theorem Sound.cgroup_mem (sound : system.Sound) {appId : String}
    {key : CgroupId} {entry : LimitedApp}
    (found : system.manual.balancer.allLimits.byPublicId appId .manual =
      some (key, entry))
    {cgroup : CgroupId}
    (held : appId ∈ system.trace.heldBy cgroup) :
    cgroup ∈ entry.cgroupsOrKey key := by
  obtain ⟨_, _, foundHolder, _, listed⟩ := sound.listed appId cgroup held
  obtain ⟨rfl, rfl⟩ := Prod.mk.inj
    (Option.some.inj (found.symm.trans foundHolder))
  exact listed

/-- A freeze that stopped half way and was rolled back leaves nothing held. -/
theorem Sound.not_held_of_undone (sound : system.Sound) {appId : String}
    {key : CgroupId} {entry : LimitedApp} {outcomes : SetFreezeOutcomes}
    (found : system.manual.balancer.allLimits.byPublicId appId .manual =
      some (key, entry))
    (thawed : entry.frozen = false)
    (stopped : (freezeEach true (entry.cgroupsOrKey key)
      outcomes.freeze).1 = false)
    (keeps : system.KeepsFreezes (.freeze appId true outcomes))
    (cgroup : CgroupId) :
    appId ∉ (system.trace.run appId
      (freezeEachCalls true (entry.cgroupsOrKey key) outcomes.freeze ++
        thawCalls (freezeEach true (entry.cgroupsOrKey key) outcomes.freeze).2.1
          outcomes.thaw)).heldBy cgroup := by
  intro held
  rw [FreezeTrace.run_append] at held
  obtain ⟨afterFreeze, ineffective⟩ := FreezeTrace.mem_heldBy_run_thaw
    (fun call member => (mem_thawCalls member).2) held
  rcases FreezeTrace.mem_heldBy_run afterFreeze with
    before | ⟨_, call, member, here, wrote⟩
  · exact sound.not_held found thawed cgroup before
  · obtain ⟨undo, undone, there, took⟩ :=
      keeps key entry found thawed rfl stopped call member wrote
    rw [ineffective undo undone (there.trans here)] at took
    cases took

theorem Sound.not_held_of_thawed (sound : system.Sound) {appId : String}
    {key : CgroupId} {entry : LimitedApp} {outcome : Nat → FreezeOutcome}
    (found : system.manual.balancer.allLimits.byPublicId appId .manual =
      some (key, entry))
    (done : (freezeEach false (entry.cgroupsOrKey key) outcome).1 = true)
    (cgroup : CgroupId) :
    appId ∉ (system.trace.run appId
      (freezeEachCalls false (entry.cgroupsOrKey key)
        outcome)).heldBy cgroup := by
  intro held
  obtain ⟨before, ineffective⟩ := FreezeTrace.mem_heldBy_run_thaw
    (fun call member => (mem_freezeEachCalls member).2) held
  obtain ⟨call, member, here, succeeded⟩ :=
    freezeEachCalls_of_done done (sound.cgroup_mem found before)
  have took := (FreezeCall.of_succeeds succeeded).1
  rw [ineffective call member here] at took
  cases took

theorem listed_setFreeze_true (sound : system.Sound) {appId : String}
    {key : CgroupId} {entry : LimitedApp} {outcomes : SetFreezeOutcomes}
    (found : system.manual.balancer.allLimits.byPublicId appId .manual =
      some (key, entry))
    (thawed : entry.frozen = false)
    (keeps : system.KeepsFreezes (.freeze appId true outcomes))
    {cgroup : CgroupId}
    (held : appId ∈ (system.trace.run appId
      (system.manual.balancer.setFreezeCalls appId true
        outcomes)).heldBy cgroup) :
    (system.manual.balancer.setFreeze appId true outcomes).2.HoldsFrozen
      appId cgroup := by
  have changing : entry.frozen ≠ true := by simp [thawed]
  rw [setFreezeCalls_of_changing found changing] at held
  have apps := setFreeze_apps found changing outcomes
  cases result : (freezeEach true (entry.cgroupsOrKey key)
      outcomes.freeze).1 with
  | true =>
    rw [result, if_pos rfl] at apps
    simp only [result, Bool.not_true, Bool.and_false, Bool.false_eq_true,
      if_false, List.append_nil] at held
    rcases FreezeTrace.mem_heldBy_run held with
      before | ⟨_, call, member, rfl, _⟩
    · exact absurd before (sound.not_held found thawed cgroup)
    · obtain ⟨listed, _⟩ := mem_freezeEachCalls member
      obtain ⟨_, manual, own⟩ := LimitRegistry.byPublicId_eq_some found
      refine ⟨key, { entry with
        frozen := true
        frozenAt := outcomes.now
        freezeNotified := false }, ?_, rfl, listed⟩
      rw [LimitRegistry.byPublicId, apps]
      exact OrderedDict.find?_set_self found (by simp [own, manual])
  | false =>
    simp only [result, Bool.not_false, Bool.and_true, if_true] at held
    exact absurd held (sound.not_held_of_undone found thawed result keeps
      cgroup)

theorem listed_setFreeze_false (sound : system.Sound) {appId : String}
    {key : CgroupId} {entry : LimitedApp} {outcomes : SetFreezeOutcomes}
    (found : system.manual.balancer.allLimits.byPublicId appId .manual =
      some (key, entry))
    (frozen : entry.frozen = true)
    {cgroup : CgroupId}
    (held : appId ∈ (system.trace.run appId
      (system.manual.balancer.setFreezeCalls appId false
        outcomes)).heldBy cgroup) :
    (system.manual.balancer.setFreeze appId false outcomes).2.HoldsFrozen
      appId cgroup := by
  have changing : entry.frozen ≠ false := by simp [frozen]
  rw [setFreezeCalls_of_changing found changing] at held
  simp only [Bool.false_and, Bool.false_eq_true, if_false,
    List.append_nil] at held
  have apps := setFreeze_apps found changing outcomes
  cases result : (freezeEach false (entry.cgroupsOrKey key)
      outcomes.freeze).1 with
  | true => exact absurd held (sound.not_held_of_thawed found result cgroup)
  | false =>
    rw [result, if_neg (by simp)] at apps
    obtain ⟨before, _⟩ := FreezeTrace.mem_heldBy_run_thaw
      (fun call member => (mem_freezeEachCalls member).2) held
    simpa [HoldsFrozen, LimitRegistry.byPublicId, apps] using
      sound.listed appId cgroup before

theorem listed_setFreeze_self (sound : system.Sound) {appId : String}
    {freeze : Bool} {outcomes : SetFreezeOutcomes}
    (keeps : system.KeepsFreezes (.freeze appId freeze outcomes))
    {cgroup : CgroupId}
    (held : appId ∈ (system.trace.run appId
      (system.manual.balancer.setFreezeCalls appId freeze
        outcomes)).heldBy cgroup) :
    (system.manual.balancer.setFreeze appId freeze outcomes).2.HoldsFrozen
      appId cgroup := by
  cases found :
      system.manual.balancer.allLimits.byPublicId appId .manual with
  | none =>
    simp only [setFreezeCalls, found] at held
    simpa [setFreeze, found] using sound.listed appId cgroup held
  | some target =>
    obtain ⟨key, entry⟩ := target
    by_cases same : entry.frozen = freeze
    · simp only [setFreezeCalls, found, if_pos same] at held
      simpa [setFreeze, found, same] using sound.listed appId cgroup held
    · cases freeze with
      | true =>
        exact listed_setFreeze_true sound found
          (Bool.eq_false_iff.mpr same) keeps held
      | false =>
        exact listed_setFreeze_false sound found
          (Bool.eq_true_of_not_eq_false same) held

theorem listed_setRestoreResource_self (sound : system.Sound) {appId : String}
    {outcomes : ManualRestoreOutcomes}
    (keeps : system.KeepsFreezes (.restore appId outcomes))
    (cgroup : CgroupId) :
    appId ∉ (system.trace.run appId
      (system.manual.balancer.manualRestoreCalls appId
        outcomes)).heldBy cgroup := by
  intro held
  cases found :
      system.manual.balancer.allLimits.byPublicId appId .manual with
  | none =>
    simp only [manualRestoreCalls, found] at held
    obtain ⟨_, _, foundHolder, _⟩ := sound.listed appId cgroup held
    rw [found] at foundHolder
    cases foundHolder
  | some target =>
    obtain ⟨key, entry⟩ := target
    cases frozen : entry.frozen with
    | false =>
      simp only [manualRestoreCalls, found, frozen, Bool.false_eq_true,
        if_false] at held
      exact sound.not_held found frozen cgroup held
    | true =>
      simp only [manualRestoreCalls, found, frozen, if_true] at held
      obtain ⟨before, ineffective⟩ := FreezeTrace.mem_heldBy_run_thaw
        (fun call member => (mem_thawCalls member).2) held
      obtain ⟨call, member, here, took⟩ :=
        keeps key entry found frozen cgroup before
      rw [ineffective call member here] at took
      cases took

/-- The trace follows the freezers over a restore by hand. -/
theorem tracks_setRestoreResource (sound : system.Sound) (appId : String)
    (outcomes : ManualRestoreOutcomes) :
    (system.trace.run appId
      (system.manual.balancer.manualRestoreCalls appId outcomes)).Tracks
        (system.manual.balancer.setRestoreResource appId outcomes).2.kernel := by
  cases found :
      system.manual.balancer.allLimits.byPublicId appId .manual with
  | none =>
    simp only [setRestoreResource, manualRestoreCalls, found]
    exact sound.tracks
  | some target =>
    obtain ⟨key, entry⟩ := target
    rw [setRestoreResource_kernel found]
    -- Lifting the caps leaves the freezers alone; then the thaws run.
    have spared := freeze_writeAll_of_spares
      (sparesFreezer_manualRestore key entry outcomes)
      system.manual.balancer.kernel
    have tracks : system.trace.Tracks
        (system.manual.balancer.kernel.writeAll _) :=
      fun cgroup frozen => sound.tracks cgroup (spared ▸ frozen)
    exact tracks.run appId _

/-- A step that meets the condition keeps the entries true. -/
theorem sound_step (sound : system.Sound) (label : ManualStep)
    (keeps : system.KeepsFreezes label) :
    (system.step label).Sound := by
  cases label with
  | limit request outcomes =>
    constructor
    · intro cgroup frozen
      simp only [step, ManualSystem.step, installResourceLimit_freeze] at frozen
      exact sound.tracks cgroup frozen
    · intro holder cgroup held
      exact holdsFrozen_installResourceLimit (sound.listed holder cgroup held)
        fun plan planned stored => keeps plan planned stored holder cgroup held
  | deferredIo position outcome =>
    simp only [step, ManualSystem.step]
    cases system.manual.pending[position]? with
    | none => exact sound
    | some deferred =>
      constructor
      · intro cgroup frozen
        simp only [applyDeferredIoCap_freeze] at frozen
        exact sound.tracks cgroup frozen
      · intro holder cgroup held
        exact holdsFrozen_applyDeferredIoCap
          (sound.listed holder cgroup held) deferred outcome
  | freeze appId freeze outcomes =>
    constructor
    · simp only [step, ManualSystem.step, setFreeze_kernel]
      exact sound.tracks.run appId _
    · intro holder cgroup held
      simp only [step] at held
      by_cases own : holder = appId
      · subst own
        exact listed_setFreeze_self sound keeps held
      · rcases FreezeTrace.mem_heldBy_run held with before | ⟨same, _⟩
        · exact holdsFrozen_setFreeze_of_ne
            (sound.listed holder cgroup before) own freeze outcomes
        · exact absurd same own
  | restore appId outcomes =>
    constructor
    · exact tracks_setRestoreResource sound appId outcomes
    · intro holder cgroup held
      simp only [step] at held
      by_cases own : holder = appId
      · subst own
        exact absurd held (listed_setRestoreResource_self sound keeps cgroup)
      · rcases FreezeTrace.mem_heldBy_run held with before | ⟨same, _⟩
        · exact holdsFrozen_setRestoreResource_of_ne
            (sound.listed holder cgroup before) own outcomes
        · exact absurd same own

/-! ## Every history -/

/-- Every frozen cgroup is listed by a manual entry that says so. -/
def Answered (system : FreezeSystem) : Prop :=
  ∀ cgroup, system.manual.balancer.kernel.freeze cgroup = true →
    system.trace.gone cgroup = false → ∃ key entry,
        system.manual.balancer.allLimits.apps.get? key = some entry ∧
        entry.source = .manual ∧ entry.frozen = true ∧
        cgroup ∈ entry.cgroupsOrKey key

/-- Unfreezing an app, or restoring it, thaws all that its freeze reached. -/
def Thawable (system : FreezeSystem) : Prop :=
  ∀ appId cgroup, appId ∈ system.trace.heldBy cgroup →
    (∀ outcomes : SetFreezeOutcomes,
      (∀ position, outcomes.freeze position = .accepting) →
        (system.manual.balancer.setFreeze appId false
          outcomes).2.kernel.freeze cgroup = false) ∧
    (∀ outcomes : ManualRestoreOutcomes,
      (∀ position, outcomes.thaw position = .accepting) →
        (system.manual.balancer.setRestoreResource appId
          outcomes).2.kernel.freeze cgroup = false)

theorem Sound.answered (sound : system.Sound) : system.Answered := by
  intro cgroup frozen present
  have held : system.trace.heldBy cgroup ≠ [] :=
    (sound.tracks cgroup frozen).resolve_right (by simp [present])
  obtain ⟨holder, holds⟩ := List.exists_mem_of_ne_nil _ held
  obtain ⟨key, entry, found, flag, listed⟩ :=
    sound.listed holder cgroup holds
  obtain ⟨stored, manual, _⟩ := LimitRegistry.byPublicId_eq_some found
  exact ⟨key, entry, stored, manual, flag, listed⟩

theorem Sound.thawable (sound : system.Sound) : system.Thawable := by
  intro appId cgroup held
  obtain ⟨key, entry, found, flag, listed⟩ := sound.listed appId cgroup held
  constructor
  · intro outcomes accepting
    have done := freezeEach_accepting false accepting (entry.cgroupsOrKey key)
    have changing : entry.frozen ≠ false := by simp [flag]
    have calls := setFreezeCalls_of_changing found changing outcomes
    simp only [Bool.false_and, Bool.false_eq_true, if_false,
      List.append_nil] at calls
    rw [setFreeze_kernel, calls, Bool.eq_false_iff]
    intro frozen
    obtain ⟨_, silent⟩ := freeze_writeAll_thaw
      (fun call member => (mem_freezeEachCalls member).2) frozen
    obtain ⟨call, member, here, _⟩ := freezeEachCalls_of_done done listed
    obtain ⟨position, answer⟩ := outcome_of_mem_freezeEachCalls member
    have wrote := wrote_of_accepting (answer.trans (accepting position))
    rw [silent call member here] at wrote
    cases wrote
  · intro outcomes accepting
    rw [setRestoreResource_kernel found, Bool.eq_false_iff]
    simp only [manualRestoreCalls, found, flag, if_true]
    intro frozen
    obtain ⟨_, silent⟩ := freeze_writeAll_thaw
      (fun call member => (mem_thawCalls member).2) frozen
    obtain ⟨position, member⟩ := exists_thawCall outcomes.thaw listed
    have wrote : (⟨cgroup, false, outcomes.thaw position⟩ :
        FreezeCall).wrote = true := wrote_of_accepting (accepting position)
    rw [silent _ member rfl] at wrote
    cases wrote

/-- In every history whose steps meet the condition, each frozen cgroup is
listed by a frozen manual entry, and unfreezing or restoring the app thaws
all its freeze reached. -/
theorem freezes_answered {history : List ManualStep}
    (keeping : Runs.EveryStep step KeepsFreezes initial history) :
    (Runs.run step initial history).Answered ∧
      (Runs.run step initial history).Thawable := by
  have sound : (Runs.run step initial history).Sound :=
    Runs.invariant_run Sound (fun _ label before keeps =>
      sound_step before label keeps) sound_initial keeping
  exact ⟨sound.answered, sound.thawable⟩

/-- Every cgroup follows. -/
def acceptingFreeze : SetFreezeOutcomes :=
  ⟨fun _ => .accepting, fun _ => .accepting, 0⟩

/-- Limiting the frozen app again replaces its entry by one that is not
frozen: the app stays frozen and neither request thaws it. -/
theorem relimit_forgets_freeze :
    ¬ (Runs.run step initial
      [ManualSystem.limitApp [], .freeze "app" true acceptingFreeze,
        ManualSystem.limitApp []]).Answered ∧
    ¬ (Runs.run step initial
      [ManualSystem.limitApp [], .freeze "app" true acceptingFreeze,
        ManualSystem.limitApp []]).Thawable := by
  constructor
  · intro answered
    obtain ⟨key, entry, stored, _, frozen, _⟩ :=
      answered "one.scope" (by decide +kernel) (by decide +kernel)
    have thawed : ∀ app ∈ (Runs.run step initial
        [ManualSystem.limitApp [], .freeze "app" true acceptingFreeze,
          ManualSystem.limitApp []]).manual.balancer.allLimits.apps.entries,
        app.2.frozen = false := by decide +kernel
    rw [thawed _ ((OrderedDict.get?_eq_some_iff _ _ _).mp stored)] at frozen
    cases frozen
  · intro thawable
    have thaws := (thawable "app" "one.scope" (by decide +kernel)).1
      acceptingFreeze (fun _ => rfl)
    revert thaws
    decide +kernel

/-- Frozen once limited, the app owns up to its freeze and can be thawed. -/
theorem freezes_answered_once :
    (Runs.run step initial [ManualSystem.limitApp [],
        .freeze "app" true acceptingFreeze]).Answered ∧
    (Runs.run step initial [ManualSystem.limitApp [],
        .freeze "app" true acceptingFreeze]).Thawable := by
  apply freezes_answered
  refine ⟨?_, ?_, trivial⟩
  · intro plan _ _ holder cgroup held
    cases held
  · intro key entry _ _ _ _ stopped
    have done := freezeEach_accepting true (fun _ => rfl)
      (entry.cgroupsOrKey key)
    exact absurd (stopped.symm.trans done) Bool.false_ne_true

end FreezeSystem

end SmarTune
