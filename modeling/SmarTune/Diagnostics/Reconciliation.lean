import SmarTune.Diagnostics.LiveProtections
import SmarTune.Library.Runs

/-!
# Reconciliation after a restart

When the service starts it marks every protection that the ledger still counts
as unresolved and a summary reports as active: cleared by a reboot when the
boot has changed since the first event of the protection, and in need of
verification otherwise.  A boot id is unknown or not empty.
-/

namespace SmarTune

variable {Ts Id : Type*}

/-- `events_for_protections`.  Their order is left to the summary. -/
def eventsForProtections (ledger : List (OperationalEvent Ts Id))
    (protectionIds : List ProtectionId) : List (OperationalEvent Ts Id) :=
  ledger.filter fun event => event.protectionId.any (· ∈ protectionIds)

def OperationalEvent.isReconciliationMarker
    (event : OperationalEvent Ts Id) : Bool :=
  decide (event.eventType = .controlLifecycleRequiresVerification) ||
    decide (event.eventType = .controlLifecycleClearedByReboot)

def hasMarker (events : List (OperationalEvent Ts Id))
    (protectionId : ProtectionId) : Bool :=
  events.any fun event =>
    decide (event.protectionId = some protectionId) &&
      event.isReconciliationMarker

/-- Both boot ids are known and differ. -/
def rebootedBetween (recorded current : Option String) : Bool :=
  match recorded, current with
  | some recorded, some current => decide (recorded ≠ current)
  | _, _ => false

def Lifecycle.marker (lifecycle : Lifecycle Ts Id)
    (currentBootId : Option String) : EventRequest :=
  let rebooted := rebootedBetween lifecycle.bootId currentBootId
  { eventType :=
      if rebooted then .controlLifecycleClearedByReboot
      else .controlLifecycleRequiresVerification
    severity := if rebooted then "info" else "warning"
    category := platformControl
    summary :=
      if rebooted then
        "Resource limit lifecycle ended because the system rebooted"
      else "Resource limit lifecycle was interrupted and requires verification"
    source := some "diagnostics"
    appId := lifecycle.appId
    protectionId := some lifecycle.protectionId
    attributes := { bootId := currentBootId } }

section Reconcile

variable [LinearOrder Ts] [LinearOrder Id]

/-- The lifecycles that a restart marks. -/
def interruptedLifecycles (ledger : List (OperationalEvent Ts Id)) :
    List (Lifecycle Ts Id) :=
  let existing := eventsForProtections ledger (unresolvedProtectionIds ledger)
  (summarize existing).filter fun lifecycle =>
    decide (lifecycle.status = .active) &&
      !hasMarker existing lifecycle.protectionId

/-- `reconcile_interrupted_lifecycles`: the marked protections and the ledger
with their markers. -/
def reconcileInterruptedLifecycles (ledger : List (OperationalEvent Ts Id))
    (currentBootId : Option String) (stamp : ProtectionId → EventStamp Ts Id) :
    List ProtectionId × List (OperationalEvent Ts Id) :=
  let marked := interruptedLifecycles ledger
  (marked.map (·.protectionId), marked.foldl (fun ledger lifecycle =>
        (recordEvent currentBootId ledger (lifecycle.marker currentBootId)
          (stamp lifecycle.protectionId)).2)
      ledger)

/-- The status that a summary of the whole ledger gives a protection. -/
def statusIn (ledger : List (OperationalEvent Ts Id))
    (protectionId : ProtectionId) : LifecycleStatus :=
  lifecycleStatus (entriesFor ledger protectionId)

/-! ## What a restart marks -/

variable {ledger : List (OperationalEvent Ts Id)}
  {protectionId : ProtectionId} {currentBootId : Option String}
  {stamp : ProtectionId → EventStamp Ts Id}

omit [LinearOrder Ts] [LinearOrder Id] in
theorem mem_eventsForProtections {protectionIds : List ProtectionId}
    {event : OperationalEvent Ts Id} :
    event ∈ eventsForProtections ledger protectionIds ↔ event ∈ ledger ∧
        ∃ protectionId ∈ protectionIds,
          event.protectionId = some protectionId := by
  rw [eventsForProtections, List.mem_filter, Option.any_eq_true]
  simp [and_comm]

theorem entriesFor_eventsForProtections {protectionIds : List ProtectionId}
    (chosen : protectionId ∈ protectionIds) :
    entriesFor (eventsForProtections ledger protectionIds) protectionId =
      entriesFor ledger protectionId := by
  rw [entriesFor, eventsForProtections, List.filter_filter, entriesFor]
  congr 1
  apply List.filter_congr
  intro event _
  by_cases own : event.protectionId = some protectionId <;> simp [own, chosen]

omit [LinearOrder Ts] [LinearOrder Id] in
theorem hasMarker_eq_true_iff :
    hasMarker ledger protectionId = true ↔
      ∃ event ∈ ledger, event.protectionId = some protectionId ∧
        event.isReconciliationMarker = true := by
  simp [hasMarker]

omit [LinearOrder Ts] [LinearOrder Id] in
theorem hasMarker_eventsForProtections {protectionIds : List ProtectionId}
    (chosen : protectionId ∈ protectionIds) :
    hasMarker (eventsForProtections ledger protectionIds) protectionId =
      hasMarker ledger protectionId := by
  rw [Bool.eq_iff_iff, hasMarker_eq_true_iff, hasMarker_eq_true_iff]
  constructor
  · rintro ⟨event, member, marks⟩
    exact ⟨event, (mem_eventsForProtections.mp member).1, marks⟩
  · rintro ⟨event, member, own, marks⟩
    exact ⟨event, mem_eventsForProtections.mpr
      ⟨member, protectionId, chosen, own⟩, own, marks⟩

theorem hasMarker_eq_hasType :
    hasMarker ledger protectionId = (hasType (entriesFor ledger protectionId)
          .controlLifecycleRequiresVerification ||
        hasType (entriesFor ledger protectionId)
          .controlLifecycleClearedByReboot) := by
  rw [Bool.eq_iff_iff, hasMarker_eq_true_iff, Bool.or_eq_true]
  simp only [hasType, List.any_eq_true, mem_entriesFor, decide_eq_true_eq,
    OperationalEvent.isReconciliationMarker, Bool.or_eq_true]
  constructor
  · rintro ⟨event, member, own, verify | rebooted⟩
    · exact .inl ⟨event, ⟨member, own⟩, verify⟩
    · exact .inr ⟨event, ⟨member, own⟩, rebooted⟩
  · rintro (⟨event, ⟨member, own⟩, verify⟩ | ⟨event, ⟨member, own⟩, rebooted⟩)
    · exact ⟨event, member, own, .inl verify⟩
    · exact ⟨event, member, own, .inr rebooted⟩

omit [LinearOrder Ts] [LinearOrder Id] in
theorem lifecycleStatus_eq_active_iff
    {entries : List (OperationalEvent Ts Id)} :
    lifecycleStatus entries = .active ↔ actionStatus entries = .active ∧
        hasType entries .controlLifecycleClearedByReboot = false ∧
        hasType entries .controlLifecycleClearedWithoutRuntimeState = false ∧
        hasType entries .controlLifecycleRequiresVerification = false := by
  unfold lifecycleStatus
  cases hasType entries .controlLifecycleClearedByReboot <;>
    cases hasType entries .controlLifecycleClearedWithoutRuntimeState <;>
      cases hasType entries .controlLifecycleRequiresVerification <;>
        by_cases active : actionStatus entries = .active <;> simp [active]

omit [LinearOrder Ts] [LinearOrder Id] in
theorem lifecycleStatus_eq_requiresVerification_iff
    {entries : List (OperationalEvent Ts Id)} :
    lifecycleStatus entries = .requiresVerification ↔
      actionStatus entries = .active ∧
        hasType entries .controlLifecycleClearedByReboot = false ∧
        hasType entries .controlLifecycleClearedWithoutRuntimeState = false ∧
        hasType entries .controlLifecycleRequiresVerification = true := by
  have uncertain : actionStatus entries ≠ .requiresVerification := by
    unfold actionStatus
    split_ifs <;> simp
  unfold lifecycleStatus
  cases hasType entries .controlLifecycleClearedByReboot <;>
    cases hasType entries .controlLifecycleClearedWithoutRuntimeState <;>
      cases hasType entries .controlLifecycleRequiresVerification <;>
        by_cases active : actionStatus entries = .active <;>
          simp [active, uncertain]

/-- A restart marks the unresolved protections that a summary reports active. -/
theorem mem_interruptedLifecycles {lifecycle : Lifecycle Ts Id} :
    lifecycle ∈ interruptedLifecycles ledger ↔
      lifecycle.protectionId ∈ unresolvedProtectionIds ledger ∧
        statusIn ledger lifecycle.protectionId = .active ∧
        lifecycle = lifecycleOf lifecycle.protectionId
          (entriesFor ledger lifecycle.protectionId) := by
  rw [interruptedLifecycles, List.mem_filter, Bool.and_eq_true,
    decide_eq_true_eq, Bool.not_eq_true', mem_summarize]
  constructor
  · rintro ⟨⟨⟨event, member, own⟩, shape⟩, active, _⟩
    obtain ⟨_, other, unresolved, named⟩ := mem_eventsForProtections.mp member
    rw [own] at named
    cases named
    rw [entriesFor_eventsForProtections unresolved] at shape
    refine ⟨unresolved, ?_, shape⟩
    rw [shape] at active
    exact active
  · rintro ⟨unresolved, active, shape⟩
    have entries : entriesFor (eventsForProtections ledger
        (unresolvedProtectionIds ledger)) lifecycle.protectionId =
          entriesFor ledger lifecycle.protectionId :=
      entriesFor_eventsForProtections unresolved
    refine ⟨⟨?_, ?_⟩, ?_, ?_⟩
    · have counted := mem_protectionsWith.mp unresolved
      obtain ⟨event, listed⟩ := List.exists_mem_of_ne_nil _ counted.1
      obtain ⟨member, _, own⟩ := mem_controlRows.mp listed
      exact ⟨event, mem_eventsForProtections.mpr
        ⟨member, _, unresolved, own⟩, own⟩
    · rw [entries]
      exact shape
    · rw [shape]
      exact active
    · have unmarked := lifecycleStatus_eq_active_iff.mp active
      rw [hasMarker_eventsForProtections unresolved, hasMarker_eq_hasType,
        unmarked.2.1, unmarked.2.2.2]
      rfl

omit [LinearOrder Ts] [LinearOrder Id] in
theorem foldl_recordEvent_marker (marked : List (Lifecycle Ts Id))
    (ledger : List (OperationalEvent Ts Id)) :
    marked.foldl (fun ledger lifecycle =>
          (recordEvent currentBootId ledger (lifecycle.marker currentBootId)
            (stamp lifecycle.protectionId)).2)
        ledger =
      ledger ++ marked.map fun lifecycle =>
        (lifecycle.marker currentBootId).row currentBootId
          (stamp lifecycle.protectionId) := by
  induction marked generalizing ledger with
  | nil => simp
  | cons lifecycle marked ih =>
    rw [List.foldl_cons, recordEvent_of_anonymous rfl, ih,
      List.map_cons, List.append_assoc, List.singleton_append]

/-- A restart adds one marker for each lifecycle that it marks. -/
theorem reconcileInterruptedLifecycles_ledger :
    (reconcileInterruptedLifecycles ledger currentBootId stamp).2 =
      ledger ++ (interruptedLifecycles ledger).map fun lifecycle =>
        (lifecycle.marker currentBootId).row currentBootId
          (stamp lifecycle.protectionId) :=
  foldl_recordEvent_marker _ _

theorem mem_reconcileInterruptedLifecycles :
    protectionId ∈
        (reconcileInterruptedLifecycles ledger currentBootId stamp).1 ↔
      protectionId ∈ unresolvedProtectionIds ledger ∧
        statusIn ledger protectionId = .active := by
  rw [reconcileInterruptedLifecycles, List.mem_map]
  constructor
  · rintro ⟨lifecycle, member, rfl⟩
    obtain ⟨unresolved, active, _⟩ := mem_interruptedLifecycles.mp member
    exact ⟨unresolved, active⟩
  · rintro ⟨unresolved, active⟩
    exact ⟨lifecycleOf protectionId (entriesFor ledger protectionId),
      mem_interruptedLifecycles.mpr ⟨unresolved, active, rfl⟩, rfl⟩

/-- A restart marks no protection twice. -/
theorem reconcileInterruptedLifecycles_nodup :
    (reconcileInterruptedLifecycles ledger currentBootId stamp).1.Nodup := by
  have ids : ∀ events : List (OperationalEvent Ts Id),
      ((summarize events).map (·.protectionId)).Nodup := by
    intro events
    have sorted := (Latest.chronological_perm
      (fun lifecycle : Lifecycle Ts Id =>
        OrderDual.toDual lifecycle.lastUpdatedAt)
      ((protectionIds events).map fun protectionId =>
        lifecycleOf protectionId (entriesFor events protectionId))).map
      (·.protectionId)
    rw [summarize, sorted.nodup_iff, List.map_map]
    have same : (Lifecycle.protectionId ∘ fun protectionId =>
        lifecycleOf protectionId (entriesFor events protectionId)) = id := rfl
    rw [same, List.map_id, protectionIds, List.nodup_reverse]
    exact List.nodup_dedup _
  exact (ids _).sublist (List.filter_sublist.map _)

theorem reported_iff {status : LifecycleStatus} :
    (∃ lifecycle ∈ summarize ledger,
        lifecycle.protectionId = protectionId ∧ lifecycle.status = status) ↔
      (∃ event ∈ ledger, event.protectionId = some protectionId) ∧
        statusIn ledger protectionId = status := by
  constructor
  · rintro ⟨lifecycle, member, rfl, same⟩
    obtain ⟨named, shape⟩ := mem_summarize.mp member
    rw [shape] at same
    exact ⟨named, same⟩
  · rintro ⟨named, same⟩
    exact ⟨lifecycleOf protectionId (entriesFor ledger protectionId),
      mem_summarize.mpr ⟨named, rfl⟩, rfl, same⟩

theorem statusIn_eq_clearedByReboot_iff :
    statusIn ledger protectionId = .clearedByReboot ↔
      ∃ event ∈ ledger, event.protectionId = some protectionId ∧
        event.eventType = .controlLifecycleClearedByReboot := by
  have marked : statusIn ledger protectionId = .clearedByReboot ↔
      hasType (entriesFor ledger protectionId)
        .controlLifecycleClearedByReboot = true := by
    unfold statusIn lifecycleStatus actionStatus
    cases hasType (entriesFor ledger protectionId)
      .controlLifecycleClearedByReboot
    · simp only [Bool.false_eq_true, if_false, iff_false]
      split_ifs <;> simp
    · simp
  rw [marked, hasType, List.any_eq_true]
  simp [mem_entriesFor, and_assoc]

/-- A restart clears a protection that no event cleared before when it marks it
and the boot has changed since its first event. -/
theorem cleared_after_restart_iff
    (uncleared : statusIn ledger protectionId ≠ .clearedByReboot) :
    statusIn (reconcileInterruptedLifecycles ledger currentBootId stamp).2
        protectionId = .clearedByReboot ↔
      protectionId ∈
          (reconcileInterruptedLifecycles ledger currentBootId stamp).1 ∧
        rebootedBetween (lifecycleOf protectionId
          (entriesFor ledger protectionId)).bootId currentBootId = true := by
  rw [statusIn_eq_clearedByReboot_iff, reconcileInterruptedLifecycles_ledger]
  constructor
  · rintro ⟨event, member, own, cleared⟩
    rcases List.mem_append.mp member with earlier | added
    · exact absurd (statusIn_eq_clearedByReboot_iff.mpr
        ⟨event, earlier, own, cleared⟩) uncleared
    · obtain ⟨lifecycle, marked, rfl⟩ := List.mem_map.mp added
      have named : lifecycle.protectionId = protectionId := Option.some.inj own
      subst named
      obtain ⟨unresolved, active, shape⟩ := mem_interruptedLifecycles.mp marked
      refine ⟨mem_reconcileInterruptedLifecycles.mpr ⟨unresolved, active⟩, ?_⟩
      rw [← shape]
      by_contra settled
      simp [EventRequest.row, Lifecycle.marker, settled] at cleared
  · rintro ⟨marked, rebooted⟩
    obtain ⟨unresolved, active⟩ :=
      mem_reconcileInterruptedLifecycles.mp marked
    have listed : lifecycleOf protectionId (entriesFor ledger protectionId) ∈
        interruptedLifecycles ledger :=
      mem_interruptedLifecycles.mpr ⟨unresolved, active, rfl⟩
    refine ⟨_, List.mem_append_right _ (List.mem_map_of_mem listed), rfl, ?_⟩
    simp [EventRequest.row, Lifecycle.marker, rebooted]

end Reconcile

/-! ## Runs of restarts -/

/-- The ledger, and what the restarts so far have marked in which boot. -/
structure ReconciledLedger (Ts Id : Type*) where
  rows : List (OperationalEvent Ts Id)
  marks : List (Option String × ProtectionId)

/-- What happens to the ledger. -/
inductive ReconcileStep (Ts Id : Type*)
  | record (row : OperationalEvent Ts Id)
  | restart (currentBootId : Option String)
      (stamp : ProtectionId → EventStamp Ts Id)

/-- The boot in which the last application was recorded. -/
def lastAppliedBoot (entries : List (OperationalEvent Ts Id)) :
    Option String :=
  (entries.filter fun event =>
    decide (event.actionFor = some .applied)).getLast?.bind (·.bootId)

section Restarts

variable [LinearOrder Ts] [LinearOrder Id]

def reconcileStep (state : ReconciledLedger Ts Id) :
    ReconcileStep Ts Id → ReconciledLedger Ts Id
  | .record row => { state with rows := (insertEvent state.rows row).2 }
  | .restart currentBootId stamp =>
    let reconciled :=
      reconcileInterruptedLifecycles state.rows currentBootId stamp
    { rows := reconciled.2
      marks := state.marks ++
        reconciled.1.map fun protectionId => (currentBootId, protectionId) }

/-- The protection is interrupted, and the boot has changed since its last
application. -/
def EndedByReboot (ledger : List (OperationalEvent Ts Id))
    (currentBootId : Option String) (protectionId : ProtectionId) : Prop :=
  (statusIn ledger protectionId = .active ∨
      statusIn ledger protectionId = .requiresVerification) ∧
    rebootedBetween (lastAppliedBoot (entriesFor ledger protectionId))
      currentBootId = true

/-- No protection is marked twice in one boot. -/
def MarksOnce (state : ReconciledLedger Ts Id) : ReconcileStep Ts Id → Prop
  | .record _ => True
  | .restart currentBootId stamp =>
    let marked :=
      (reconcileInterruptedLifecycles state.rows currentBootId stamp).1
    marked.Nodup ∧
      ∀ protectionId ∈ marked, (currentBootId, protectionId) ∉ state.marks

/-- No recovered or failed protection is marked. -/
def MarksUnfinished (state : ReconciledLedger Ts Id) :
    ReconcileStep Ts Id → Prop
  | .record _ => True
  | .restart currentBootId stamp =>
    ∀ lifecycle ∈ summarize state.rows, lifecycle.protectionId ∈
          (reconcileInterruptedLifecycles state.rows currentBootId stamp).1 →
        lifecycle.status ≠ .recovered ∧ lifecycle.status ≠ .failed

/-- Every protection that a reboot has ended is reported as cleared by it. -/
def ClearsRebooted (state : ReconciledLedger Ts Id) :
    ReconcileStep Ts Id → Prop
  | .record _ => True
  | .restart currentBootId stamp =>
    ∀ protectionId, EndedByReboot state.rows currentBootId protectionId →
      ∃ lifecycle ∈ summarize
          (reconcileInterruptedLifecycles state.rows currentBootId stamp).2,
        lifecycle.protectionId = protectionId ∧
          lifecycle.status = .clearedByReboot

/-- A restart reconciles the ledger as it should. -/
def Reconciles (state : ReconciledLedger Ts Id)
    (label : ReconcileStep Ts Id) : Prop :=
  (MarksOnce state label ∧ MarksUnfinished state label) ∧
    ClearsRebooted state label

/-- The condition on a restart: a protection that a reboot has ended was not
marked before, counts as live and began in another boot. -/
def Classifiable (state : ReconciledLedger Ts Id) :
    ReconcileStep Ts Id → Prop
  | .record _ => True
  | .restart currentBootId _ =>
    ∀ protectionId, EndedByReboot state.rows currentBootId protectionId →
      hasType (entriesFor state.rows protectionId)
          .controlLifecycleRequiresVerification = false ∧
        CountsAsLive (controlEntries state.rows protectionId) ∧
        rebootedBetween (lifecycleOf protectionId
          (entriesFor state.rows protectionId)).bootId currentBootId = true

def MarksStored (state : ReconciledLedger Ts Id) : Prop :=
  ∀ mark ∈ state.marks, hasMarker state.rows mark.2 = true

variable {state : ReconciledLedger Ts Id} {label : ReconcileStep Ts Id}

theorem MarksStored.step (stored : MarksStored state) :
    MarksStored (reconcileStep state label) := by
  intro mark member
  rw [hasMarker_eq_true_iff]
  cases label with
  | record row =>
    obtain ⟨event, kept, marks⟩ := hasMarker_eq_true_iff.mp (stored mark member)
    refine ⟨event, ?_, marks⟩
    change event ∈ (insertEvent state.rows row).2
    unfold insertEvent
    split
    · exact kept
    · exact List.mem_append_left _ kept
  | restart currentBootId stamp =>
    change ∃ event ∈ (reconcileInterruptedLifecycles state.rows currentBootId
      stamp).2, _
    rw [reconcileInterruptedLifecycles_ledger]
    rcases List.mem_append.mp member with earlier | added
    · obtain ⟨event, kept, marks⟩ :=
        hasMarker_eq_true_iff.mp (stored mark earlier)
      exact ⟨event, List.mem_append_left _ kept, marks⟩
    · obtain ⟨protectionId, marked, rfl⟩ := List.mem_map.mp added
      obtain ⟨lifecycle, listed, rfl⟩ := List.mem_map.mp marked
      refine ⟨_, List.mem_append_right _ (List.mem_map_of_mem listed), rfl, ?_⟩
      cases rebooted : rebootedBetween lifecycle.bootId currentBootId <;>
        simp [OperationalEvent.isReconciliationMarker, EventRequest.row,
          Lifecycle.marker, rebooted]

/-- A protection with a marker is not marked again. -/
theorem MarksStored.once (stored : MarksStored state) :
    MarksOnce state label ∧ MarksUnfinished state label := by
  cases label with
  | record row => exact ⟨trivial, trivial⟩
  | restart currentBootId stamp =>
    refine ⟨⟨reconcileInterruptedLifecycles_nodup, ?_⟩, ?_⟩
    · intro protectionId marked again
      have unmarked := lifecycleStatus_eq_active_iff.mp
        (mem_reconcileInterruptedLifecycles.mp marked).2
      have found := stored _ again
      rw [hasMarker_eq_hasType, unmarked.2.1, unmarked.2.2.2] at found
      cases found
    · intro lifecycle listed marked
      have active := (mem_reconcileInterruptedLifecycles.mp marked).2
      rw [(mem_summarize.mp listed).2]
      change statusIn state.rows lifecycle.protectionId ≠ _ ∧
        statusIn state.rows lifecycle.protectionId ≠ _
      rw [active]
      exact ⟨by decide, by decide⟩

theorem EndedByReboot.uncleared {ledger : List (OperationalEvent Ts Id)}
    {currentBootId : Option String} {protectionId : ProtectionId}
    (ended : EndedByReboot ledger currentBootId protectionId) :
    (∃ event ∈ ledger, event.protectionId = some protectionId) ∧
      statusIn ledger protectionId ≠ .clearedByReboot := by
  constructor
  · by_contra unnamed
    have nothing : entriesFor ledger protectionId = [] := by
      rw [List.eq_nil_iff_forall_not_mem]
      intro event entry
      exact unnamed ⟨event, mem_entriesFor.mp entry⟩
    have rebooted := ended.2
    rw [nothing] at rebooted
    cases rebooted
  · rcases ended.1 with active | verify
    · simp [active]
    · simp [verify]

theorem EndedByReboot.mem_reconcileInterruptedLifecycles
    {ledger : List (OperationalEvent Ts Id)} {currentBootId : Option String}
    {protectionId : ProtectionId} {stamp : ProtectionId → EventStamp Ts Id}
    (ended : EndedByReboot ledger currentBootId protectionId) :
    protectionId ∈
        (reconcileInterruptedLifecycles ledger currentBootId stamp).1 ↔
      hasType (entriesFor ledger protectionId)
          .controlLifecycleRequiresVerification = false ∧
        CountsAsLive (controlEntries ledger protectionId) := by
  rw [SmarTune.mem_reconcileInterruptedLifecycles,
    mem_unresolvedProtectionIds_iff_counts]
  have unrebooted : hasType (controlEntries ledger protectionId)
      .controlLifecycleClearedByReboot = false := by
    rw [← Bool.not_eq_true, hasType, List.any_eq_true]
    rintro ⟨event, entry, cleared⟩
    obtain ⟨listed, own⟩ := mem_entriesFor.mp entry
    exact ended.uncleared.2 (statusIn_eq_clearedByReboot_iff.mpr ⟨event,
      List.mem_of_mem_filter listed, own, of_decide_eq_true cleared⟩)
  have unmarked : statusIn ledger protectionId = .active ↔
      hasType (entriesFor ledger protectionId)
        .controlLifecycleRequiresVerification = false := by
    rcases ended.1 with active | verify
    · exact iff_of_true active (lifecycleStatus_eq_active_iff.mp active).2.2.2
    · have marker :=
        (lifecycleStatus_eq_requiresVerification_iff.mp verify).2.2.2
      simp [verify, marker]
  rw [unmarked, and_comm]
  simp [unrebooted]

theorem clearsRebooted_iff :
    ClearsRebooted state label ↔ Classifiable state label := by
  cases label with
  | record row => exact Iff.rfl
  | restart currentBootId stamp =>
    apply forall_congr'
    intro protectionId
    apply imp_congr_right
    intro ended
    have named : ∃ event ∈ (reconcileInterruptedLifecycles state.rows
        currentBootId stamp).2, event.protectionId = some protectionId := by
      obtain ⟨event, member, own⟩ := ended.uncleared.1
      rw [reconcileInterruptedLifecycles_ledger]
      exact ⟨event, List.mem_append_left _ member, own⟩
    rw [reported_iff, and_iff_right named,
      cleared_after_restart_iff ended.uncleared.2,
      ended.mem_reconcileInterruptedLifecycles, and_assoc]

/-- In every run, every restart marks each interrupted protection once per boot
and none that is finished, and it clears every protection that a reboot has
ended exactly when these were not marked before, count as live and began in
another boot. -/
theorem restarts_reconcile_iff (ledger : List (OperationalEvent Ts Id))
    (labels : List (ReconcileStep Ts Id)) :
    Runs.EveryStep reconcileStep Reconciles ⟨ledger, []⟩ labels ↔
      Runs.EveryStep reconcileStep Classifiable ⟨ledger, []⟩ labels := by
  have once : Runs.EveryStep reconcileStep
      (fun state label => MarksOnce state label ∧ MarksUnfinished state label)
      (⟨ledger, []⟩ : ReconciledLedger Ts Id) labels :=
    Runs.everyStep_of_invariant MarksStored
      (fun _ _ stored => stored.step) (fun _ _ stored => stored.once) labels
      (by intro mark member; cases member)
  unfold Reconciles
  rw [Runs.everyStep_and, and_iff_right once]
  exact Runs.everyStep_congr (fun _ _ => clearsRebooted_iff) _ _

/-- A limit that a restart in its own boot has marked is not cleared by the
reboot after it. -/
theorem marked_protection_outlives_reboot :
    ¬ Runs.EveryStep reconcileStep Reconciles
        (⟨cpuLimitEvents [.applied], []⟩ : ReconciledLedger ℕ ℕ)
        [.restart (some "boot") fun _ => ⟨1, 1, 1⟩,
          .restart (some "next") fun _ => ⟨2, 2, 2⟩] := by
  rintro ⟨_, ⟨_, clears⟩, _⟩
  have cleared := clears ⟨.auto, "app", "app.scope", 0⟩
    (by unfold EndedByReboot; decide)
  revert cleared
  decide

end Restarts

end SmarTune
