import SmarTune.Diagnostics.EventStore
import SmarTune.Library.Latest
import Mathlib.Data.Prod.Lex
import Mathlib.Data.String.Basic

/-!
# Control lifecycles read from the ledger

`summarize` builds one lifecycle for every protection id: the state of a
resource is its latest action, in the order of timestamps and, among equal
timestamps, of event ids.
-/

namespace SmarTune

/-- The status of a lifecycle. -/
inductive LifecycleStatus
  | failed
  | active
  | recovered
  | clearedByReboot
  | clearedWithoutRuntimeState
  | requiresVerification
  deriving DecidableEq

/-- One user-facing lifecycle. -/
structure Lifecycle (Ts Id : Type*) where
  protectionId : ProtectionId
  status : LifecycleStatus
  startedAt : Option Ts
  lastUpdatedAt : WithBot Ts
  appId : Option String
  source : Option String
  bootId : Option String
  appliedResources : List String
  recoveredResources : List String
  failedResources : List String
  activeResources : List String
  cgroups : List String
  events : List (OperationalEvent Ts Id)

/-- The resources whose latest action is the given one. -/
def Lifecycle.resourcesIn {Ts Id : Type*}
    (lifecycle : Lifecycle Ts Id) : ControlAction → List String
  | .applied => lifecycle.activeResources
  | .recovered => lifecycle.recoveredResources
  | .failed => lifecycle.failedResources

namespace OperationalEvent

variable {Ts Id : Type*} (event : OperationalEvent Ts Id)

/-- `_action_for`. -/
def actionFor : Option ControlAction := event.eventType.suffix

/-- `_resource_for`. -/
def resourceFor : String := event.resourceType.getD "unknown"

def actionEntry : Option (String × ControlAction) :=
  event.actionFor.map fun action => (event.resourceFor, action)

/-- The key by which the entries of a lifecycle are sorted. -/
def order : Ts ×ₗ Id := toLex (event.tsUtc, event.eventId)

end OperationalEvent

section Summarize

variable {Ts Id : Type*}

/-- The values of a list of names in ascending order. -/
def sortedNames (names : List String) : List String :=
  names.insertionSort (· ≤ ·)

def resourcesWithLatest (entries : List (OperationalEvent Ts Id))
    (action : ControlAction) : List String :=
  sortedNames ((Latest.book OperationalEvent.actionEntry entries).entries.filterMap
    fun entry => if entry.2 = action then some entry.1 else none)

def everApplied (entries : List (OperationalEvent Ts Id)) : List String :=
  sortedNames (entries.filterMap fun event =>
    if event.actionFor = some .applied then some event.resourceFor
    else none).dedup

/-- The status before the markers are looked at. -/
def actionStatus (entries : List (OperationalEvent Ts Id)) : LifecycleStatus :=
  if resourcesWithLatest entries .failed ≠ [] then .failed
  else if resourcesWithLatest entries .applied ≠ [] then .active
  else .recovered

def hasType (entries : List (OperationalEvent Ts Id))
    (eventType : EventType) : Bool :=
  entries.any fun event => decide (event.eventType = eventType)

def lifecycleStatus (entries : List (OperationalEvent Ts Id)) :
    LifecycleStatus :=
  if hasType entries .controlLifecycleClearedByReboot then .clearedByReboot
  else if hasType entries .controlLifecycleClearedWithoutRuntimeState then
    .clearedWithoutRuntimeState
  else if hasType entries .controlLifecycleRequiresVerification ∧
      actionStatus entries = .active then .requiresVerification
  else actionStatus entries

/-- The lifecycle of a protection with the given entries, oldest first. -/
def lifecycleOf (protectionId : ProtectionId)
    (entries : List (OperationalEvent Ts Id)) : Lifecycle Ts Id where
  protectionId := protectionId
  status := lifecycleStatus entries
  startedAt := entries.head?.map (·.tsUtc)
  lastUpdatedAt := entries.getLast?.map (·.tsUtc)
  appId := entries.head?.bind (·.appId)
  source := entries.head?.bind (·.source)
  bootId := entries.head?.bind (·.attributes.bootId)
  appliedResources := everApplied entries
  recoveredResources := resourcesWithLatest entries .recovered
  failedResources := resourcesWithLatest entries .failed
  activeResources := resourcesWithLatest entries .applied
  cgroups := (entries.head?.map (·.attributes.cgroups)).getD []
  events := entries

/-- The protections of the events, in the order of their first events. -/
def protectionIds (events : List (OperationalEvent Ts Id)) :
    List ProtectionId :=
  (events.filterMap (·.protectionId)).reverse.dedup.reverse

variable [LinearOrder Ts] [LinearOrder Id]

/-- The entries of one protection, oldest first. -/
def entriesFor (events : List (OperationalEvent Ts Id))
    (protectionId : ProtectionId) : List (OperationalEvent Ts Id) :=
  Latest.chronological OperationalEvent.order
    (events.filter fun event => event.protectionId = some protectionId)

/-- `summarize`, the last updated lifecycle first. -/
def summarize (events : List (OperationalEvent Ts Id)) :
    List (Lifecycle Ts Id) :=
  Latest.chronological (fun lifecycle => OrderDual.toDual lifecycle.lastUpdatedAt)
    ((protectionIds events).map fun protectionId =>
      lifecycleOf protectionId (entriesFor events protectionId))

/-! ## Reading a summary -/

omit [LinearOrder Ts] [LinearOrder Id] in
theorem mem_protectionIds {events : List (OperationalEvent Ts Id)}
    {protectionId : ProtectionId} :
    protectionId ∈ protectionIds events ↔
      ∃ event ∈ events, event.protectionId = some protectionId := by
  simp [protectionIds]

theorem mem_entriesFor {events : List (OperationalEvent Ts Id)}
    {protectionId : ProtectionId} {event : OperationalEvent Ts Id} :
    event ∈ entriesFor events protectionId ↔
      event ∈ events ∧ event.protectionId = some protectionId := by
  simp [entriesFor]

theorem mem_summarize {events : List (OperationalEvent Ts Id)}
    {lifecycle : Lifecycle Ts Id} :
    lifecycle ∈ summarize events ↔ (∃ event ∈ events,
        event.protectionId = some lifecycle.protectionId) ∧
      lifecycle = lifecycleOf lifecycle.protectionId
        (entriesFor events lifecycle.protectionId) := by
  simp only [summarize, Latest.mem_chronological, List.mem_map]
  constructor
  · rintro ⟨protectionId, member, rfl⟩
    exact ⟨mem_protectionIds.mp member, rfl⟩
  · rintro ⟨named, same⟩
    exact ⟨_, mem_protectionIds.mpr named, same.symm⟩

omit [LinearOrder Ts] [LinearOrder Id] in
theorem mem_resourcesWithLatest {entries : List (OperationalEvent Ts Id)}
    {action : ControlAction} {resource : String} :
    resource ∈ resourcesWithLatest entries action ↔
      Latest.latest OperationalEvent.actionEntry entries resource =
        some action := by
  rw [← Latest.get?_book, OrderedDict.get?_eq_some_iff, resourcesWithLatest,
    sortedNames, List.mem_insertionSort, List.mem_filterMap]
  constructor
  · rintro ⟨⟨other, found⟩, member, listed⟩
    split at listed
    · rename_i same
      cases same
      cases listed
      exact member
    · cases listed
  · intro member
    exact ⟨(resource, action), member, if_pos rfl⟩

omit [LinearOrder Ts] [LinearOrder Id] in
theorem lifecycleStatus_uncleared_iff
    (entries : List (OperationalEvent Ts Id)) :
    (lifecycleStatus entries ≠ .clearedByReboot ∧
        lifecycleStatus entries ≠ .clearedWithoutRuntimeState) ↔
      hasType entries .controlLifecycleClearedByReboot = false ∧
        hasType entries .controlLifecycleClearedWithoutRuntimeState = false := by
  unfold lifecycleStatus actionStatus
  cases hasType entries .controlLifecycleClearedByReboot
  · cases hasType entries .controlLifecycleClearedWithoutRuntimeState
    · split_ifs <;> simp_all
    · simp
  · simp

omit [LinearOrder Ts] [LinearOrder Id] in
theorem resourcesIn_lifecycleOf (protectionId : ProtectionId)
    (entries : List (OperationalEvent Ts Id)) (action : ControlAction) :
    (lifecycleOf protectionId entries).resourcesIn action =
      resourcesWithLatest entries action := by
  cases action <;> rfl

def ReadsBack (events : List (OperationalEvent Ts Id))
    (protectionId : ProtectionId) (resource : String)
    (action : ControlAction) : Prop :=
  ∃ lifecycle ∈ summarize events, lifecycle.protectionId = protectionId ∧
      resource ∈ lifecycle.resourcesIn action

theorem readsBack_iff {events : List (OperationalEvent Ts Id)}
    {protectionId : ProtectionId} {resource : String} {action : ControlAction} :
    ReadsBack events protectionId resource action ↔
      Latest.latest OperationalEvent.actionEntry
        (entriesFor events protectionId) resource = some action := by
  rw [← mem_resourcesWithLatest]
  constructor
  · rintro ⟨lifecycle, member, rfl, listed⟩
    rw [(mem_summarize.mp member).2, resourcesIn_lifecycleOf] at listed
    exact listed
  · intro listed
    refine ⟨lifecycleOf protectionId (entriesFor events protectionId),
      mem_summarize.mpr ⟨?_, rfl⟩, rfl, ?_⟩
    · have latest := mem_resourcesWithLatest.mp listed
      rw [Latest.latest_eq_bind, Option.bind_eq_some_iff] at latest
      obtain ⟨event, last, _⟩ := latest
      have member := List.mem_of_mem_filter (List.mem_of_getLast? last)
      exact ⟨event, mem_entriesFor.mp member⟩
    · rw [resourcesIn_lifecycleOf]
      exact listed

end Summarize

end SmarTune
