import SmarTune.Diagnostics.ControlLifecycle

/-!
# Completeness of the control ledger

What the balancer hands over within one boot against what the ledger keeps and
a summary reads back.  The identity of a control event names its protection,
its action and its resource, so the ledger is complete exactly when no action
on a resource comes twice under one protection and the last event of every
resource is stamped last.
-/

namespace SmarTune

section Completeness

variable {Ts Id : Type*}

def recordAll (bootId : Option String)
    (calls : List (ControlCall Ts Id)) : List (OperationalEvent Ts Id) :=
  calls.foldl (recordControlAction bootId) []

def recordedEvents (bootId : Option String)
    (calls : List (ControlCall Ts Id)) : List (OperationalEvent Ts Id) :=
  calls.flatMap fun call => call.rows bootId

def lastAction (events : List (OperationalEvent Ts Id))
    (protectionId : ProtectionId) (resource : String) : Option ControlAction :=
  Latest.latest OperationalEvent.actionEntry
    (events.filter fun event => event.protectionId = some protectionId) resource

/-- The event is an action on the resource under the protection. -/
def OperationalEvent.actsOn (protectionId : ProtectionId) (resource : String)
    (event : OperationalEvent Ts Id) : Bool :=
  (Latest.valueFor OperationalEvent.actionEntry resource event).isSome &&
    decide (event.protectionId = some protectionId)

def ControlCall.facts (call : ControlCall Ts Id) :
    List (Option ProtectionId × ControlAction × ControlResource) :=
  call.event.resources.map fun resource =>
    (call.event.protectionId, call.event.action, resource)

/-- No protection sees an action on a resource twice. -/
def NoActionRepeats (calls : List (ControlCall Ts Id)) : Prop :=
  (calls.flatMap ControlCall.facts).Nodup

instance (calls : List (ControlCall Ts Id)) : Decidable (NoActionRepeats calls) :=
  inferInstanceAs (Decidable (List.Nodup _))

/-! ## What is stored -/

theorem recordControlAction_eq (bootId : Option String)
    (ledger : List (OperationalEvent Ts Id)) (call : ControlCall Ts Id) :
    recordControlAction bootId ledger call =
      UniqueIndex.insertAll OperationalEvent.dedupKey ledger
        (call.rows bootId) := by
  simp only [recordControlAction, recordEvent_ledger, ControlCall.rows,
    UniqueIndex.insertAll, List.foldl_map]

theorem recordAll_eq (bootId : Option String)
    (calls : List (ControlCall Ts Id)) :
    recordAll bootId calls = UniqueIndex.insertAll OperationalEvent.dedupKey []
        (recordedEvents bootId calls) := by
  unfold recordAll recordedEvents
  generalize ([] : List (OperationalEvent Ts Id)) = ledger
  induction calls generalizing ledger with
  | nil => rfl
  | cons call calls ih =>
    rw [List.foldl_cons, ih, recordControlAction_eq, List.flatMap_cons]
    simp only [UniqueIndex.insertAll, List.foldl_append]

/-- The key that the ledger builds from a fact. -/
def factKey (bootId : Option String)
    (fact : Option ProtectionId × ControlAction × ControlResource) : DedupKey :=
  ⟨"balancer", bootId, .control fact.1 fact.2.1 fact.2.2,
    .controlLimit fact.2.2 fact.2.1⟩

theorem factKey_injective (bootId : Option String) :
    Function.Injective (factKey bootId) := by
  rintro ⟨protectionId, action, resource⟩ ⟨otherId, otherAction, otherResource⟩
    same
  simp only [factKey, DedupKey.mk.injEq, EventIdentity.control.injEq] at same
  simp [same]

theorem map_dedupKey_recordedEvents (bootId : Option String)
    (calls : List (ControlCall Ts Id)) :
    (recordedEvents bootId calls).map (·.dedupKey) =
      (calls.flatMap ControlCall.facts).map fun fact =>
        some (factKey bootId fact) := by
  simp only [recordedEvents, List.map_flatMap]
  congr 1
  funext call
  simp only [ControlCall.rows, ControlCall.facts, List.map_map]
  rfl

theorem nodup_dedupKey_iff (bootId : Option String)
    (calls : List (ControlCall Ts Id)) :
    ((recordedEvents bootId calls).map (·.dedupKey)).Nodup ↔
      NoActionRepeats calls := by
  rw [map_dedupKey_recordedEvents]
  apply List.nodup_map_iff
  intro first second same
  exact factKey_injective bootId (Option.some.inj same)

variable {bootId : Option String} {calls : List (ControlCall Ts Id)}
  {event : OperationalEvent Ts Id}

theorem mem_recordedEvents :
    event ∈ recordedEvents bootId calls ↔
      ∃ call ∈ calls, ∃ resource ∈ call.event.resources,
        (call.request bootId resource).row bootId (call.stamp resource) =
          event := by
  simp [recordedEvents, ControlCall.rows]

theorem isSome_dedupKey (member : event ∈ recordedEvents bootId calls) :
    event.dedupKey.isSome = true := by
  obtain ⟨_, _, _, _, rfl⟩ := mem_recordedEvents.mp member
  rfl

theorem dedupKey_eq_of_actionEntry_eq {first second : OperationalEvent Ts Id}
    (firstMember : first ∈ recordedEvents bootId calls)
    (secondMember : second ∈ recordedEvents bootId calls)
    (sameId : first.protectionId = second.protectionId)
    (sameAction : first.actionEntry = second.actionEntry) :
    first.dedupKey = second.dedupKey := by
  obtain ⟨call, _, resource, _, rfl⟩ := mem_recordedEvents.mp firstMember
  obtain ⟨other, _, otherResource, _, rfl⟩ :=
    mem_recordedEvents.mp secondMember
  have id : call.event.protectionId = other.event.protectionId := sameId
  have entry : (resource.lower, call.event.action) =
      (otherResource.lower, other.event.action) := Option.some.inj sameAction
  obtain ⟨lower, action⟩ := Prod.mk.inj entry
  have same := ControlResource.lower_injective lower
  simp [EventRequest.row, ControlCall.request, ControlEvent.request, id, action,
    same]

theorem recordAll_eq_recordedEvents_iff (bootId : Option String)
    (calls : List (ControlCall Ts Id)) :
    recordAll bootId calls = recordedEvents bootId calls ↔
      NoActionRepeats calls := by
  rw [recordAll_eq, ← nodup_dedupKey_iff bootId]
  refine UniqueIndex.insertAll_eq_append_iff.trans ?_
  rw [List.Nodup, List.pairwise_map]
  constructor
  · rintro ⟨_, apart⟩
    exact apart.imp_of_mem fun _ member distinct =>
      distinct (isSome_dedupKey member)
  · intro distinct
    refine ⟨fun _ _ _ member => absurd member List.not_mem_nil, ?_⟩
    apply distinct.imp
    intro first second different _
    exact different

/-! ## What a summary reads back -/

/-- Every call is persisted, and a summary reads back the last action on every
resource. -/
def LedgerComplete [LinearOrder Ts] [LinearOrder Id] (bootId : Option String)
    (calls : List (ControlCall Ts Id)) : Prop :=
  recordAll bootId calls = recordedEvents bootId calls ∧
    ∀ protectionId resource action,
      ReadsBack (recordAll bootId calls) protectionId resource action ↔
        lastAction (recordedEvents bootId calls) protectionId resource =
          some action

/-- The event recorded last for a resource of a protection has the latest
timestamp, and among equal ones the greatest id. -/
def LastIsLatest [LinearOrder Ts] [LinearOrder Id]
    (events : List (OperationalEvent Ts Id)) : Prop :=
  ∀ protectionId resource, ∀ last ∈ (events.filter
        (OperationalEvent.actsOn protectionId resource)).getLast?,
      ∀ event ∈ events.filter (OperationalEvent.actsOn protectionId resource),
        event.order ≤ last.order

theorem filter_actsOn (events : List (OperationalEvent Ts Id))
    (protectionId : ProtectionId) (resource : String) :
    events.filter (OperationalEvent.actsOn protectionId resource) =
      (events.filter fun event =>
        event.protectionId = some protectionId).filter fun event =>
          (Latest.valueFor OperationalEvent.actionEntry resource event).isSome := by
  rw [List.filter_filter]
  rfl

section Order

variable [LinearOrder Ts] [LinearOrder Id]
  {events : List (OperationalEvent Ts Id)}
  {protectionId : ProtectionId} {resource : String}

theorem latest_entriesFor_of_lastIsLatest (distinct : events.Nodup)
    (ordered : LastIsLatest events) :
    Latest.latest OperationalEvent.actionEntry
        (entriesFor events protectionId) resource =
      lastAction events protectionId resource := by
  unfold lastAction entriesFor
  rw [Latest.latest_eq_bind, Latest.latest_eq_bind, ← filter_actsOn]
  cases found : (events.filter
      (OperationalEvent.actsOn protectionId resource)).getLast? with
  | none =>
    rw [filter_actsOn, List.getLast?_eq_none_iff,
      List.filter_eq_nil_iff] at found
    have nothing : (Latest.chronological OperationalEvent.order
        (events.filter fun event =>
          event.protectionId = some protectionId)).filter (fun event =>
        (Latest.valueFor OperationalEvent.actionEntry resource
          event).isSome) = [] := by
      rw [List.filter_eq_nil_iff]
      intro event member
      exact found event ((Latest.mem_chronological _).mp member)
    rw [nothing]
    rfl
  | some last =>
    have latest := ordered protectionId resource last found
    rw [filter_actsOn] at found latest
    rw [Latest.getLast?_chronological (distinct.filter _) found latest]

theorem lastIsLatest_of_latest_entriesFor
    (same : ∀ first ∈ events, ∀ second ∈ events,
      first.protectionId = second.protectionId →
        first.actionEntry = second.actionEntry → first = second)
    (reads : ∀ protectionId resource, Latest.latest OperationalEvent.actionEntry
          (entriesFor events protectionId) resource =
        lastAction events protectionId resource) :
    LastIsLatest events := by
  intro protectionId resource last found event member
  have latest := reads protectionId resource
  unfold lastAction entriesFor at latest
  rw [Latest.latest_eq_bind, Latest.latest_eq_bind, ← filter_actsOn, found]
    at latest
  have lastMember := List.mem_of_getLast? found
  rw [filter_actsOn] at lastMember member
  have lastValue := (List.mem_filter.mp lastMember).2
  obtain ⟨action, value⟩ := Option.isSome_iff_exists.mp lastValue
  rw [Option.bind_some, value, Option.bind_eq_some_iff] at latest
  obtain ⟨final, finalLast, finalValue⟩ := latest
  have finalMember := (Latest.mem_chronological _).mp
    (List.mem_of_mem_filter (List.mem_of_getLast? finalLast))
  have lastNamed := List.mem_filter.mp (List.mem_of_mem_filter lastMember)
  have finalNamed := List.mem_filter.mp finalMember
  have equal : final = last := by
    apply same final finalNamed.1 last lastNamed.1
    · rw [of_decide_eq_true finalNamed.2, of_decide_eq_true lastNamed.2]
    · rw [Latest.valueFor_eq_some_iff.mp finalValue,
        Latest.valueFor_eq_some_iff.mp value]
  rw [equal] at finalLast
  exact Latest.noLater_of_getLast? finalLast member

end Order

/-- The ledger of a boot is complete exactly when no protection sees an action
on a resource twice and the last event of every resource is the latest one. -/
theorem ledger_complete_iff [LinearOrder Ts] [LinearOrder Id]
    (bootId : Option String) (calls : List (ControlCall Ts Id)) :
    LedgerComplete bootId calls ↔
      NoActionRepeats calls ∧ LastIsLatest (recordedEvents bootId calls) := by
  have keys := nodup_dedupKey_iff bootId calls
  constructor
  · rintro ⟨persisted, reads⟩
    have distinct := (recordAll_eq_recordedEvents_iff bootId calls).mp persisted
    refine ⟨distinct, lastIsLatest_of_latest_entriesFor ?_ ?_⟩
    · intro first firstMember second secondMember sameId sameAction
      exact List.inj_on_of_nodup_map (keys.mpr distinct) firstMember
        secondMember
        (dedupKey_eq_of_actionEntry_eq firstMember secondMember sameId
          sameAction)
    · intro protectionId resource
      rw [persisted] at reads
      apply Option.ext
      intro action
      rw [← reads, readsBack_iff]
  · rintro ⟨distinct, ordered⟩
    have persisted :=
      (recordAll_eq_recordedEvents_iff bootId calls).mpr distinct
    refine ⟨persisted, ?_⟩
    intro protectionId resource action
    rw [persisted, readsBack_iff, latest_entriesFor_of_lastIsLatest
      (List.Nodup.of_map _ (keys.mpr distinct)) ordered]

/-! ## A limit that is applied again -/

/-- A lifecycle of one CPU limit: applied, recovered, applied, recovered. -/
def reappliedLimit (actions : List ControlAction) : List (ControlCall ℕ ℕ) :=
  actions.zipIdx.map fun entry =>
    { event :=
        { action := entry.1
          appId := "app"
          appName := "App"
          protectionId := some ⟨.auto, "app", "app.scope", 0⟩
          resources := [.cpu]
          controlMode := .auto }
      cgroups := ["app.scope"]
      stamp := fun _ => ⟨entry.2, entry.2, entry.2⟩ }

/-- The second APPLIED is not stored, and the live limit reads as recovered. -/
theorem reapplied_limit_is_lost :
    ¬ LedgerComplete (some "boot")
      (reappliedLimit [.applied, .recovered, .applied]) ∧
    Latest.latest OperationalEvent.actionEntry
      (entriesFor (recordAll (some "boot")
        (reappliedLimit [.applied, .recovered, .applied]))
        ⟨.auto, "app", "app.scope", 0⟩) "cpu" = some .recovered := by
  refine ⟨fun complete => absurd complete.1 ?_, ?_⟩
  · decide
  · decide

end Completeness

end SmarTune
