import SmarTune.Diagnostics.ControlLifecycle
import SmarTune.Library.IsoTime

/-!
# The order of control events

The ledger stamps an event with the text of the local time, and a summary sorts
by that text.  The text begins with what the local clock reads, so the latest
action of a resource is the one whose clock reads last; it is the last one in
time exactly when no action is overtaken by the reading of an earlier one.
-/

namespace SmarTune

open IsoTime

/-- `now_iso`. -/
def nowIso (time : AwareTime) : String :=
  time.isoformat .milliseconds

namespace OperationalEvent

variable {Id : Type*}

/-- The event as the ledger keeps it. -/
def stored
    (event : OperationalEvent AwareTime Id) : OperationalEvent String Id where
  eventId := event.eventId
  tsUtc := nowIso event.tsUtc
  severity := event.severity
  category := event.category
  eventType := event.eventType
  summary := event.summary
  source := event.source
  service := event.service
  appId := event.appId
  jobId := event.jobId
  resourceType := event.resourceType
  protectionId := event.protectionId
  attributes := event.attributes
  bootId := event.bootId
  dedupKey := event.dedupKey
  createTime := event.createTime

/-- The instant that the timestamp of an event denotes. -/
def instant (event : OperationalEvent AwareTime Id) : ℤ :=
  event.tsUtc.instant .milliseconds

/-- What the local clock reads at an event, then the offset, then the id. -/
def clockOrder (event : OperationalEvent AwareTime Id) : ℕ ×ₗ ℕ ×ₗ Id :=
  toLex (event.tsUtc.reading .milliseconds,
    toLex (event.tsUtc.utcoffset.rank, event.eventId))

theorem order_stored_lt_iff [LinearOrder Id]
    (first second : OperationalEvent AwareTime Id) :
    first.stored.order < second.stored.order ↔
      first.clockOrder < second.clockOrder := by
  have forward := AwareTime.isoformat_milliseconds_lt_iff first.tsUtc second.tsUtc
  have backward := AwareTime.isoformat_milliseconds_lt_iff second.tsUtc first.tsUtc
  have same : nowIso first.tsUtc = nowIso second.tsUtc ↔
      ¬nowIso first.tsUtc < nowIso second.tsUtc ∧
        ¬nowIso second.tsUtc < nowIso first.tsUtc := by
    rw [not_lt, not_lt, and_comm]
    exact le_antisymm_iff
  simp only [order, stored, clockOrder, Prod.Lex.toLex_lt_toLex, same]
  unfold nowIso
  rw [forward, backward]
  grind

end OperationalEvent

section LifecycleOrder

variable {Id : Type*} (recorded : List (OperationalEvent AwareTime Id))
  (protectionId : ProtectionId)

def recordedFor : List (OperationalEvent AwareTime Id) :=
  recorded.filter fun event => event.protectionId = some protectionId

/-- The action of the chronologically last event of a resource; events of one
instant are taken as they were recorded. -/
def chronologicalAction (resource : String) : Option ControlAction :=
  Latest.latest OperationalEvent.actionEntry
    (Latest.chronological OperationalEvent.instant
      (recordedFor recorded protectionId)) resource

/-- Every event with another action than the chronologically last one is
surpassed on the clock by an event with that action. -/
def ClockAgrees [LinearOrder Id] : Prop :=
  ∀ resource action,
    chronologicalAction recorded protectionId resource = some action →
      ∀ other ∈ recordedFor recorded protectionId, ∀ different,
        other.actionEntry = some (resource, different) → different ≠ action →
          ∃ event ∈ recordedFor recorded protectionId,
            event.actionEntry = some (resource, action) ∧
              other.clockOrder < event.clockOrder

variable {recorded} {protectionId}

variable {events : List (OperationalEvent String Id)} {resource : String}

theorem filter_perm_recordedFor
    (handed : events.Perm (recorded.map OperationalEvent.stored)) :
    (events.filter fun event => event.protectionId = some protectionId).Perm
      ((recordedFor recorded protectionId).map OperationalEvent.stored) := by
  have kept := handed.filter fun event =>
    decide (event.protectionId = some protectionId)
  rwa [List.filter_map] at kept

theorem latest_entriesFor_iff [LinearOrder Id]
    (distinct : (recorded.map (·.eventId)).Nodup)
    {events : List (OperationalEvent String Id)}
    (handed : events.Perm (recorded.map OperationalEvent.stored))
    {resource : String} {action : ControlAction}
    (found : ∃ event ∈ recordedFor recorded protectionId,
      event.actionEntry = some (resource, action)) :
    Latest.latest OperationalEvent.actionEntry
        (entriesFor events protectionId) resource = some action ↔
      ∀ other ∈ recordedFor recorded protectionId, ∀ different,
        other.actionEntry = some (resource, different) → different ≠ action →
          ∃ event ∈ recordedFor recorded protectionId,
            event.actionEntry = some (resource, action) ∧
              other.clockOrder < event.clockOrder := by
  have members : ∀ event, event ∈ events.filter (fun event =>
      event.protectionId = some protectionId) ↔
        ∃ source ∈ recordedFor recorded protectionId, source.stored = event := by
    intro event
    rw [(filter_perm_recordedFor handed).mem_iff, List.mem_map]
  have apart : ∀ first ∈ events.filter (fun event =>
        event.protectionId = some protectionId),
      ∀ second ∈ events.filter (fun event =>
        event.protectionId = some protectionId),
      first.order = second.order → first = second := by
    intro first firstMember second secondMember same
    obtain ⟨source, kept, rfl⟩ := (members first).mp firstMember
    obtain ⟨target, targetKept, rfl⟩ := (members second).mp secondMember
    have sameId : source.eventId = target.eventId := (Prod.mk.inj same).2
    rw [List.inj_on_of_nodup_map distinct (List.mem_of_mem_filter kept)
      (List.mem_of_mem_filter targetKept) sameId]
  have present : ∃ event ∈ events.filter (fun event =>
      event.protectionId = some protectionId),
      event.actionEntry = some (resource, action) := by
    obtain ⟨source, kept, acts⟩ := found
    exact ⟨source.stored, (members _).mpr ⟨source, kept, rfl⟩, acts⟩
  rw [entriesFor, Latest.latest_chronological_iff present apart]
  constructor
  · intro above other kept different acts notSame
    obtain ⟨event, member, eventActs, later⟩ := above other.stored
      ((members _).mpr ⟨other, kept, rfl⟩) different acts notSame
    obtain ⟨source, sourceKept, rfl⟩ := (members event).mp member
    exact ⟨source, sourceKept, eventActs,
      (OperationalEvent.order_stored_lt_iff other source).mp later⟩
  · intro above other member different acts notSame
    obtain ⟨source, kept, rfl⟩ := (members other).mp member
    obtain ⟨event, eventKept, eventActs, later⟩ :=
      above source kept different acts notSame
    exact ⟨event.stored, (members _).mpr ⟨event, eventKept, rfl⟩, eventActs,
      (OperationalEvent.order_stored_lt_iff source event).mpr later⟩

theorem exists_of_chronologicalAction {action : ControlAction}
    (last : chronologicalAction recorded protectionId resource = some action) :
    ∃ event ∈ recordedFor recorded protectionId,
      event.actionEntry = some (resource, action) := by
  obtain ⟨event, member, acts⟩ := Latest.exists_of_latest last
  exact ⟨event, (Latest.mem_chronological _).mp member, acts⟩

theorem latest_entriesFor_of_none [LinearOrder Id]
    (handed : events.Perm (recorded.map OperationalEvent.stored))
    (nothing : chronologicalAction recorded protectionId resource = none) :
    Latest.latest OperationalEvent.actionEntry
      (entriesFor events protectionId) resource = none := by
  rw [chronologicalAction, Latest.latest_eq_none_iff] at nothing
  rw [Latest.latest_eq_none_iff]
  intro event member
  rw [entriesFor, Latest.mem_chronological,
    (filter_perm_recordedFor handed).mem_iff, List.mem_map] at member
  obtain ⟨source, kept, rfl⟩ := member
  exact nothing source ((Latest.mem_chronological _).mpr kept)

variable (recorded) (protectionId) in
/-- A summary of the events gives every resource its chronologically last
action. -/
def ReadsLastAction [LinearOrder Id]
    (events : List (OperationalEvent String Id)) : Prop :=
  ∀ resource action, ReadsBack events protectionId resource action ↔
      chronologicalAction recorded protectionId resource = some action

/-- A summary gives every resource its chronologically last action exactly when
the clocks agree on what came last. -/
theorem readsLastAction_iff [LinearOrder Id]
    (distinct : (recorded.map (·.eventId)).Nodup)
    {events : List (OperationalEvent String Id)}
    (handed : events.Perm (recorded.map OperationalEvent.stored)) :
    ReadsLastAction recorded protectionId events ↔
      ClockAgrees recorded protectionId := by
  simp only [ReadsLastAction, readsBack_iff]
  constructor
  · intro agrees resource action last
    exact (latest_entriesFor_iff distinct handed
      (exists_of_chronologicalAction last)).mp ((agrees resource action).mpr last)
  · intro agrees resource action
    suffices same : Latest.latest OperationalEvent.actionEntry
        (entriesFor events protectionId) resource =
          chronologicalAction recorded protectionId resource by
      rw [same]
    cases last : chronologicalAction recorded protectionId resource with
    | none => exact latest_entriesFor_of_none handed last
    | some action =>
      exact (latest_entriesFor_iff distinct handed
        (exists_of_chronologicalAction last)).mpr (agrees resource action last)

end LifecycleOrder

/-! ## A limit that is lifted at night -/

def nightLimit : ProtectionId := ⟨.auto, "app", "app.scope", 0⟩

def memoryEvent (action : ControlAction) (eventId : String)
    (tsUtc : AwareTime) : OperationalEvent AwareTime String :=
  EventRequest.row (ControlEvent.request
      { action := action
        appId := "app"
        appName := "App"
        protectionId := some nightLimit
        resources := [.memory]
        controlMode := .auto }
      ["app.scope"] none .memory)
    none ⟨eventId, tsUtc, 0⟩

def lastOfSummer : AwareTime :=
  (AwareTime.ofFields? 2026 10 25 2 59 59 0 7200).get (by decide)

/-- Half a second after the clock was set back. -/
def firstOfWinter : AwareTime :=
  (AwareTime.ofFields? 2026 10 25 2 0 0 500000 3600).get (by decide)

/-- A limit is lifted just after the clock was set back. -/
def liftedAtFallBack : List (OperationalEvent AwareTime String) :=
  [memoryEvent .applied "000000000001" lastOfSummer,
    memoryEvent .recovered "000000000002" firstOfWinter]

/-- A limit is lifted in the millisecond in which it was set. -/
def liftedAtOnce : List (OperationalEvent AwareTime String) :=
  [memoryEvent .applied "000000000002" lastOfSummer,
    memoryEvent .recovered "000000000001" lastOfSummer]

theorem readsLastAction_liftedAtFallBack_iff :
    ReadsLastAction liftedAtFallBack nightLimit
        (liftedAtFallBack.reverse.map OperationalEvent.stored) ↔
      ClockAgrees liftedAtFallBack nightLimit :=
  readsLastAction_iff (by decide)
    ((List.reverse_perm liftedAtFallBack).map OperationalEvent.stored)

/-- The lifted limits read as applied: the clock was set back, or the event ids
are not in the order of the events. -/
theorem lifted_limit_reads_as_applied :
    ¬ReadsLastAction liftedAtFallBack nightLimit
        (liftedAtFallBack.map OperationalEvent.stored) ∧
      ¬ReadsLastAction liftedAtOnce nightLimit
        (liftedAtOnce.map OperationalEvent.stored) := by
  constructor
  · intro reads
    have listed := (reads "memory" .recovered).mpr (by decide)
    rw [readsBack_iff] at listed
    exact absurd listed (by decide)
  · intro reads
    have listed := (reads "memory" .recovered).mpr (by decide)
    rw [readsBack_iff] at listed
    exact absurd listed (by decide)

end SmarTune
