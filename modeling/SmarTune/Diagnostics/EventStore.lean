import SmarTune.Balancer.State
import SmarTune.Library.UniqueIndex

/-!
# The event ledger

Operational events and the table they are kept in.  A producer that may replay
a fact passes an identity; together with the source, the boot and the event
type it becomes the key of a partial unique index, and an event whose key is
taken is not stored.

Timestamps and event ids are only compared, so any ordered types stand for
them.  An event id is drawn at random and taken to be new.
-/

namespace SmarTune

/-- Normalized reason codes. -/
inductive EventType
  /-- `CONTROL_{resource}_LIMIT_{action}`. -/
  | controlLimit (resource : ControlResource) (action : ControlAction)
  | controlLifecycleRequiresVerification
  | controlLifecycleClearedByReboot
  | controlLifecycleClearedWithoutRuntimeState
  | platformKernelPanic
  | platformServiceCrashed
  | platformServiceStarted
  | platformSystemdRestartLoop
  | deviceGpuHang
  | resourceMemoryOomKill
  /-- `RESOURCE_MEMORY_RECLAIM_{action}`. -/
  | resourceMemoryReclaim (action : ControlAction)
  /-- Any other code, with the action its name ends in. -/
  | other (name : String) (suffix : Option ControlAction)
  deriving DecidableEq

/-- The action that a reason code ends in, `_APPLIED`, `_RECOVERED` or
`_FAILED`. -/
def EventType.suffix : EventType → Option ControlAction
  | .controlLimit _ action => some action
  | .resourceMemoryReclaim action => some action
  | .other _ suffix => suffix
  | _ => none

/-- `resource.lower()`. -/
def ControlResource.lower : ControlResource → String
  | .cpu => "cpu"
  | .memory => "memory"
  | .diskIo => "disk_io"

theorem ControlResource.lower_injective :
    Function.Injective ControlResource.lower := by
  intro first second same
  cases first <;> cases second <;> simp_all [lower]

/-- `resource.replace('_', ' ').title()`. -/
def ControlResource.title : ControlResource → String
  | .cpu => "Cpu"
  | .memory => "Memory"
  | .diskIo => "Disk Io"

/-- `action.lower()`. -/
def ControlAction.lower : ControlAction → String
  | .applied => "applied"
  | .recovered => "recovered"
  | .failed => "failed"

/-- The anchor of a fact that may be reported again. -/
inductive EventIdentity
  /-- `{protection_id}:{action}:{resource}`. -/
  | control (protectionId : Option ProtectionId) (action : ControlAction)
      (resource : ControlResource)
  | anchor (text : String)
  deriving DecidableEq

/-- `{source}:{boot_id}:{identity}:{event_type}`. -/
structure DedupKey where
  source : String
  bootId : Option String
  identity : EventIdentity
  eventType : EventType
  deriving DecidableEq

/-- The attributes that the read models and the alerts look at. -/
structure EventAttributes where
  bootId : Option String := none
  cgroups : List String := []
  unit : Option String := none
  deriving DecidableEq

/-- What the clocks and the random source give a new row. -/
structure EventStamp (Ts Id : Type*) where
  eventId : Id
  tsUtc : Ts
  /-- Epoch seconds at the insert. -/
  createTime : ℤ
  deriving DecidableEq

/-- `OperationalEvent`. -/
structure OperationalEvent (Ts Id : Type*) where
  eventId : Id
  tsUtc : Ts
  severity : String
  category : String
  eventType : EventType
  summary : String
  source : Option String
  service : Option String
  appId : Option String
  jobId : Option String
  resourceType : Option String
  protectionId : Option ProtectionId
  attributes : EventAttributes
  bootId : Option String
  dedupKey : Option DedupKey
  createTime : ℤ
  deriving DecidableEq

/-- The category of control events. -/
def platformControl : String := "platform.control"

/-- The arguments of `emit_event` and `record_event`. -/
structure EventRequest where
  eventType : EventType
  severity : String := "info"
  category : String := "service"
  summary : String
  source : Option String := none
  service : Option String := none
  appId : Option String := none
  jobId : Option String := none
  resourceType : Option String := none
  protectionId : Option ProtectionId := none
  attributes : EventAttributes := {}
  identity : Option EventIdentity := none

/-- The outcomes of an insert. -/
inductive DBStatus
  | success
  | alreadyExisting
  deriving DecidableEq

section EventStore

variable {Ts Id : Type*}

/-- `insert_event`. -/
def insertEvent (ledger : List (OperationalEvent Ts Id))
    (row : OperationalEvent Ts Id) :
    DBStatus × List (OperationalEvent Ts Id) :=
  if UniqueIndex.taken OperationalEvent.dedupKey ledger row then
    (.alreadyExisting, ledger)
  else (.success, ledger ++ [row])

/-- The row that `record_event` shapes. -/
def EventRequest.row (request : EventRequest) (bootId : Option String)
    (stamp : EventStamp Ts Id) : OperationalEvent Ts Id where
  eventId := stamp.eventId
  tsUtc := stamp.tsUtc
  severity := request.severity
  category := request.category
  eventType := request.eventType
  summary := request.summary
  source := request.source
  service := request.service
  appId := request.appId
  jobId := request.jobId
  resourceType := request.resourceType
  protectionId := request.protectionId
  attributes := request.attributes
  bootId := bootId
  dedupKey := request.identity.map fun identity =>
    ⟨request.source.getD "-", bootId, identity, request.eventType⟩
  createTime := stamp.createTime

/-- `record_event`, with the stored event. -/
def recordEvent (bootId : Option String)
    (ledger : List (OperationalEvent Ts Id)) (request : EventRequest)
    (stamp : EventStamp Ts Id) :
    Option (OperationalEvent Ts Id) × List (OperationalEvent Ts Id) :=
  let row := request.row bootId stamp
  match insertEvent ledger row with
  | (.alreadyExisting, ledger) => (none, ledger)
  | (.success, ledger) => (some row, ledger)

theorem recordEvent_ledger (bootId : Option String)
    (ledger : List (OperationalEvent Ts Id)) (request : EventRequest)
    (stamp : EventStamp Ts Id) :
    (recordEvent bootId ledger request stamp).2 =
      UniqueIndex.insert OperationalEvent.dedupKey ledger
        (request.row bootId stamp) := by
  unfold recordEvent insertEvent UniqueIndex.insert
  split_ifs with found <;> simp [found]

theorem recordEvent_of_anonymous {request : EventRequest}
    (anonymous : request.identity = none) (bootId : Option String)
    (ledger : List (OperationalEvent Ts Id)) (stamp : EventStamp Ts Id) :
    recordEvent bootId ledger request stamp =
      (some (request.row bootId stamp), ledger ++ [request.row bootId stamp]) := by
  simp [recordEvent, insertEvent, UniqueIndex.taken, EventRequest.row,
    anonymous]

end EventStore

/-! ## Control events -/

/-- The event that `record_control_action` emits for one resource. -/
def ControlEvent.request (event : ControlEvent) (cgroups : List String)
    (bootId : Option String) (resource : ControlResource) : EventRequest where
  eventType := .controlLimit resource event.action
  severity := if event.action = .failed then "error" else "info"
  category := platformControl
  summary := resource.title ++ " limit " ++ event.action.lower ++ " for " ++
    event.appName
  source := some "balancer"
  appId := some event.appId
  resourceType := some resource.lower
  protectionId := event.protectionId
  attributes := { bootId := bootId, cgroups := cgroups }
  identity := some (.control event.protectionId event.action resource)

/-- A call of `record_control_action`: what the balancer hands over, the scope
it names, and what the clocks give each event. -/
structure ControlCall (Ts Id : Type*) where
  event : ControlEvent
  cgroups : List String
  stamp : ControlResource → EventStamp Ts Id

namespace ControlCall

variable {Ts Id : Type*}

def request (call : ControlCall Ts Id) (bootId : Option String)
    (resource : ControlResource) : EventRequest :=
  call.event.request call.cgroups bootId resource

/-- The rows of a call, one per resource. -/
def rows (call : ControlCall Ts Id)
    (bootId : Option String) : List (OperationalEvent Ts Id) :=
  call.event.resources.map fun resource =>
    (call.request bootId resource).row bootId (call.stamp resource)

end ControlCall

/-- `record_control_action`. -/
def recordControlAction {Ts Id : Type*} (bootId : Option String)
    (ledger : List (OperationalEvent Ts Id))
    (call : ControlCall Ts Id) : List (OperationalEvent Ts Id) :=
  call.event.resources.foldl (fun ledger resource =>
      (recordEvent bootId ledger (call.request bootId resource)
        (call.stamp resource)).2)
    ledger

end SmarTune
