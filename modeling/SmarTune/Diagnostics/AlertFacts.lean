import SmarTune.Diagnostics.Alerts

/-!
# The facts that alerts are about

The journal detector, the services and the balancer report the facts that have
a policy, and the recoveries from them.  A fact is recorded as an event; an
event that the ledger has not seen yet is evaluated.
-/

namespace SmarTune

/-- What the detector knows of a journal record. -/
structure JournalRecord where
  /-- The cursor, or the time, the logger and the text. -/
  identity : String
  bootId : Option String
  deriving DecidableEq

/-- The services that report their own starts and crashes. -/
inductive ServiceName
  | monitor
  | balancer
  deriving DecidableEq

def ServiceName.source : ServiceName → String
  | .monitor => "monitor"
  | .balancer => "balancer"

/-- A reported fact. -/
inductive AlertFact
  | kernelPanic (record : JournalRecord)
  | gpuHang (record : JournalRecord)
  | oomKill (process pid : String) (record : JournalRecord)
  | restartLoop (unit : String) (count : ℕ) (record : JournalRecord)
  | serviceCrashed (service : ServiceName)
  | serviceStarted (service : ServiceName)
  /-- A control action on one resource. -/
  | limit (event : ControlEvent) (cgroups : List String)
      (resource : ControlResource)
  deriving DecidableEq

/-- What a fact is about. -/
inductive AlertSubject
  | host
  | process (name : String)
  | unit (name : String)
  | service (service : ServiceName)
  | protection (protectionId : ProtectionId)
  | app (appId : String)
  deriving DecidableEq

namespace AlertFact

def request (fact : AlertFact) (bootId : Option String) : EventRequest :=
  match fact with
  | .kernelPanic record =>
    { eventType := .platformKernelPanic
      severity := "critical"
      category := "platform.availability"
      summary := "Kernel panic recorded by the system journal"
      source := some "journal"
      attributes := { bootId := record.bootId }
      identity := some (.anchor record.identity) }
  | .gpuHang record =>
    { eventType := .deviceGpuHang
      severity := "error"
      category := "device.gpu"
      summary := "GPU hang recorded by the system journal"
      source := some "journal"
      resourceType := some "gpu"
      attributes := { bootId := record.bootId }
      identity := some (.anchor record.identity) }
  | .oomKill process pid record =>
    { eventType := .resourceMemoryOomKill
      severity := "error"
      category := "resource.memory"
      summary :=
        "Kernel OOM killed process " ++ process ++ " (pid " ++ pid ++ ")"
      source := some "journal"
      resourceType := some "memory"
      attributes := { bootId := record.bootId }
      identity := some (.anchor record.identity) }
  | .restartLoop unit count record =>
    { eventType := .platformSystemdRestartLoop
      severity := "error"
      category := "platform.availability"
      summary :=
        "Service " ++ unit ++ " restarted " ++ toString count ++ " times"
      source := some "journal"
      attributes := { bootId := record.bootId, unit := some unit }
      identity := some (.anchor record.identity) }
  | .serviceCrashed service =>
    { eventType := .platformServiceCrashed
      severity := "critical"
      category := "platform.availability"
      summary :=
        match service with
        | .monitor => "Monitor service crashed with uncaught exception"
        | .balancer => "Balancer service crashed with uncaught exception"
      source := some service.source }
  | .serviceStarted service =>
    { eventType := .platformServiceStarted
      severity := "info"
      category := "platform.availability"
      summary :=
        match service with
        | .monitor => "Monitor service started (API + Dashboard)"
        | .balancer => "SmarTune service started (API + Dashboard)"
      source := some service.source }
  | .limit event cgroups resource => event.request cgroups bootId resource

/-- What the fact is about: a limit with a protection id about that one. -/
def subject : AlertFact → AlertSubject
  | .kernelPanic _ | .gpuHang _ => .host
  | .oomKill process _ _ => .process process
  | .restartLoop unit _ _ => .unit unit
  | .serviceCrashed service | .serviceStarted service => .service service
  | .limit event _ _ =>
    match event.protectionId with
    | some protectionId => .protection protectionId
    | none => .app event.appId

def limitAction :
    AlertFact → Option (ControlAction × String × ControlResource)
  | .limit event _ resource => some (event.action, event.appId, resource)
  | _ => none

def loopingUnit : AlertFact → Option String
  | .restartLoop unit _ _ => some unit
  | _ => none

variable {Ts Id : Type*}

def event (fact : AlertFact) (bootId : Option String)
    (stamp : EventStamp Ts Id) : OperationalEvent Ts Id :=
  (fact.request bootId).row bootId stamp

def key (fact : AlertFact) : AlertKey :=
  dedupKeyFor (fact.event none (⟨(), (), 0⟩ : EventStamp Unit Unit))

def Alertable (fact : AlertFact) : Prop :=
  (alertPolicy fact.key.eventType).isSome = true

@[simp] theorem dedupKeyFor_event (fact : AlertFact) (bootId : Option String)
    (stamp : EventStamp Ts Id) :
    dedupKeyFor (fact.event bootId stamp) = fact.key := by
  cases fact <;> rfl

@[simp] theorem eventType_event (fact : AlertFact) (bootId : Option String)
    (stamp : EventStamp Ts Id) :
    (fact.event bootId stamp).eventType = fact.key.eventType :=
  congrArg AlertKey.eventType (fact.dedupKeyFor_event bootId stamp)

@[simp] theorem scopeFor_event (fact : AlertFact) (bootId : Option String)
    (stamp : EventStamp Ts Id) :
    scopeFor (fact.event bootId stamp) = fact.key.scope :=
  congrArg AlertKey.scope (fact.dedupKeyFor_event bootId stamp)

end AlertFact

/-- `emit_event`: the ledger and the alerts after it. -/
def emitEvent {Ts Id : Type*} [DecidableEq Ts] (epoch : Ts → Option ℚ)
    (bootId : Option String) (ledger : List (OperationalEvent Ts Id))
    (alerts : AlertDb Ts Id) (request : EventRequest) (stamp : EventStamp Ts Id)
    (now : ℤ) : List (OperationalEvent Ts Id) × AlertDb Ts Id :=
  match recordEvent bootId ledger request stamp with
  | (none, ledger) => (ledger, alerts)
  | (some event, ledger) => (ledger, (evaluate epoch alerts event now).2)

end SmarTune
