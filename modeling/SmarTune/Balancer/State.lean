import SmarTune.Balancer.Registry
import SmarTune.Controller.ControlManager

/-!
# The balancer's state

The service flag, the limit registry, the kernel settings and the control
events handed to diagnostics.  Status updates of the app table and messages to
the dashboard are not part of the state: no limit decision reads them.
-/

namespace SmarTune

/-- A completed limit action. -/
inductive ControlAction
  | applied
  | recovered
  | failed
  deriving DecidableEq, Repr

/-- The neutral resource vocabulary of the control ledger. -/
inductive ControlResource
  | cpu
  | memory
  | diskIo
  deriving DecidableEq, Repr

/-- `_control_resources`: the resources of a set of channels.  A capped
CPU/memory channel whose split names neither is attributed to both. -/
def controlResources (parts : LimitParts)
    (resourceParts : ResourceParts) : List ControlResource :=
  let neither := !(resourceParts.cpu || resourceParts.memory)
  (if parts.cpuMemLimited && (resourceParts.cpu || neither)
    then [.cpu] else []) ++
  (if parts.cpuMemLimited && (resourceParts.memory || neither)
    then [.memory] else []) ++
  (if parts.ioLimited then [.diskIo] else [])

/-- One control event handed to diagnostics. -/
structure ControlEvent where
  action : ControlAction
  appId : String
  appName : String
  protectionId : Option ProtectionId
  resources : List ControlResource
  controlMode : Source
  deriving DecidableEq

/-- The state the limit paths work on. -/
structure Balancer where
  isRunning : Bool
  allLimits : LimitRegistry
  kernel : Kernel
  events : List ControlEvent

namespace Balancer

/-- A service that has just started. -/
def initial : Balancer := ⟨true, .empty, .pristine, []⟩

def writes (balancer : Balancer) (writes : List KernelWrite) : Balancer :=
  { balancer with kernel := balancer.kernel.writeAll writes }

/-- Replace the entries of the registry. -/
def withApps (balancer : Balancer)
    (apps : OrderedDict CgroupId LimitedApp) : Balancer :=
  { balancer with allLimits := { balancer.allLimits with apps := apps } }

/-- `_emit_control_events`: record the action unless it names no resource. -/
def emit (balancer : Balancer) (action : ControlAction) (parts : LimitParts)
    (resourceParts : ResourceParts) (appId appName : String)
    (protectionId : Option ProtectionId) (controlMode : Source) : Balancer :=
  match controlResources parts resourceParts with
  | [] => balancer
  | resources => { balancer with events := balancer.events ++
      [{ action, appId, appName, protectionId, resources, controlMode }] }

section
variable (balancer : Balancer)

@[simp] theorem writes_allLimits (list : List KernelWrite) :
    (balancer.writes list).allLimits = balancer.allLimits := rfl

@[simp] theorem writes_kernel (list : List KernelWrite) :
    (balancer.writes list).kernel = balancer.kernel.writeAll list := rfl

@[simp] theorem writes_isRunning (list : List KernelWrite) :
    (balancer.writes list).isRunning = balancer.isRunning := rfl

@[simp] theorem withApps_apps (apps : OrderedDict CgroupId LimitedApp) :
    (balancer.withApps apps).allLimits.apps = apps := rfl

@[simp] theorem withApps_kernel (apps : OrderedDict CgroupId LimitedApp) :
    (balancer.withApps apps).kernel = balancer.kernel := rfl

@[simp] theorem withApps_isRunning (apps : OrderedDict CgroupId LimitedApp) :
    (balancer.withApps apps).isRunning = balancer.isRunning := rfl

variable (action : ControlAction) (parts : LimitParts)
  (resourceParts : ResourceParts) (appId appName : String)
  (protectionId : Option ProtectionId) (controlMode : Source)

@[simp] theorem emit_allLimits :
    (balancer.emit action parts resourceParts appId appName protectionId
      controlMode).allLimits = balancer.allLimits := by
  unfold emit
  split <;> rfl

@[simp] theorem emit_kernel :
    (balancer.emit action parts resourceParts appId appName protectionId
      controlMode).kernel = balancer.kernel := by
  unfold emit
  split <;> rfl

@[simp] theorem emit_isRunning :
    (balancer.emit action parts resourceParts appId appName protectionId
      controlMode).isRunning = balancer.isRunning := by
  unfold emit
  split <;> rfl

end

end Balancer

end SmarTune
