import SmarTune.Balancer.Registry
import SmarTune.Library.IdPool
import SmarTune.Network.Shaping
import Mathlib.Data.String.Basic

/-!
# The network controller and the rules of the apps

What `NetworkController` remembers about apps, marks, caps and receive
escalation, beside what it has put into the kernel: tc filters, the OUTPUT
chain of the mangle table, and the files of the receive path.  The kernel takes
every tc and iptables command.

Every app under control has one mark, set by an iptables rule for each of its
cgroups, and on every NIC one filter in each direction that sends its packets
to its class.  `update_app_network_control` brings the rules in line with the
apps of the moment.
-/

namespace SmarTune

/-! ## The kernel -/

/-- What a u32 filter matches. -/
inductive FilterMatch
  | mark (mark : Nat)
  | dport (port : Nat)
  | sport (port : Nat)
  deriving DecidableEq, Repr

/-- A tc filter. -/
structure TcFilter where
  prio : Nat
  matching : FilterMatch
  flowid : ClassId
  /-- The packet rate and burst of a police action. -/
  police : Option (Int × Int)
  deriving DecidableEq, Repr

/-- Where filters hang: a device and the handle of their parent. -/
abbrev FilterParent : Type := String × Nat

abbrev TcFilters : Type := FilterParent → List TcFilter

namespace TcFilters

variable (filters : TcFilters) (parent : FilterParent)

/-- `tc filter add`. -/
def add (filter : TcFilter) : TcFilters :=
  Function.update filters parent (filters parent ++ [filter])

/-- `tc filter del ... prio`. -/
def deletePrio (prio : Nat) : TcFilters :=
  Function.update filters parent
    ((filters parent).filter fun filter => filter.prio ≠ prio)

/-- The filters of one priority. -/
def atPrio (prio : Nat) : List TcFilter :=
  (filters parent).filter fun filter => filter.prio = prio

theorem atPrio_add (filter : TcFilter) (elsewhere : FilterParent) (prio : Nat) :
    (filters.add parent filter).atPrio elsewhere prio =
      if elsewhere = parent ∧ filter.prio = prio then
        filters.atPrio elsewhere prio ++ [filter]
      else filters.atPrio elsewhere prio := by
  by_cases here : elsewhere = parent
  · subst here
    by_cases same : filter.prio = prio <;> simp [atPrio, add, same]
  · simp [atPrio, add, here]

end TcFilters

/-- A rule of the OUTPUT chain of the mangle table. -/
inductive IptablesRule
  | setMark (cgroupPath : String) (mark : Nat)
  | saveMark
  deriving DecidableEq, Repr

/-- A file of the receive path. -/
inductive RxFile
  | rpsCpus (dev : String) (queue : Nat)
  | netdevMaxBacklog
  | netdevBudget
  deriving DecidableEq, Repr

/-! ## What the controller remembers -/

/-- Where an app's filters were installed on a NIC. -/
structure FilterPlace where
  handleId : Nat
  prioEgress : Nat
  prioIfb : Nat
  deriving DecidableEq, Repr

/-- An entry of `nics`. -/
structure NicRule where
  ifbDev : String
  /-- `None` for an app of the system tier. -/
  place : Option FilterPlace
  classidEgress : ClassId
  classidIfb : ClassId
  deriving DecidableEq, Repr

/-- An entry of `app_filter_info`. -/
structure AppFilterInfo where
  mark : Option Nat
  cgroupPaths : Finset String
  priority : NetworkTier
  nics : List (String × NicRule)

/-- A cap of `app_pps_caps`. -/
structure PpsCap where
  prio : Nat
  handleId : Nat
  deriving DecidableEq, Repr

/-- An entry of `_rx_escalation_state`. -/
structure RxEscalation where
  rps : OrderedDict RxFile String
  sysctl : OrderedDict RxFile String
  active : Bool

/-- `NetworkController`, and what it has put into the kernel. -/
structure NetworkController where
  markPool : Finset Nat
  appMarkMap : OrderedDict String Nat
  appFilterInfo : OrderedDict String AppFilterInfo
  /-- `app_pps_caps`: app, then device. -/
  appPpsCaps : OrderedDict String (OrderedDict String PpsCap)
  rxEscalationState : OrderedDict String RxEscalation
  classes : HtbClasses
  filters : TcFilters
  iptables : List IptablesRule
  files : RxFile → String

namespace NetworkController

/-- The marks of a new pool. -/
def freshMarks : Finset Nat := Finset.Ico 0x1000 0x2000

/-- A new controller. -/
def init (classes : HtbClasses) (filters : TcFilters)
    (iptables : List IptablesRule)
    (files : RxFile → String) : NetworkController :=
  ⟨freshMarks, .empty, .empty, .empty, .empty, classes, filters, iptables,
    files⟩

end NetworkController

/-- An app of `get_controlled_apps_net`, apart from its id. -/
structure NetworkApp where
  networkPriority : Option String
  priority : Option String
  cgroupPaths : List String

namespace NetworkApp

variable (app : NetworkApp)

/-- The tier of an app. -/
def tier : NetworkTier :=
  match app.networkPriority with
  | some priority =>
    if priority ≠ "" then normalizeNetPriority priority
    else normalizeNetPriority (app.priority.getD "low")
  | none => normalizeNetPriority (app.priority.getD "low")

/-- The cgroups of an app, stripped and without repetition. -/
def paths : Finset String :=
  ((app.cgroupPaths.map strip).filter (· ≠ "")).toFinset

end NetworkApp

/-- The cgroups of an app, in the order in which their rules are written. -/
def sortedPaths (paths : Finset String) : List String := paths.sort

namespace NetworkController

variable (controller : NetworkController)

/-! ## Caps and marks -/

/-- The parent of the filters of a cap or of an app's egress side. -/
def capParent (dev : String) (cap : PpsCap) : FilterParent :=
  (dev, cap.handleId)

/-- `_clear_app_pps_cap` for one app. -/
def clearCapsOf (controller : NetworkController)
    (appId : String) : NetworkController :=
  let caps := ((controller.appPpsCaps.get? appId).getD .empty).entries
  { controller with
    filters := caps.foldl (fun filters entry =>
      filters.deletePrio (capParent entry.1 entry.2) entry.2.prio)
        controller.filters
    appPpsCaps := controller.appPpsCaps.erase appId }

/-- `_clear_app_pps_cap`; an empty id stands for every app. -/
def clearAppPpsCap (appId : Option String) : NetworkController :=
  match appId with
  | some appId =>
    if appId ≠ "" then controller.clearCapsOf appId
    else controller.appPpsCaps.keys.foldl clearCapsOf controller
  | none => controller.appPpsCaps.keys.foldl clearCapsOf controller

theorem exists_clearAppPpsCap_eq (appId : Option String) :
    ∃ filters caps, controller.clearAppPpsCap appId =
      { controller with filters := filters, appPpsCaps := caps } := by
  have all : ∀ apps : List String, ∃ filters caps,
      apps.foldl clearCapsOf controller =
        { controller with filters := filters, appPpsCaps := caps } := by
    intro apps
    refine List.foldlRecOn apps clearCapsOf
      (motive := fun after : NetworkController => ∃ filters caps, after =
        { controller with filters := filters, appPpsCaps := caps })
      ⟨_, _, rfl⟩ ?_
    rintro _ ⟨filters, caps, rfl⟩ appId -
    exact ⟨_, _, rfl⟩
  unfold clearAppPpsCap
  split
  · split
    · exact ⟨_, _, rfl⟩
    · exact all _
  · exact all _

/-- The mark of `_allocate_mark`; `choice` is what `set.pop` returns. -/
def nextMark (choice : IdChoice) : Nat :=
  if controller.markPool ≠ ∅ then choice.pick controller.markPool
  else 0x2000 + controller.appMarkMap.entries.length

/-! ## One app -/

/-- An entry of `nics` for an app with a mark. -/
def nicRule (shaper : NicShaper) (tier : NetworkTier) (index : Nat) :
    NicRule where
  ifbDev := shaper.ifbDev
  place := some ⟨shaper.handleId, 10 + index, 21 + index⟩
  classidEgress := shaper.classid .egress tier
  classidIfb := shaper.classid .ingress tier

/-- An entry of `nics` for an app of the system tier. -/
def systemNicRule (shaper : NicShaper) : NicRule where
  ifbDev := shaper.ifbDev
  place := none
  classidEgress := shaper.classid .egress .system
  classidIfb := shaper.classid .ingress .system

/-- The filter that sends the packets of a mark to a class. -/
def markFilter (mark prio : Nat) (flowid : ClassId) : TcFilter :=
  ⟨prio, .mark mark, flowid, none⟩

def addMarkFilters (mark index : Nat) (tier : NetworkTier) (filters : TcFilters)
    (shaper : NicShaper) : TcFilters :=
  (filters.add (shaper.dev, shaper.handleId)
      (markFilter mark (10 + index) (shaper.classid .egress tier))).add
    (shaper.ifbDev, shaper.handleId + 1)
      (markFilter mark (21 + index) (shaper.classid .ingress tier))

/-- `_add_app_network_rules`. -/
def addAppNetworkRules (shapers : List NicShaper) (choice : IdChoice)
    (appId : String) (app : NetworkApp) (index : Nat) : NetworkController :=
  if app.tier = .system then
    { controller with
      appFilterInfo := controller.appFilterInfo.set appId
        { mark := none
          cgroupPaths := app.paths
          priority := app.tier
          nics := shapers.map fun shaper => (shaper.dev, systemNicRule shaper) } }
  else
    let mark := controller.nextMark choice
    { controller with
      markPool := controller.markPool.erase mark
      appMarkMap := controller.appMarkMap.set appId mark
      iptables := controller.iptables ++
        (sortedPaths app.paths).map fun path => .setMark path mark
      filters := shapers.foldl (addMarkFilters mark index app.tier)
        controller.filters
      appFilterInfo := controller.appFilterInfo.set appId
        { mark := some mark
          cgroupPaths := app.paths
          priority := app.tier
          nics := shapers.map fun shaper =>
            (shaper.dev, nicRule shaper app.tier index) } }

/-- The filters of an entry of `nics` are deleted by priority. -/
def deletePlace (filters : TcFilters) (entry : String × NicRule) : TcFilters :=
  match entry.2.place with
  | none => filters
  | some place =>
    (filters.deletePrio (entry.1, place.handleId) place.prioEgress).deletePrio
      (entry.2.ifbDev, place.handleId + 1) place.prioIfb

/-- `_remove_app_network_rules`. -/
def removeAppNetworkRules (controller : NetworkController)
    (appId : String) : NetworkController :=
  match controller.appFilterInfo.get? appId with
  | none => controller
  | some info =>
    let controller := controller.clearAppPpsCap (some appId)
    { controller with
      iptables :=
        match info.mark with
        | none => controller.iptables
        | some mark => (sortedPaths info.cgroupPaths).foldl
            (fun rules path => rules.erase (.setMark path mark))
              controller.iptables
      filters := info.nics.foldl deletePlace controller.filters
      markPool :=
        match info.mark with
        | none => controller.markPool
        | some mark => insert mark controller.markPool
      appMarkMap := controller.appMarkMap.erase appId
      appFilterInfo := controller.appFilterInfo.erase appId }

/-! ## All apps -/

/-- The rules of an app are installed anew: it is new, or its tier or its
cgroups changed. -/
def Reinstalls (appId : String) (app : NetworkApp) : Prop :=
  ∀ info, controller.appFilterInfo.get? appId = some info →
    info.priority ≠ app.tier ∨ info.cgroupPaths ≠ app.paths

instance decidableReinstalls (appId : String) (app : NetworkApp) :
    Decidable (controller.Reinstalls appId app) :=
  match found : controller.appFilterInfo.get? appId with
  | none => .isTrue fun info wrong => by rw [found] at wrong; cases wrong
  | some info =>
    decidable_of_iff
      (info.priority ≠ app.tier ∨ info.cgroupPaths ≠ app.paths) (by
        constructor
        · intro changed other found'
          rw [found] at found'
          rwa [← Option.some.inj found']
        · intro changed
          exact changed info found)

/-- The CONNMARK rule is moved behind the mark rules. -/
def moveSaveMark : NetworkController :=
  { controller with
    iptables := controller.iptables.erase .saveMark ++ [.saveMark] }

def updateApp (shapers : List NicShaper) (choice : IdChoice)
    (controller : NetworkController)
    (entry : (String × NetworkApp) × Nat) : NetworkController :=
  let controller :=
    if controller.Reinstalls entry.1.1 entry.1.2 then
      (controller.removeAppNetworkRules entry.1.1).addAppNetworkRules shapers
        choice entry.1.1 entry.1.2 entry.2
    else controller
  controller.moveSaveMark

/-- `update_app_network_control`. -/
def updateAppNetworkControl (shapers : List NicShaper) (choice : IdChoice)
    (order : SetOrder String)
    (apps : OrderedDict String NetworkApp) : NetworkController :=
  let gone := controller.appFilterInfo.keys.toFinset \ apps.keys.toFinset
  apps.entries.zipIdx.foldl (updateApp shapers choice)
    ((order.walk gone).foldl removeAppNetworkRules controller)

end NetworkController

end SmarTune
