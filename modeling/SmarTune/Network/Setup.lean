import SmarTune.Network.AppRules

/-!
# Setting up, tearing down, reloading

`setup_tc_classes_and_filters` builds the trees of every shaped NIC and
`_teardown_all` removes them with the mark rules of the apps.  A reload is a
teardown, a reset of what is remembered about apps and marks, and a new setup;
what is remembered about receive escalation stays.
-/

namespace SmarTune

/-- `_build_shapers`: the monitored NICs with a known speed, in turn. -/
def buildShapers (monitors : OrderedDict String Int) : List NicShaper :=
  (monitors.entries.filter fun monitor => 0 < monitor.2).zipIdx.map
    fun monitor => .init monitor.1.1 s!"ifb{monitor.2}" (50 + 2 * monitor.2)
      monitor.1.2

namespace NetworkController

variable (controller : NetworkController)

/-- The ports that get a filter of the system class. -/
def systemPorts (ports : List Int) : Finset Nat :=
  ((ports.filter fun port => 1 ≤ port ∧ port ≤ 65535).map Int.toNat).toFinset

def addPortFilters (shaper : NicShaper) (filters : TcFilters)
    (entry : Nat × Nat) : TcFilters :=
  let egress := fun matching =>
    ⟨1000 + entry.2, matching, shaper.classid .egress .system, none⟩
  let ifb := fun matching =>
    ⟨2000 + entry.2, matching, shaper.classid .ingress .system, none⟩
  (((filters.add (shaper.dev, shaper.handleId) (egress (.dport entry.1))).add
    (shaper.dev, shaper.handleId) (egress (.sport entry.1))).add
      (shaper.ifbDev, shaper.handleId + 1) (ifb (.dport entry.1))).add
        (shaper.ifbDev, shaper.handleId + 1) (ifb (.sport entry.1))

/-- `_get_set_networked_system_ports`. -/
def setSystemPorts (ports : List Int) (filters : TcFilters)
    (shaper : NicShaper) : TcFilters :=
  (systemPorts ports).sort.zipIdx.foldl (addPortFilters shaper) filters

/-- `tc qdisc del ... root` of both trees of a NIC, which takes their filters
along. -/
def deleteTrees (filters : TcFilters) (shaper : NicShaper) : TcFilters :=
  Function.update (Function.update filters (shaper.dev, shaper.handleId) [])
    (shaper.ifbDev, shaper.handleId + 1) []

/-- One NIC of `setup_tc_classes_and_filters`. -/
def setupShaper (config : NetworkConfig) (ports : List Int)
    (controller : NetworkController) (shaper : NicShaper) : NetworkController :=
  { controller with
    classes := shaper.setupClasses config controller.classes
    filters := setSystemPorts ports (deleteTrees controller.filters shaper)
      shaper }

/-- `setup_tc_classes_and_filters`. -/
def setup (config : NetworkConfig) (ports : List Int)
    (enableNetworkControl : Bool)
    (shapers : List NicShaper) : NetworkController :=
  if enableNetworkControl then
    shapers.foldl (setupShaper config ports) controller
  else controller

theorem exists_setup_eq (config : NetworkConfig) (ports : List Int)
    (enableNetworkControl : Bool) (shapers : List NicShaper) :
    ∃ classes filters,
      controller.setup config ports enableNetworkControl shapers =
        { controller with classes := classes, filters := filters } := by
  unfold setup
  split
  · refine List.foldlRecOn shapers (setupShaper config ports)
      (motive := fun after : NetworkController => ∃ classes filters, after =
        { controller with classes := classes, filters := filters })
      ⟨_, _, rfl⟩ ?_
    rintro _ ⟨classes, filters, rfl⟩ shaper -
    exact ⟨_, _, rfl⟩
  · exact ⟨_, _, rfl⟩

def deleteMarkRules (rules : List IptablesRule)
    (entry : String × AppFilterInfo) : List IptablesRule :=
  match entry.2.mark with
  | none => rules
  | some mark => (sortedPaths entry.2.cgroupPaths).foldl
      (fun rules path => rules.erase (.setMark path mark)) rules

/-- `_teardown_all`. -/
def teardownAll (shapers : List NicShaper) : NetworkController :=
  { controller with
    classes := shapers.foldl (fun classes shaper =>
      (classes.deleteTree shaper.dev shaper.handleId).deleteTree shaper.ifbDev
        (shaper.handleId + 1)) controller.classes
    filters := shapers.foldl deleteTrees controller.filters
    iptables := controller.appFilterInfo.entries.foldl deleteMarkRules
      controller.iptables }

/-- What `reload` forgets. -/
def forgetApps : NetworkController :=
  { controller with
    markPool := freshMarks
    appMarkMap := .empty
    appFilterInfo := .empty
    appPpsCaps := .empty }

/-- `reload`, from the shapers before to those of the new configuration. -/
def reload (config : NetworkConfig) (ports : List Int)
    (enableNetworkControl : Bool)
    (before after : List NicShaper) : NetworkController :=
  (controller.teardownAll before).forgetApps.setup config ports
    enableNetworkControl after

/-- `clear_network_rules_on_exit`. -/
def clearNetworkRulesOnExit (enableNetworkControl : Bool)
    (shapers : List NicShaper) : NetworkController :=
  if enableNetworkControl then controller.teardownAll shapers else controller

end NetworkController

end SmarTune
