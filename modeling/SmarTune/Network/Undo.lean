import SmarTune.Network.Caps
import SmarTune.Network.MarkRules
import SmarTune.Network.RxEscalation

/-!
# Undoing what was changed

Escalations are taken back NIC by NIC, and the mark rules when the controller
is reloaded or exits.  All of it is undone in every run in which a file is
restored last by the NIC that saved it first, a reload keeps the escalated
NICs, none is escalated at the exit, and apps are marked only where the chain
has a CONNMARK rule already.
-/

namespace SmarTune

/-- The controller with its configuration, until it exits. -/
structure ControllerLife where
  controller : NetworkController
  shapers : List NicShaper
  config : NetworkConfig
  /-- `enable_network_control`. -/
  enabled : Bool
  exited : Bool

/-- What happens to the controller. -/
inductive LifeLabel
  | escalate (nic : Nat) (environment : RxEnvironment)
  | restore (nic : Nat) (environment : RxEnvironment)
  | update (choice : IdChoice) (order : SetOrder String)
      (apps : OrderedDict String NetworkApp)
  | reload (config : NetworkConfig) (ports : List Int)
      (enableNetworkControl : Bool)
      (monitors : OrderedDict String Int)
  | exit

namespace ControllerLife

open NetworkController

/-- A new controller after setup. -/
def start (controller : NetworkController) (config : NetworkConfig)
    (ports : List Int) (enableNetworkControl : Bool)
    (monitors : OrderedDict String Int) : ControllerLife where
  controller := controller.setup config ports enableNetworkControl
    (buildShapers monitors)
  shapers := buildShapers monitors
  config := config
  enabled := enableNetworkControl && !monitors.entries.isEmpty
  exited := false

def act (state : ControllerLife) : LifeLabel → ControllerLife
  | .escalate nic environment =>
    match state.shapers[nic]? with
    | none => state
    | some shaper =>
      { state with
        controller := state.controller.escalateRx state.config environment
          shaper.dev }
  | .restore nic environment =>
    match state.shapers[nic]? with
    | none => state
    | some shaper =>
      { state with
        controller := state.controller.restoreRx environment shaper.dev }
  | .update choice order apps =>
    -- a cycle ends early without shapers
    if state.enabled && !state.shapers.isEmpty then
      { state with
        controller := state.controller.updateAppNetworkControl state.shapers
          choice order apps }
    else state
  | .reload config ports enableNetworkControl monitors =>
    let enabled := enableNetworkControl && !monitors.entries.isEmpty
    { state with
      controller := state.controller.reload config ports enabled
        state.shapers (buildShapers monitors)
      shapers := buildShapers monitors
      config := config
      enabled := enabled }
  | .exit =>
    { state with
      controller := state.controller.clearNetworkRulesOnExit state.enabled
        state.shapers
      exited := true }

/-- Nothing happens after the exit. -/
def step (state : ControllerLife) (label : LifeLabel) : ControllerLife :=
  if state.exited then state else state.act label

/-- A NIC of the running controller is escalated. -/
def Escalated (state : ControllerLife) : Prop :=
  state.exited = false ∧ ∃ shaper ∈ state.shapers,
    (state.controller.rxEscalationState.get? shaper.dev).isSome

instance (state : ControllerLife) : Decidable state.Escalated :=
  inferInstanceAs (Decidable (_ ∧ ∃ shaper ∈ _, _))

/-- Once no NIC is escalated every file is as it was at the start, and after
the exit the chain has no rule more than at the start. -/
structure Undone (initial : NetworkController) (state : ControllerLife) :
    Prop where
  files : ¬state.Escalated → ∀ path,
    state.controller.files path = initial.files path
  rules : state.exited = true → ∀ rule,
    state.controller.iptables.count rule ≤ initial.iptables.count rule

/-- While the controller runs: masks are read, files are restored in turn, apps
are marked where the chain has a CONNMARK rule, a reload keeps the escalated
NICs, and none is escalated at the exit. -/
def InTurn (state : ControllerLife) : LifeLabel → Prop
  | .escalate nic environment =>
    match state.shapers[nic]? with
    | none => True
    | some shaper =>
      ReadsMasks state.config state.controller environment shaper.dev
  | .restore nic environment =>
    match state.shapers[nic]? with
    | none => True
    | some shaper => state.controller.RestoresInTurn environment shaper.dev
  | .update _ _ apps =>
    (state.enabled && !state.shapers.isEmpty) = true →
      apps.keys = [] ∨ .saveMark ∈ state.controller.iptables
  | .reload _ _ _ monitors =>
    ∀ dev ∈ state.controller.rxEscalationState.keys,
      dev ∈ (buildShapers monitors).map NicShaper.dev
  | .exit => state.controller.rxEscalationState.keys = []

instance decidableReadsMasks
    (config : NetworkConfig)
    (controller : NetworkController)
    (environment : RxEnvironment)
    (dev : String) :
    Decidable (ReadsMasks config controller environment dev) :=
  inferInstanceAs (Decidable (_ → _ → _))

instance decidableRestoresInTurn
    (controller : NetworkController)
    (environment : RxEnvironment)
    (dev : String) :
    Decidable (controller.RestoresInTurn environment dev) :=
  match found : controller.rxEscalationState.get? dev with
  | none => .isTrue (by rw [RestoresInTurn, found]; trivial)
  | some escalation =>
    decidable_of_iff (∀ path ∈ escalation.paths,
      (∃ older ∈ controller.rxEscalationState.entries.takeWhile
          fun entry : String × RxEscalation => decide (entry.1 ≠ dev),
            (older.2.savedAt path).isSome) ∨
      environment.writable path = true ∧
        ∀ other ∈ controller.rxEscalationState.entries, other.1 ≠ dev →
          other.2.savedAt path = none) (by rw [RestoresInTurn, found])

section InTurn

variable (state : ControllerLife)

instance decidableInTurn_update
    (choice : IdChoice)
    (order : SetOrder String)
    (apps : OrderedDict String NetworkApp) :
    Decidable (state.InTurn (.update choice order apps)) :=
  inferInstanceAs (Decidable (_ → _ ∨ _))

instance decidableInTurn_reload
    (config : NetworkConfig)
    (ports : List Int)
    (enableNetworkControl : Bool)
    (monitors : OrderedDict String Int) :
    Decidable (state.InTurn (.reload config ports enableNetworkControl
      monitors)) :=
  inferInstanceAs (Decidable (∀ dev ∈ _, _))

instance decidableInTurn_exit : Decidable (state.InTurn .exit) :=
  inferInstanceAs (Decidable (_ = _))

end InTurn

instance decidableInTurn (state : ControllerLife) (label : LifeLabel) :
    Decidable (state.InTurn label) :=
  match label with
  | .escalate nic environment =>
    match found : state.shapers[nic]? with
    | none => .isTrue (by simp only [InTurn, found])
    | some shaper =>
      decidable_of_iff (ReadsMasks state.config state.controller
        environment shaper.dev) (by simp only [InTurn, found])
  | .restore nic environment =>
    match found : state.shapers[nic]? with
    | none => .isTrue (by simp only [InTurn, found])
    | some shaper =>
      decidable_of_iff (state.controller.RestoresInTurn environment
        shaper.dev) (by simp only [InTurn, found])
  | .update choice order apps => decidableInTurn_update state choice order apps
  | .reload config ports enableNetworkControl monitors =>
    decidableInTurn_reload state config ports enableNetworkControl monitors
  | .exit => decidableInTurn_exit state

/-- What there is to undo is known. -/
structure Undoable (initial : NetworkController) (state : ControllerLife) :
    Prop where
  tidy : state.controller.TidyEscalations
  original : state.controller.originalFiles = initial.files
  known : ∀ dev, (state.controller.rxEscalationState.get? dev).isSome →
    dev ∈ state.shapers.map NicShaper.dev
  running : state.exited = false → RulesKept initial.iptables state.controller
  appless : state.enabled = false → state.controller.markRules = []
  exited : state.exited = true →
    (∀ dev, state.controller.rxEscalationState.get? dev = none) ∧
      ∀ rule, state.controller.iptables.count rule = initial.iptables.count rule

variable {initial : NetworkController} {state : ControllerLife}

theorem originalFiles_of_unescalated {controller : NetworkController}
    (unescalated : ∀ dev, controller.rxEscalationState.get? dev = none) :
    controller.originalFiles = controller.files := by
  have none : controller.rxEscalationState.entries = [] := by
    rw [List.eq_nil_iff_forall_not_mem]
    rintro ⟨dev, state⟩ member
    have found := (OrderedDict.get?_eq_some_iff _ _ _).mpr member
    rw [unescalated] at found
    cases found
  rw [originalFiles, copies, none, List.map_nil, SavedCopies.original_nil]

theorem Undoable.undone (undoable : Undoable initial state) :
    Undone initial state := by
  constructor
  · intro calm path
    have unescalated : ∀ dev,
        state.controller.rxEscalationState.get? dev = none := by
      intro dev
      cases exited : state.exited with
      | true => exact (undoable.exited exited).1 dev
      | false =>
        rw [← Option.not_isSome_iff_eq_none]
        intro escalated
        obtain ⟨shaper, isShaper, rfl⟩ :=
          List.mem_map.mp (undoable.known dev escalated)
        exact calm ⟨exited, shaper, isShaper, escalated⟩
    rw [← originalFiles_of_unescalated unescalated, undoable.original]
  · intro exited rule
    exact ((undoable.exited exited).2 rule).le

/-! ## One step -/

theorem Undoable.escalate (undoable : Undoable initial state)
    (running : state.exited = false) {shaper : NicShaper}
    (isShaper : shaper ∈ state.shapers) {environment : RxEnvironment}
    (reads : ReadsMasks state.config state.controller environment shaper.dev) :
    Undoable initial { state with
      controller := state.controller.escalateRx state.config environment
        shaper.dev } := by
  obtain ⟨tidy, original⟩ := undoable.tidy.escalateRx reads
  obtain ⟨iptables, apps⟩ :=
    escalateRx_apart state.config environment state.controller shaper.dev
  refine ⟨tidy, original.trans undoable.original, fun dev escalated => ?_,
    fun running => (undoable.running running).congr iptables apps,
    fun disabled => (markRules_congr apps).trans (undoable.appless disabled),
    fun exited => absurd (running.symm.trans exited) Bool.false_ne_true⟩
  cases found : state.controller.rxEscalationState.get? shaper.dev with
  | some before =>
    simp only [escalateRx_of_some environment found
      (undoable.tidy _ before found)] at escalated
    exact undoable.known dev escalated
  | none =>
    obtain ⟨after, entered, -⟩ := escalateRx_of_none found reads
    rw [Option.isSome_iff_exists, entered] at escalated
    obtain ⟨state, escalation⟩ := escalated
    rcases OrderedDict.get?_set_eq_some_iff.mp escalation with
      ⟨rfl, -⟩ | ⟨-, before⟩
    · exact List.mem_map_of_mem isShaper
    · exact undoable.known dev (Option.isSome_iff_exists.mpr ⟨_, before⟩)

theorem Undoable.restore (undoable : Undoable initial state)
    (running : state.exited = false) {dev : String}
    {environment : RxEnvironment}
    (inTurn : state.controller.RestoresInTurn environment dev) :
    Undoable initial { state with
      controller := state.controller.restoreRx environment dev } := by
  obtain ⟨tidy, original⟩ := undoable.tidy.restoreRx inTurn
  obtain ⟨iptables, apps⟩ := restoreRx_apart environment state.controller dev
  refine ⟨tidy, original.trans undoable.original, fun other escalated => ?_,
    fun running => (undoable.running running).congr iptables apps,
    fun disabled => (markRules_congr apps).trans (undoable.appless disabled),
    fun exited => absurd (running.symm.trans exited) Bool.false_ne_true⟩
  apply undoable.known other
  simp only [NetworkController.restoreRx] at escalated
  split at escalated
  · exact escalated
  · obtain ⟨escalation, found⟩ := Option.isSome_iff_exists.mp escalated
    exact Option.isSome_iff_exists.mpr
      ⟨_, (OrderedDict.get?_erase_eq_some_iff.mp found).2⟩

section SameRx

variable {after before : NetworkController}

/-- What is about neither the receive path nor its escalation. -/
theorem originalFiles_congr (same : SameRx after before) :
    after.originalFiles = before.originalFiles := by
  rw [originalFiles, copies, same.files, same.rxEscalationState, originalFiles,
    copies]

theorem tidyEscalations_congr (same : SameRx after before)
    (tidy : before.TidyEscalations) :
    after.TidyEscalations := by
  intro dev escalation found
  rw [same.rxEscalationState] at found
  exact tidy dev escalation found

end SameRx

theorem sameRx_setup (controller : NetworkController) (config : NetworkConfig)
    (ports : List Int) (enabled : Bool) (shapers : List NicShaper) :
    SameRx (controller.setup config ports enabled shapers) controller ∧
      (controller.setup config ports enabled shapers).iptables =
        controller.iptables := by
  obtain ⟨classes, filters, same⟩ :=
    controller.exists_setup_eq config ports enabled shapers
  rw [same]
  exact ⟨⟨rfl, rfl⟩, rfl⟩

theorem Undoable.update (undoable : Undoable initial state)
    (running : state.exited = false) (enabled : state.enabled = true)
    (choice : IdChoice) (order : SetOrder String)
    {apps : OrderedDict String NetworkApp}
    (present : apps.keys = [] ∨
      IptablesRule.saveMark ∈ state.controller.iptables) :
    Undoable initial { state with
      controller := state.controller.updateAppNetworkControl state.shapers
        choice order apps } := by
  have kept := undoable.running running
  have atStart : apps.entries = [] ∨
      IptablesRule.saveMark ∈ initial.iptables := by
    refine present.imp List.map_eq_nil_iff.mp fun there => ?_
    have count := kept .saveMark
    rw [count_saveMark_markRules, Nat.add_zero] at count
    rwa [← List.count_pos_iff, ← count, List.count_pos_iff]
  obtain ⟨updated, same⟩ := kept.update state.shapers choice order atStart
  refine ⟨tidyEscalations_congr same undoable.tidy,
    (originalFiles_congr same).trans undoable.original, fun dev escalated => ?_,
    fun _ => updated, fun disabled => absurd (disabled.symm.trans enabled) Bool.false_ne_true,
    fun exited => absurd (running.symm.trans exited) Bool.false_ne_true⟩
  rw [same.rxEscalationState] at escalated
  exact undoable.known dev escalated

theorem Undoable.reload (undoable : Undoable initial state)
    (running : state.exited = false) (config : NetworkConfig) (ports : List Int)
    (enabled : Bool) {shapers : List NicShaper}
    (keeps : ∀ dev ∈ state.controller.rxEscalationState.keys,
      dev ∈ shapers.map NicShaper.dev) :
    Undoable initial { state with
      controller := state.controller.reload config ports enabled state.shapers
        shapers
      shapers := shapers
      config := config
      enabled := enabled } := by
  obtain ⟨same, iptables⟩ := sameRx_setup
    (state.controller.teardownAll state.shapers).forgetApps config ports
    enabled shapers
  have apps := (sameApps_reload state.controller config ports enabled
    state.shapers shapers).appFilterInfo
  have markless : (state.controller.reload config ports enabled state.shapers
      shapers).markRules = [] := by
    rw [markRules, apps]
    rfl
  have unchanged : SameRx (state.controller.reload config ports enabled
      state.shapers shapers) state.controller :=
    ⟨same.files, same.rxEscalationState⟩
  refine ⟨tidyEscalations_congr unchanged undoable.tidy,
    (originalFiles_congr unchanged).trans undoable.original, ?_,
    fun _ rule => ?_, fun _ => markless,
    fun exited => absurd (running.symm.trans exited) Bool.false_ne_true⟩
  · intro dev escalated
    rw [unchanged.rxEscalationState] at escalated
    obtain ⟨escalation, found⟩ := Option.isSome_iff_exists.mp escalated
    exact keeps dev (List.mem_map_of_mem
      ((OrderedDict.get?_eq_some_iff _ _ _).mp found))
  · rw [markless, List.count_nil, Nat.add_zero]
    exact (congrArg (List.count rule) iptables).trans
      ((undoable.running running).teardown state.shapers rule)

theorem Undoable.exit (undoable : Undoable initial state)
    (running : state.exited = false)
    (calm : state.controller.rxEscalationState.keys = []) :
    Undoable initial { state with
      controller := state.controller.clearNetworkRulesOnExit state.enabled
        state.shapers
      exited := true } := by
  have unescalated : ∀ dev,
      state.controller.rxEscalationState.get? dev = none := by
    intro dev
    rw [OrderedDict.get?_eq_none_iff, List.map_eq_nil_iff.mp calm]
    exact fun _ => List.not_mem_nil
  have kept := undoable.running running
  unfold clearNetworkRulesOnExit
  split
  · next enabled =>
    refine ⟨undoable.tidy, undoable.original, undoable.known,
      fun running => absurd running.symm Bool.false_ne_true, fun disabled => ?_,
      fun _ => ⟨unescalated, kept.teardown state.shapers⟩⟩
    exact absurd (disabled.symm.trans enabled) Bool.false_ne_true
  · next disabled =>
    refine ⟨undoable.tidy, undoable.original, undoable.known,
      fun running => absurd running.symm Bool.false_ne_true, undoable.appless,
      fun _ => ⟨unescalated, fun rule => ?_⟩⟩
    have own := kept rule
    rwa [undoable.appless (Bool.eq_false_iff.mpr disabled), List.count_nil,
      Nat.add_zero] at own

theorem Undoable.step (undoable : Undoable initial state) {label : LifeLabel}
    (inTurn : state.exited = true ∨ state.InTurn label) :
    Undoable initial (state.step label) := by
  cases exited : state.exited with
  | true => rwa [ControllerLife.step, if_pos exited]
  | false =>
    have running := inTurn.resolve_left (by simp [exited])
    rw [ControllerLife.step, if_neg (by simp [exited])]
    cases label with
    | escalate nic environment =>
      simp only [act]
      cases found : state.shapers[nic]? with
      | none => exact undoable
      | some shaper =>
        simp only [InTurn, found] at running
        exact undoable.escalate exited (List.mem_of_getElem? found) running
    | restore nic environment =>
      simp only [act]
      cases found : state.shapers[nic]? with
      | none => exact undoable
      | some shaper =>
        simp only [InTurn, found] at running
        exact undoable.restore exited running
    | update choice order apps =>
      simp only [act]
      split
      · next cycles =>
        have enabled := (Bool.and_eq_true_iff.mp cycles).1
        exact undoable.update exited enabled choice order (running cycles)
      · exact undoable
    | reload config ports enable monitors =>
      exact undoable.reload exited config ports _ running
    | exit => exact undoable.exit exited running

/-! ## Every run -/

/-- Before the first app and the first escalation there is nothing to undo. -/
theorem undoable_start (classes : HtbClasses) (filters : TcFilters)
    (iptables : List IptablesRule) (files : RxFile → String)
    (config : NetworkConfig) (ports : List Int) (enableNetworkControl : Bool)
    (monitors : OrderedDict String Int) :
    Undoable (init classes filters iptables files)
      (start (init classes filters iptables files) config ports
        enableNetworkControl monitors) := by
  obtain ⟨same, rules⟩ := sameRx_setup (init classes filters iptables files)
    config ports enableNetworkControl (buildShapers monitors)
  have apps := (sameApps_setup (init classes filters iptables files) config
    ports enableNetworkControl (buildShapers monitors)).appFilterInfo
  have markless : (start (init classes filters iptables files) config ports
      enableNetworkControl monitors).controller.markRules = [] := by
    rw [start, markRules, apps]
    rfl
  refine ⟨?_, originalFiles_congr same, ?_, fun _ rule => ?_, fun _ => markless,
    fun exited => absurd exited Bool.false_ne_true⟩
  · intro dev state found
    rw [start, same.rxEscalationState] at found
    cases found
  · intro dev escalated
    rw [start, same.rxEscalationState] at escalated
    cases escalated
  · rw [markless, List.count_nil, Nat.add_zero]
    exact congrArg (List.count rule) rules

/-- In every run in turn all is undone wherever it is cut short. -/
theorem escalation_undone (classes : HtbClasses) (filters : TcFilters)
    (iptables : List IptablesRule) (files : RxFile → String)
    (config : NetworkConfig) (ports : List Int) (enableNetworkControl : Bool)
    (monitors : OrderedDict String Int) (labels : List LifeLabel)
    (inTurn : Runs.EveryStep step
      (fun state label => state.exited = true ∨ state.InTurn label)
      (start (init classes filters iptables files) config ports
        enableNetworkControl monitors) labels) :
    Runs.EveryPrefix step (Undone (init classes filters iptables files))
      (start (init classes filters iptables files) config ports
        enableNetworkControl monitors) labels :=
  Runs.everyPrefix_of_invariant (Undoable (init classes filters iptables files))
    (fun _ _ undoable inTurn => undoable.step inTurn)
    (fun _ undoable => undoable.undone)
    (undoable_start classes filters iptables files config ports
      enableNetworkControl monitors) inTurn

/-- One receive queue for each NIC, and files that can be read and written. -/
def oneQueue : RxEnvironment where
  queues _ := [0]
  cpuMask := "ff"
  readable _ := true
  writable _ := true

/-- The standard configuration with the sysctl bump enabled. -/
def bumping : NetworkConfig :=
  { NetworkConfig.standard true with
    policy := { (NetworkConfig.standard true).policy with
      enableNetdevBudgetBump := true } }

/-- Nothing is installed, and the files hold `"300"`. -/
def untouched (iptables : List IptablesRule) : NetworkController :=
  init (fun _ _ => none) (fun _ => []) iptables fun _ => "300"

/-- The second NIC leaves first, and the chain has a CONNMARK rule. -/
theorem escalation_undone_twoNics :
    Runs.EveryPrefix step (Undone (untouched [.saveMark]))
      (start (untouched [.saveMark]) bumping [] true NetworkSystem.twoNics)
      [.update .least .sorted NetworkSystem.threeApps, .escalate 0 oneQueue,
        .escalate 1 oneQueue, .restore 1 oneQueue, .restore 0 oneQueue,
        .reload bumping [] true NetworkSystem.twoNics,
        .update .least .sorted NetworkSystem.threeApps, .exit] :=
  escalation_undone _ _ _ _ bumping [] true NetworkSystem.twoNics _
    (by decide +kernel)

/-- A NIC that is restored last writes back what another one had bumped, and a
CONNMARK rule that an update adds is there after the exit. -/
theorem escalation_left :
    (¬∀ (classes : HtbClasses) (filters : TcFilters)
        (iptables : List IptablesRule) (files : RxFile → String)
        (config : NetworkConfig) (ports : List Int)
        (enableNetworkControl : Bool) (monitors : OrderedDict String Int)
        (labels : List LifeLabel),
      config.policy.enableNetdevBudgetBump = true → Runs.EveryPrefix step
          (fun state => ¬state.Escalated →
            ∀ path, state.controller.files path = files path)
          (start (init classes filters iptables files) config ports
            enableNetworkControl monitors) labels) ∧
    ¬∀ (classes : HtbClasses) (filters : TcFilters)
        (iptables : List IptablesRule) (files : RxFile → String)
        (config : NetworkConfig) (ports : List Int)
        (enableNetworkControl : Bool) (monitors : OrderedDict String Int)
        (labels : List LifeLabel),
      config.policy.enableNetdevBudgetBump = true → Runs.EveryPrefix step
          (fun state => state.exited = true → ∀ rule,
            state.controller.iptables.count rule ≤ iptables.count rule)
          (start (init classes filters iptables files) config ports
            enableNetworkControl monitors) labels := by
  constructor
  · intro restored
    have left : ¬(Runs.run step
          (start (untouched []) bumping [] true NetworkSystem.twoNics)
          [.escalate 0 oneQueue, .escalate 1 oneQueue, .restore 0 oneQueue,
            .restore 1 oneQueue]).Escalated ∧
        (Runs.run step
          (start (untouched []) bumping [] true NetworkSystem.twoNics)
          [.escalate 0 oneQueue, .escalate 1 oneQueue, .restore 0 oneQueue,
            .restore 1 oneQueue]).controller.files .netdevBudget = "600" := by
      decide
    have same := (restored _ _ _ _ bumping [] true NetworkSystem.twoNics _
      rfl).finally left.1 .netdevBudget
    exact absurd (left.2.symm.trans same) (by decide)
  · intro removed
    have left : (Runs.run step
          (start (untouched []) bumping [] true NetworkSystem.twoNics)
          [.update .least .sorted NetworkSystem.threeApps, .exit]).exited =
            true ∧
        (Runs.run step
          (start (untouched []) bumping [] true NetworkSystem.twoNics)
          [.update .least .sorted NetworkSystem.threeApps,
            .exit]).controller.iptables.count .saveMark = 1 := by
      decide +kernel
    have fewer := (removed _ _ _ _ bumping [] true NetworkSystem.twoNics _
      rfl).finally left.1 .saveMark
    exact absurd (left.2 ▸ fewer) (by decide)

end ControllerLife

end SmarTune
