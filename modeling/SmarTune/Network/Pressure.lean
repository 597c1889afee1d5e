import SmarTune.Monitor.Loop
import SmarTune.Network.Setup

/-!
# Network pressure

`handle_network_pressure` answers the pressure of one NIC in each direction:
it polices the packet rate of apps of a lower tier, caps classes, spreads the
receive work over the CPUs, and takes these measures back when it is calm.
-/

namespace SmarTune

/-- What the receive path looks like to one evaluation. -/
structure RxEnvironment where
  /-- The receive queues of a device. -/
  queues : String → List Nat
  /-- `_cpu_mask`. -/
  cpuMask : String
  readable : RxFile → Bool
  writable : RxFile → Bool

/-- What one call of `handle_network_pressure` reads. -/
structure PressureInput where
  txPressure : PressureLevel
  rxPressure : PressureLevel
  ingressRates : ClassId → ℚ
  egressRates : ClassId → ℚ
  /-- The entries of `network_data`. -/
  tx : ℚ
  rx : ℚ
  txCollectiveHarm : ℚ
  rxCollectiveHarm : ℚ
  softirqHarm : ℚ
  /-- What `_sample_app_pps` measures for an app with a mark. -/
  appPps : String → Option ℚ
  /-- `_kernel_supports_pkt_police`. -/
  pktPoliceSupported : Bool
  receive : RxEnvironment
  /-- The readings of the clock, numbered by where they are made. -/
  clock : Nat → ℚ

/-- `limit_cooldown`. -/
def limitCooldown : ℚ := 10

/-- `recover_cooldown`. -/
def recoverCooldown : ℚ := 30

namespace PressureInput

variable (config : NetworkConfig) (input : PressureInput)

/-- `tx_pps_gate_active`. -/
def TxPpsGateActive : Prop :=
  (input.txPressure = .critical ∧
    config.policy.collectiveHarmThreshold ≤ input.txCollectiveHarm) ∨
  config.policy.collectiveHarmThreshold ≤ input.softirqHarm

instance : Decidable (input.TxPpsGateActive config) :=
  inferInstanceAs (Decidable ((_ ∧ _) ∨ _))

/-- `_can_switch`, whose two readings of the clock start at a number. -/
def CanSwitch (cooldown : ℚ) (reading : Nat) (throttle : Throttle) : Prop :=
  cooldown < input.clock reading - throttle.lastLimitTime ∧
    cooldown < input.clock (reading + 1) - throttle.lastRecoverTime

instance (cooldown : ℚ) (reading : Nat) (throttle : Throttle) :
    Decidable (input.CanSwitch cooldown reading throttle) :=
  inferInstanceAs (Decidable (_ ∧ _))

end PressureInput

namespace NetworkController

variable (config : NetworkConfig) (input : PressureInput)
  (controller : NetworkController) (shaper : NicShaper)

/-! ## Packet rates -/

/-- `ranked_apps`: the apps with a mark. -/
def rankedApps : List (String × AppFilterInfo) :=
  controller.appFilterInfo.entries.filter fun entry => entry.2.mark.isSome

/-- The candidates of `_evaluate_tx_pps_gate`. -/
def evaluateTxPpsGate : List String :=
  if max input.txCollectiveHarm input.softirqHarm <
      config.policy.collectiveHarmThreshold then []
  else
    let topRank := (controller.rankedApps.map fun entry =>
      entry.2.priority.rank).foldr max 0
    (controller.rankedApps.filter fun entry =>
      match input.appPps entry.1 with
      | none => false
      | some pps => config.policy.appPpsHigh ≤ pps ∧
          entry.2.priority.rank < topRank).map Prod.fst

def devCaps (appId : String) : OrderedDict String PpsCap :=
  (controller.appPpsCaps.get? appId).getD .empty

/-- The filter of a cap. -/
def policeFilter (policy : PpsPolicy) (mark prio : Nat) (classid : ClassId) :
    TcFilter :=
  ⟨prio, .mark mark, classid, some (policy.ppsCapRate, policy.ppsCapBurst)⟩

/-- The priority of the next cap of an app: the app counts among those with
caps. -/
def capPrio (appId : String) : Nat :=
  3000 + (controller.appPpsCaps.set appId
    (controller.devCaps appId)).entries.length * 10 +
    (controller.devCaps appId).entries.length

def installCap (appId : String) (mark : Nat)
    (rule : NicRule) : NetworkController :=
  let prio := controller.capPrio appId
  { controller with
    filters := controller.filters.add (shaper.dev, shaper.handleId)
      (policeFilter config.policy mark prio rule.classidEgress)
    appPpsCaps := controller.appPpsCaps.set appId
      ((controller.devCaps appId).set shaper.dev ⟨prio, shaper.handleId⟩) }

/-- `_apply_app_pps_cap`. -/
def applyAppPpsCap (appId : String) : Bool × NetworkController :=
  if config.enableAppPpsPolice ∧ input.pktPoliceSupported then
    match controller.appFilterInfo.get? appId with
    | none => (false, controller)
    | some info =>
      match info.mark with
      | none => (false, controller)
      | some mark =>
        -- `setdefault` leaves an entry even when no cap follows
        let entered := { controller with
          appPpsCaps := controller.appPpsCaps.set appId
            (controller.devCaps appId) }
        if ((controller.devCaps appId).get? shaper.dev).isSome then
          (true, entered)
        else
          match info.nics.find? fun nic => nic.1 = shaper.dev with
          | none => (false, entered)
          | some (_, rule) =>
            (true, controller.installCap config shaper appId mark rule)
  else (false, controller)

def applyCaps (candidates : List String) : Bool × NetworkController :=
  candidates.foldl (fun result appId =>
    let next := result.2.applyAppPpsCap config input shaper appId
    (result.1 || next.1, next.2)) (false, controller)

/-! ## The receive path -/

/-- The state of receive escalation of a device, made on first use. -/
def escalationOf (dev : String) : RxEscalation :=
  (controller.rxEscalationState.get? dev).getD ⟨.empty, .empty, false⟩

/-- `open(path, "w")` and `write`. -/
def writeFile (environment : RxEnvironment) (files : RxFile → String)
    (path : RxFile) (value : String) : RxFile → String :=
  if environment.writable path then Function.update files path value else files

/-- One receive queue of `_escalate_rx`. -/
def escalateQueue (environment : RxEnvironment) (dev : String)
    (result : (RxFile → String) × OrderedDict RxFile String)
    (queue : Nat) : (RxFile → String) × OrderedDict RxFile String :=
  let path := RxFile.rpsCpus dev queue
  let saved :=
    if (result.2.get? path).isSome then result.2
    else result.2.set path (if environment.readable path then result.1 path
      else "0")
  (writeFile environment result.1 path environment.cpuMask, saved)

/-- One sysctl of `_escalate_rx`; one that cannot be read is left alone. -/
def escalateSysctl (environment : RxEnvironment)
    (result : (RxFile → String) × OrderedDict RxFile String)
    (bump : RxFile × String) : (RxFile → String) × OrderedDict RxFile String :=
  if (result.2.get? bump.1).isSome then
    (writeFile environment result.1 bump.1 bump.2, result.2)
  else if environment.readable bump.1 then
    (writeFile environment result.1 bump.1 bump.2,
      result.2.set bump.1 (result.1 bump.1))
  else result

def sysctlBumps : List (RxFile × String) :=
  [(.netdevMaxBacklog, "50000"), (.netdevBudget, "600")]

/-- `_escalate_rx`. -/
def escalateRx (environment : RxEnvironment)
    (dev : String) : NetworkController :=
  let state := controller.escalationOf dev
  if state.active then controller
  else
    let queues :=
      if config.policy.enableRpsEscalation then
        (environment.queues dev).foldl (escalateQueue environment dev)
          (controller.files, state.rps)
      else (controller.files, state.rps)
    let sysctls :=
      if config.policy.enableNetdevBudgetBump then
        sysctlBumps.foldl (escalateSysctl environment) (queues.1, state.sysctl)
      else (queues.1, state.sysctl)
    { controller with
      files := sysctls.1
      rxEscalationState := controller.rxEscalationState.set dev
        ⟨queues.2, sysctls.2, true⟩ }

/-- Saved values are written back. -/
def restoreFiles (environment : RxEnvironment) (files : RxFile → String)
    (saved : OrderedDict RxFile String) : RxFile → String :=
  saved.entries.foldl (fun files entry =>
    writeFile environment files entry.1 entry.2) files

/-- `_restore_rx`. -/
def restoreRx (environment : RxEnvironment)
    (dev : String) : NetworkController :=
  match controller.rxEscalationState.get? dev with
  | none => controller
  | some state =>
    { controller with
      files := restoreFiles environment
        (restoreFiles environment controller.files state.rps) state.sysctl
      rxEscalationState := controller.rxEscalationState.erase dev }

/-! ### What they change -/

theorem exists_applyCaps_eq (candidates : List String) :
    ∃ filters caps, (controller.applyCaps config input shaper candidates).2 =
      { controller with filters := filters, appPpsCaps := caps } := by
  refine List.foldlRecOn candidates _
    (motive := fun result : Bool × NetworkController => ∃ filters caps,
      result.2 = { controller with filters := filters, appPpsCaps := caps })
    ⟨_, _, rfl⟩ ?_
  rintro ⟨applied, _⟩ ⟨filters, caps, rfl⟩ appId -
  simp only [applyAppPpsCap]
  split
  · split
    · exact ⟨_, _, rfl⟩
    split
    · exact ⟨_, _, rfl⟩
    split
    · exact ⟨_, _, rfl⟩
    split <;> exact ⟨_, _, rfl⟩
  · exact ⟨_, _, rfl⟩

theorem exists_escalateRx_eq (environment : RxEnvironment) (dev : String) :
    ∃ files states, controller.escalateRx config environment dev =
      { controller with files := files, rxEscalationState := states } := by
  simp only [escalateRx]
  split <;> exact ⟨_, _, rfl⟩

theorem exists_restoreRx_eq (environment : RxEnvironment) (dev : String) :
    ∃ files states, controller.restoreRx environment dev =
      { controller with files := files, rxEscalationState := states } := by
  simp only [restoreRx]
  split <;> exact ⟨_, _, rfl⟩

/-! ## One evaluation -/

/-- `# TX throttle`. -/
def throttleTx (shaper : NicShaper) (controller : NetworkController) :
    NicShaper × NetworkController :=
  if input.TxPpsGateActive config then
    let capped := controller.applyCaps config input shaper
      (controller.evaluateTxPpsGate config input)
    (if capped.1 then shaper.setLastLimit .egress (input.clock 0) else shaper,
      capped.2)
  else if input.txPressure = .critical ∧
      input.CanSwitch limitCooldown 1 shaper.tx then
    let limited := shaper.applyBandwidthLimit config controller.classes .egress
      input.egressRates
    (limited.1.setLastLimit .egress (input.clock 3),
      { controller with classes := limited.2 })
  else if input.txPressure ≠ .critical then
    (shaper, controller.clearAppPpsCap none)
  else (shaper, controller)

/-- `# RX throttle`. -/
def throttleRx (shaper : NicShaper) (controller : NetworkController) :
    NicShaper × NetworkController :=
  if input.rxPressure = .critical ∧
      config.policy.collectiveHarmThreshold ≤ input.rxCollectiveHarm then
    (shaper.setLastLimit .ingress (input.clock 4),
      controller.escalateRx config input.receive shaper.dev)
  else if input.rxPressure = .critical ∧
      input.CanSwitch limitCooldown 5 shaper.rx then
    let limited := shaper.applyBandwidthLimit config controller.classes
      .ingress input.ingressRates
    (limited.1.setLastLimit .ingress (input.clock 7),
      { controller with classes := limited.2 })
  else if input.rxPressure ≠ .critical ∧
      (controller.rxEscalationState.get? shaper.dev).isSome ∧
      input.CanSwitch recoverCooldown 8 shaper.rx then
    (shaper.setLastRecover .ingress (input.clock 10),
      controller.restoreRx input.receive shaper.dev)
  else (shaper, controller)

/-- `# TX pressure restore`. -/
def restoreTxPressure (shaper : NicShaper) (controller : NetworkController) :
    NicShaper × NetworkController :=
  if input.txPressure ≠ .critical ∧ 0 < shaper.tx.limitStage ∧
      input.CanSwitch recoverCooldown 11 shaper.tx then
    let recovered := shaper.recoverNetworkPressure config controller.classes
      .egress input.egressRates shaper.totalBw (shaper.totalBw * input.tx)
    (recovered.1.setLastRecover .egress (input.clock 13),
      { controller with classes := recovered.2 })
  else (shaper, controller)

/-- `# RX pressure restore`. -/
def restoreRxPressure (shaper : NicShaper) (controller : NetworkController) :
    NicShaper × NetworkController :=
  if input.rxPressure ≠ .critical ∧ 0 < shaper.rx.limitStage ∧
      input.CanSwitch recoverCooldown 14 shaper.rx then
    let recovered := shaper.recoverNetworkPressure config controller.classes
      .ingress input.ingressRates shaper.totalBw (shaper.totalBw * input.rx)
    (recovered.1.setLastRecover .ingress (input.clock 16),
      { controller with classes := recovered.2 })
  else (shaper, controller)

/-- `handle_network_pressure`. -/
def handleNetworkPressure (shaper : NicShaper) (controller : NetworkController) :
    NicShaper × NetworkController :=
  let afterTx := throttleTx config input shaper controller
  let afterRx := throttleRx config input afterTx.1 afterTx.2
  let afterTxRestore := restoreTxPressure config input afterRx.1 afterRx.2
  restoreRxPressure config input afterTxRestore.1 afterTxRestore.2

theorem identity_throttleTx (shaper : NicShaper)
    (controller : NetworkController) :
    (throttleTx config input shaper controller).1.identity =
      shaper.identity := by
  unfold throttleTx
  split
  · dsimp only
    split
    · exact NicShaper.identity_setLastLimit ..
    · rfl
  split
  · exact (NicShaper.identity_setLastLimit ..).trans
      (NicShaper.identity_applyBandwidthLimit ..)
  split <;> rfl

theorem identity_throttleRx (shaper : NicShaper)
    (controller : NetworkController) :
    (throttleRx config input shaper controller).1.identity =
      shaper.identity := by
  unfold throttleRx
  split
  · exact NicShaper.identity_setLastLimit ..
  split
  · exact (NicShaper.identity_setLastLimit ..).trans
      (NicShaper.identity_applyBandwidthLimit ..)
  split
  · exact NicShaper.identity_setLastRecover ..
  · rfl

theorem identity_restoreTxPressure (shaper : NicShaper)
    (controller : NetworkController) :
    (restoreTxPressure config input shaper controller).1.identity =
      shaper.identity := by
  unfold restoreTxPressure
  split
  · exact (NicShaper.identity_setLastRecover ..).trans
      (NicShaper.identity_recoverNetworkPressure ..)
  · rfl

theorem identity_restoreRxPressure (shaper : NicShaper)
    (controller : NetworkController) :
    (restoreRxPressure config input shaper controller).1.identity =
      shaper.identity := by
  unfold restoreRxPressure
  split
  · exact (NicShaper.identity_setLastRecover ..).trans
      (NicShaper.identity_recoverNetworkPressure ..)
  · rfl

/-- An evaluation does not change what the shaper is. -/
theorem identity_handleNetworkPressure (shaper : NicShaper)
    (controller : NetworkController) :
    (handleNetworkPressure config input shaper controller).1.identity =
      shaper.identity := by
  simp only [handleNetworkPressure]
  rw [identity_restoreRxPressure, identity_restoreTxPressure,
    identity_throttleRx, identity_throttleTx]

end NetworkController

/-! ## All NICs -/

/-- The controller and its shapers. -/
structure NetworkSystem where
  controller : NetworkController
  shapers : List NicShaper

/-- The pressure of a NIC is evaluated, or an app is removed. -/
inductive NetworkLabel
  | evaluate (nic : Nat) (input : PressureInput)
  | remove (appId : String)

namespace NetworkSystem

/-- What an evaluation or a removal does. -/
def step (config : NetworkConfig) (state : NetworkSystem) :
    NetworkLabel → NetworkSystem
  | .evaluate nic input =>
    match state.shapers[nic]? with
    | none => state
    | some shaper =>
      let result := NetworkController.handleNetworkPressure config input
        shaper state.controller
      ⟨result.2, state.shapers.set nic result.1⟩
  | .remove appId =>
    { state with controller := state.controller.removeAppNetworkRules appId }

variable {state : NetworkSystem} {nic : Nat} {shaper : NicShaper}

theorem step_evaluate (config : NetworkConfig)
    (found : state.shapers[nic]? = some shaper) (input : PressureInput) :
    state.step config (.evaluate nic input) =
      ⟨(NetworkController.handleNetworkPressure config input shaper
          state.controller).2,
        state.shapers.set nic (NetworkController.handleNetworkPressure config
          input shaper state.controller).1⟩ := by
  simp only [step, found]

theorem step_evaluate_of_none (config : NetworkConfig)
    (absent : state.shapers[nic]? = none) (input : PressureInput) :
    state.step config (.evaluate nic input) = state := by
  simp only [step, absent]

/-- No evaluation changes what a shaper is. -/
theorem identity_set {shapers : List NicShaper} {after : NicShaper}
    (found : shapers[nic]? = some shaper)
    (same : after.identity = shaper.identity) :
    (shapers.set nic after).map NicShaper.identity =
      shapers.map NicShaper.identity := by
  rw [List.map_set, same]
  apply List.ext_getElem?
  intro index
  rw [List.getElem?_set]
  split
  · next here =>
    subst here
    split
    · simp [found]
    · next outside => simp [Nat.le_of_not_lt (by simpa using outside)]
  · rfl

end NetworkSystem

end SmarTune
