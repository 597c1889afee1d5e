import SmarTune.Library.Runs
import SmarTune.Network.Places
import SmarTune.Network.Pressure

/-!
# Stages

Whatever the pressure of the NICs, the classes in force are those that the
limit stages of their two directions denote.  An evaluation changes a direction
at most once, and only the direction of the NIC it is about.
-/

namespace SmarTune

namespace NicShaper

variable {config : NetworkConfig}

/-! ## One change of a direction -/

/-- A direction is changed at most once. -/
structure Turn (config : NetworkConfig) (direction : Direction)
    (before after : NicShaper × HtbClasses) : Prop where
  identity : after.1.identity = before.1.identity
  stage : ∀ other ≠ direction, (after.1.throttle other).limitStage =
    (before.1.throttle other).limitStage
  elsewhere : ∀ device classId,
    (∀ tier, classId ≠ before.1.classid direction tier) →
    after.2 device classId = before.2 device classId
  inForce : before.1.InForce config before.2 direction →
    after.1.InForce config after.2 direction
  ordered : before.1.InForce config before.2 direction →
    before.1.Ordered config before.2 direction after.2

/-- No stage and no class changes. -/
structure Quiet (before after : NicShaper × HtbClasses) : Prop where
  identity : after.1.identity = before.1.identity
  stage : ∀ direction, (after.1.throttle direction).limitStage =
    (before.1.throttle direction).limitStage
  classes : after.2 = before.2

variable {before middle after : NicShaper × HtbClasses} {direction : Direction}

theorem Quiet.refl (before : NicShaper × HtbClasses) : Quiet before before :=
  ⟨rfl, fun _ => rfl, rfl⟩

theorem Quiet.trans (first : Quiet before middle)
    (second : Quiet middle after) :
    Quiet before after :=
  ⟨second.identity.trans first.identity,
    fun direction => (second.stage direction).trans (first.stage direction),
    second.classes.trans first.classes⟩

theorem Quiet.turn_refl (quiet : Quiet before after) (direction : Direction) :
    Turn config direction before after := by
  refine ⟨quiet.identity, fun other _ => quiet.stage other, ?_, ?_, ?_⟩
  · intro device classId _
    rw [quiet.classes]
  · intro inForce
    rw [quiet.classes]
    exact inForce.congr quiet.identity (quiet.stage direction)
  · intro _
    rw [quiet.classes]
    exact ordered_refl direction

theorem ceil?_congr {shaper other : NicShaper}
    (same : other.identity = shaper.identity) (classes : HtbClasses)
    (direction : Direction) (tier : NetworkTier) :
    other.ceil? classes direction tier = shaper.ceil? classes direction tier := by
  rw [ceil?, device_congr same, classid_congr same, ceil?]

theorem Ordered.congr {shaper other : NicShaper}
    {classes after otherClasses otherAfter : HtbClasses}
    (ordered : shaper.Ordered config classes direction after)
    (same : other.identity = shaper.identity)
    (before : ∀ tier, other.ceil? otherClasses direction tier =
      shaper.ceil? classes direction tier)
    (afterwards : ∀ tier, other.ceil? otherAfter direction tier =
      shaper.ceil? after direction tier) :
    other.Ordered config otherClasses direction otherAfter := by
  constructor
  · intro changed
    rw [before, afterwards] at changed
    have low := ordered.low_first changed
    simpa only [List.forall_mem_cons, List.not_mem_nil, IsEmpty.forall_iff,
      implies_true, before, afterwards, totalBw_congr same] using low
  · intro changed
    rw [before, afterwards] at changed
    have high := ordered.high_first changed
    simpa only [List.forall_mem_cons, List.not_mem_nil, IsEmpty.forall_iff,
      implies_true, before, afterwards, totalBw_congr same] using high

theorem Quiet.turn (quiet : Quiet before middle)
    (turn : Turn config direction middle after) :
    Turn config direction before after := by
  have inForce : before.1.InForce config before.2 direction →
      middle.1.InForce config middle.2 direction := by
    intro inForce
    rw [quiet.classes]
    exact inForce.congr quiet.identity (quiet.stage direction)
  refine ⟨turn.identity.trans quiet.identity, ?_, ?_, ?_, ?_⟩
  · intro other different
    rw [turn.stage other different, quiet.stage other]
  · intro device classId foreign
    rw [turn.elsewhere, quiet.classes]
    intro tier
    rw [classid_congr quiet.identity]
    exact foreign tier
  · exact fun initially => turn.inForce (inForce initially)
  · intro initially
    apply (turn.ordered (inForce initially)).congr quiet.identity.symm
    · intro tier
      rw [quiet.classes, ceil?_congr quiet.identity]
    · intro tier
      rw [ceil?_congr quiet.identity]

theorem Turn.quiet (turn : Turn config direction before middle)
    (quiet : Quiet middle after) :
    Turn config direction before after := by
  refine ⟨quiet.identity.trans turn.identity, ?_, ?_, ?_, ?_⟩
  · intro other different
    rw [quiet.stage other, turn.stage other different]
  · intro device classId foreign
    rw [quiet.classes, turn.elsewhere device classId foreign]
  · intro initially
    rw [quiet.classes]
    exact (turn.inForce initially).congr quiet.identity (quiet.stage direction)
  · intro initially
    rw [quiet.classes]
    exact turn.ordered initially

theorem Turn.inForce_other (turn : Turn config direction before after)
    {other : Direction} (different : other ≠ direction)
    (inForce : before.1.InForce config before.2 other) :
    after.1.InForce config after.2 other := by
  have untouched : before.1.InForce config after.2 other := by
    refine ⟨inForce.stage_le, fun tier => ?_⟩
    rw [turn.elsewhere, inForce.classes_eq]
    exact fun _ => classid_ne (.inl different)
  exact untouched.congr turn.identity (turn.stage other different)

theorem Turn.ceil?_other (turn : Turn config direction before after)
    {other : Direction} (different : other ≠ direction) (tier : NetworkTier) :
    before.1.ceil? after.2 other tier = before.1.ceil? before.2 other tier := by
  rw [ceil?, turn.elsewhere, ceil?]
  exact fun _ => classid_ne (.inl different)

theorem Turn.inForce_all (turn : Turn config direction before after)
    (inForce : ∀ other, before.1.InForce config before.2 other)
    (other : Direction) :
    after.1.InForce config after.2 other := by
  by_cases same : other = direction
  · subst same
    exact turn.inForce (inForce other)
  · exact turn.inForce_other same (inForce other)

/-- A throttle and a recovery change their direction at most once. -/
theorem turn_of_cases {shaper : NicShaper} {classes : HtbClasses}
    {result : NicShaper × HtbClasses}
    (cases : result = (shaper, classes) ∨
      ∃ key stage, shaper.Moves config classes direction result key stage) :
    Turn config direction (shaper, classes) result := by
  rcases cases with rfl | ⟨key, stage, moves⟩
  · exact (Quiet.refl _).turn_refl direction
  refine ⟨?_, ?_, ?_, moves.inForce, moves.ordered⟩
  · rw [moves.shaper_eq, identity_setStage]
  · intro other different
    rw [moves.shaper_eq, throttle_setStage, if_neg different]
  · intro device classId foreign
    rw [moves.classes_eq, HtbClasses.change_of_ne _ (foreign key)]

/-! ## One evaluation -/

section Evaluation

open NetworkController

variable (input : PressureInput) {shaper : NicShaper}
  {controller : NetworkController}

def shaped (result : NicShaper × NetworkController) : NicShaper × HtbClasses :=
  (result.1, result.2.classes)

theorem classes_applyCaps (shaper : NicShaper) (controller : NetworkController)
    (candidates : List String) :
    (controller.applyCaps config input shaper candidates).2.classes =
      controller.classes := by
  obtain ⟨filters, caps, same⟩ :=
    controller.exists_applyCaps_eq config input shaper candidates
  rw [same]

theorem classes_clearAppPpsCap (controller : NetworkController)
    (appId : Option String) :
    (controller.clearAppPpsCap appId).classes = controller.classes := by
  obtain ⟨filters, caps, same⟩ := controller.exists_clearAppPpsCap_eq appId
  rw [same]

/-- Nothing changes, or the pressure is as given and one direction does. -/
def TurnsWhen (config : NetworkConfig) (pressure : Prop) (direction : Direction)
    (before after : NicShaper × HtbClasses) : Prop :=
  Quiet before after ∨ pressure ∧ Turn config direction before after

variable {direction : Direction} {before after : NicShaper × HtbClasses}

theorem TurnsWhen.turn {pressure : Prop}
    (turns : TurnsWhen config pressure direction before after) :
    Turn config direction before after := by
  rcases turns with quiet | ⟨-, turn⟩
  · exact quiet.turn_refl direction
  · exact turn

theorem TurnsWhen.quiet {pressure : Prop}
    (turns : TurnsWhen config pressure direction before after)
    (otherwise : ¬pressure) :
    Quiet before after :=
  turns.resolve_right fun both => otherwise both.1

theorem throttleTx_turns
    (inForce : shaper.InForce config controller.classes .egress) :
    TurnsWhen config (input.txPressure = .critical) .egress
      (shaper, controller.classes)
      (shaped (throttleTx config input shaper controller)) := by
  unfold throttleTx
  split
  · refine .inl ⟨?_, fun direction => ?_, classes_applyCaps input _ _ _⟩
    · dsimp only [shaped]
      split
      · exact identity_setLastLimit ..
      · rfl
    · dsimp only [shaped]
      split
      · exact stage_setLastLimit ..
      · rfl
  split
  · next critical =>
    exact .inr ⟨critical.1,
      (turn_of_cases (applyBandwidthLimit_cases inForce _)).quiet
        ⟨identity_setLastLimit .., fun _ => stage_setLastLimit .., rfl⟩⟩
  split
  · exact .inl ⟨rfl, fun _ => rfl, classes_clearAppPpsCap controller none⟩
  · exact .inl (Quiet.refl _)

theorem classes_escalateRx (environment : RxEnvironment)
    (controller : NetworkController) (dev : String) :
    (controller.escalateRx config environment dev).classes =
      controller.classes := by
  obtain ⟨files, states, same⟩ :=
    controller.exists_escalateRx_eq config environment dev
  rw [same]

theorem classes_restoreRx (environment : RxEnvironment)
    (controller : NetworkController) (dev : String) :
    (controller.restoreRx environment dev).classes = controller.classes := by
  obtain ⟨files, states, same⟩ := controller.exists_restoreRx_eq environment dev
  rw [same]

theorem throttleRx_turns
    (inForce : shaper.InForce config controller.classes .ingress) :
    TurnsWhen config (input.rxPressure = .critical) .ingress
      (shaper, controller.classes)
      (shaped (throttleRx config input shaper controller)) := by
  unfold throttleRx
  split
  · exact .inl ⟨identity_setLastLimit .., fun _ => stage_setLastLimit ..,
      classes_escalateRx ..⟩
  split
  · next critical =>
    exact .inr ⟨critical.1,
      (turn_of_cases (applyBandwidthLimit_cases inForce _)).quiet
        ⟨identity_setLastLimit .., fun _ => stage_setLastLimit .., rfl⟩⟩
  split
  · exact .inl ⟨identity_setLastRecover .., fun _ => stage_setLastRecover ..,
      classes_restoreRx ..⟩
  · exact .inl (Quiet.refl _)

theorem restoreTxPressure_turns
    (inForce : shaper.InForce config controller.classes .egress) :
    TurnsWhen config (input.txPressure ≠ .critical) .egress
      (shaper, controller.classes)
      (shaped (restoreTxPressure config input shaper controller)) := by
  unfold restoreTxPressure
  split
  · next calm =>
    exact .inr ⟨calm.1,
      (turn_of_cases (recoverNetworkPressure_cases inForce _ _ _)).quiet
        ⟨identity_setLastRecover .., fun _ => stage_setLastRecover .., rfl⟩⟩
  · exact .inl (Quiet.refl _)

theorem restoreRxPressure_turns
    (inForce : shaper.InForce config controller.classes .ingress) :
    TurnsWhen config (input.rxPressure ≠ .critical) .ingress
      (shaper, controller.classes)
      (shaped (restoreRxPressure config input shaper controller)) := by
  unfold restoreRxPressure
  split
  · next calm =>
    exact .inr ⟨calm.1,
      (turn_of_cases (recoverNetworkPressure_cases inForce _ _ _)).quiet
        ⟨identity_setLastRecover .., fun _ => stage_setLastRecover .., rfl⟩⟩
  · exact .inl (Quiet.refl _)

/-- An evaluation changes each direction at most once. -/
theorem handleNetworkPressure_turns
    (inForce : ∀ direction,
      shaper.InForce config controller.classes direction) :
    ∃ first second middle, first ≠ second ∧
      Turn config first (shaper, controller.classes) middle ∧
      Turn config second middle
        (shaped (handleNetworkPressure config input shaper controller)) := by
  have throttledTx := throttleTx_turns input (inForce .egress)
  have afterTx := throttledTx.turn.inForce_all inForce
  have throttledRx := throttleRx_turns input (afterTx .ingress)
  have afterRx := throttledRx.turn.inForce_all afterTx
  have restoredTx := restoreTxPressure_turns input (afterRx .egress)
  have afterRestore := restoredTx.turn.inForce_all afterRx
  have restoredRx := restoreRxPressure_turns input (afterRestore .ingress)
  by_cases tx : input.txPressure = .critical <;>
    by_cases rx : input.rxPressure = .critical
  · exact ⟨.egress, .ingress, _, by decide, throttledTx.turn,
      (throttledRx.turn.quiet (restoredTx.quiet (not_not.mpr tx))).quiet
        (restoredRx.quiet (not_not.mpr rx))⟩
  · exact ⟨.egress, .ingress, _, by decide, throttledTx.turn,
      ((throttledRx.quiet rx).trans
        (restoredTx.quiet (not_not.mpr tx))).turn restoredRx.turn⟩
  · exact ⟨.ingress, .egress, _, by decide,
      (throttledTx.quiet tx).turn throttledRx.turn,
      restoredTx.turn.quiet (restoredRx.quiet (not_not.mpr rx))⟩
  · exact ⟨.egress, .ingress, _, by decide,
      ((throttledTx.quiet tx).trans (throttledRx.quiet rx)).turn
        restoredTx.turn, restoredRx.turn⟩

/-- What an evaluation leaves of the classes. -/
structure Evaluated (config : NetworkConfig) (shaper : NicShaper)
    (classes : HtbClasses) (after : NicShaper × HtbClasses) : Prop where
  identity : after.1.identity = shaper.identity
  elsewhere : ∀ device classId,
    (∀ direction tier, classId ≠ shaper.classid direction tier) →
    after.2 device classId = classes device classId
  inForce : ∀ direction, after.1.InForce config after.2 direction
  ordered : ∀ direction, shaper.Ordered config classes direction after.2

/-- Another NIC is out of reach of an evaluation. -/
theorem Evaluated.classes_other {shaper other : NicShaper}
    {classes : HtbClasses} {after : NicShaper × HtbClasses}
    (evaluated : Evaluated config shaper classes after)
    (foreign : ∀ direction otherDirection,
      other.handle otherDirection ≠ shaper.handle direction) :
    ∀ device direction tier, after.2 device (other.classid direction tier) =
        classes device (other.classid direction tier) := by
  intro device direction tier
  apply evaluated.elsewhere
  intro otherDirection otherTier same
  exact foreign otherDirection direction (Prod.mk.inj same).1

theorem handleNetworkPressure_evaluated
    (inForce : ∀ direction,
      shaper.InForce config controller.classes direction) :
    Evaluated config shaper controller.classes
      (shaped (handleNetworkPressure config input shaper controller)) := by
  obtain ⟨first, second, middle, different, one, two⟩ :=
    handleNetworkPressure_turns input inForce
  have between := one.inForce_all inForce
  refine ⟨two.identity.trans one.identity, ?_, two.inForce_all between, ?_⟩
  · intro device classId foreign
    rw [two.elsewhere, one.elsewhere device classId (foreign first)]
    intro tier
    rw [classid_congr one.identity]
    exact foreign second tier
  · intro direction
    by_cases isFirst : direction = first
    · subst isFirst
      apply (one.ordered (inForce direction)).congr rfl fun _ => rfl
      intro tier
      have kept := two.ceil?_other different tier
      rwa [ceil?_congr one.identity, ceil?_congr one.identity] at kept
    · have isSecond : direction = second := by
        cases direction <;> cases first <;> cases second <;>
          simp at different isFirst ⊢
      subst isSecond
      apply (two.ordered (between direction)).congr one.identity.symm
      · intro tier
        have kept := one.ceil?_other different.symm tier
        rw [ceil?_congr one.identity, ← kept]
      · intro tier
        rw [ceil?_congr one.identity]

end Evaluation

end NicShaper

/-! ## All NICs -/

namespace NetworkSystem

open NicShaper

variable {config : NetworkConfig} {state : NetworkSystem}

/-- After setup, with the NICs that are monitored. -/
def start (controller : NetworkController) (config : NetworkConfig)
    (ports : List Int) (monitors : OrderedDict String Int) : NetworkSystem where
  controller := controller.setup config ports true (buildShapers monitors)
  shapers := buildShapers monitors

/-- In both directions of every NIC the classes in force are those its stage
denotes, and the critical and the system class are as set up. -/
structure StagesInForce (config : NetworkConfig)
    (state : NetworkSystem) : Prop where
  inForce : ∀ shaper ∈ state.shapers, ∀ direction,
    shaper.InForce config state.controller.classes direction
  fixed : ∀ shaper ∈ state.shapers, ∀ direction,
    ∀ tier ∈ [NetworkTier.critical, .system],
      state.controller.classes (shaper.device direction)
        (shaper.classid direction tier) = some (shaper.tierClass config tier)

/-- In both directions of every NIC the low class is squeezed before the high
one and recovers after it. -/
def OrderedStep (config : NetworkConfig) (state : NetworkSystem)
    (label : NetworkLabel) : Prop :=
  ∀ shaper ∈ state.shapers, ∀ direction,
    shaper.Ordered config state.controller.classes direction
      (state.step config label).controller.classes

/-- The NICs are apart and their classes in force. -/
structure Shaped (config : NetworkConfig) (state : NetworkSystem) : Prop where
  apart : Apart state.shapers
  inForce : ∀ shaper ∈ state.shapers, ∀ direction,
    shaper.InForce config state.controller.classes direction

theorem Shaped.stagesInForce (shaped : Shaped config state) :
    StagesInForce config state := by
  refine ⟨shaped.inForce, fun shaper isShaper direction tier fixed => ?_⟩
  rw [(shaped.inForce shaper isShaper direction).classes_eq]
  simp only [List.mem_cons, List.not_mem_nil, or_false] at fixed
  rcases fixed with rfl | rfl <;> rfl

theorem shaped_evaluate (shaped : Shaped config state) {nic : Nat}
    {shaper : NicShaper} (found : state.shapers[nic]? = some shaper)
    (input : PressureInput) :
    Evaluated config shaper state.controller.classes
      (NicShaper.shaped (NetworkController.handleNetworkPressure config input
        shaper state.controller)) :=
  handleNetworkPressure_evaluated input
    (shaped.inForce shaper (List.mem_of_getElem? found))

theorem classes_removeAppNetworkRules (controller : NetworkController)
    (appId : String) :
    (controller.removeAppNetworkRules appId).classes = controller.classes := by
  unfold NetworkController.removeAppNetworkRules
  cases controller.appFilterInfo.get? appId with
  | none => rfl
  | some info => exact classes_clearAppPpsCap controller (some appId)

theorem Shaped.orderedStep (shaped : Shaped config state)
    (label : NetworkLabel) :
    OrderedStep config state label := by
  intro other isShaper direction
  cases label with
  | remove appId =>
    simp only [step, classes_removeAppNetworkRules]
    exact ordered_refl direction
  | evaluate nic input =>
    cases found : state.shapers[nic]? with
    | none =>
      rw [step_evaluate_of_none config found]
      exact ordered_refl direction
    | some shaper =>
      have evaluated := shaped_evaluate shaped found input
      rw [step_evaluate config found]
      by_cases own : other = shaper
      · subst own
        exact evaluated.ordered direction
      · have untouched := evaluated.classes_other
          fun mine yours same => own (shaped.apart.eq_of_handle isShaper
            (List.mem_of_getElem? found) same).1
        have same : other.Ordered config state.controller.classes
            direction state.controller.classes := ordered_refl direction
        apply same.congr rfl fun _ => rfl
        intro tier
        exact congrArg _ (untouched _ _ _)

theorem Shaped.step (shaped : Shaped config state) (label : NetworkLabel) :
    Shaped config (state.step config label) := by
  cases label with
  | remove appId =>
    refine ⟨shaped.apart, fun shaper isShaper direction => ?_⟩
    simp only [NetworkSystem.step, classes_removeAppNetworkRules]
    exact shaped.inForce shaper isShaper direction
  | evaluate nic input =>
    cases found : state.shapers[nic]? with
    | none => rwa [step_evaluate_of_none config found]
    | some shaper =>
      have evaluated := shaped_evaluate shaped found input
      rw [step_evaluate config found]
      refine ⟨shaped.apart.of_identity
        (identity_set found evaluated.identity), ?_⟩
      intro other isShaper direction
      obtain ⟨index, there⟩ := List.mem_iff_getElem?.mp isShaper
      rw [List.getElem?_set] at there
      split at there
      · split at there
        · obtain rfl := Option.some.inj there
          exact evaluated.inForce direction
        · cases there
      · next elsewhere =>
        have initially := shaped.inForce other
          (List.mem_of_getElem? there) direction
        refine ⟨initially.stage_le, fun tier => ?_⟩
        rw [← initially.classes_eq]
        apply evaluated.classes_other
        intro mine yours
        exact shaped.apart.handle_ne (Ne.symm elsewhere) there found _ _

/-! ### After setup -/

theorem setupClasses_of_ne {shaper : NicShaper} (classes : HtbClasses)
    {classId : ClassId}
    (foreign : ∀ direction, classId.1 ≠ shaper.handle direction)
    (device : String) :
    shaper.setupClasses config classes device classId =
      classes device classId := by
  have egress : classId.1 ≠ shaper.handleId := foreign .egress
  have ingress : classId.1 ≠ shaper.handleId + 1 := foreign .ingress
  have tiers : ∀ (classes : HtbClasses) tier,
      shaper.addTier config classes tier device classId =
        classes device classId := by
    intro classes tier
    apply addTier_of_ne
    · exact fun same => foreign .egress (congrArg Prod.fst same)
    · exact fun same => foreign .ingress (congrArg Prod.fst same)
  simp only [setupClasses, List.foldl_cons, List.foldl_nil, tiers]
  rw [HtbClasses.add_of_ne, HtbClasses.add_of_ne, HtbClasses.deleteTree,
    if_neg fun both => ingress both.2, HtbClasses.deleteTree,
    if_neg fun both => egress both.2]
  · exact fun same => egress (congrArg Prod.fst same)
  · exact fun same => ingress (congrArg Prod.fst same)

theorem inForce_setup (controller : NetworkController) (ports : List Int)
    {shapers : List NicShaper} (apart : Apart shapers)
    (fresh : ∀ shaper ∈ shapers, ∀ direction,
      (shaper.throttle direction).limitStage = 0) :
    ∀ shaper ∈ shapers, ∀ direction, shaper.InForce config
      (controller.setup config ports true shapers).classes direction := by
  intro shaper isShaper direction
  rw [NetworkController.setup, if_pos rfl]
  induction shapers generalizing controller with
  | nil => cases isShaper
  | cons first rest ih =>
    rw [List.foldl_cons]
    rcases List.mem_cons.mp isShaper with rfl | later
    · refine List.foldlRecOn rest (NetworkController.setupShaper config ports)
        (motive := fun after : NetworkController =>
          shaper.InForce config after.classes direction)
        (inForce_setupClasses config controller.classes
          (fresh shaper List.mem_cons_self direction))
        fun after inForce other isOther => ?_
      refine ⟨inForce.stage_le, fun tier => ?_⟩
      rw [← inForce.classes_eq]
      apply setupClasses_of_ne
      exact fun otherDirection =>
        List.rel_of_pairwise_cons apart isOther direction otherDirection
    · exact ih _ apart.of_cons
        (fun other member => fresh other (List.mem_cons_of_mem _ member))
        later

theorem shaped_start (controller : NetworkController) (config : NetworkConfig)
    (ports : List Int) (monitors : OrderedDict String Int) :
    Shaped config (start controller config ports monitors) := by
  have apart := apart_buildShapers monitors
  refine ⟨apart, inForce_setup controller ports apart ?_⟩
  intro shaper isShaper direction
  obtain ⟨monitor, -, rfl⟩ := List.mem_map.mp isShaper
  cases direction <;> rfl

end NetworkSystem

end SmarTune
