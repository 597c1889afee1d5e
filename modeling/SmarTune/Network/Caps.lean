import SmarTune.Network.Marks
import SmarTune.Network.Places
import SmarTune.Network.Pressure

/-!
# Caps

The priority of a cap is made from the sizes of the dictionaries of caps, which
shrink when apps are removed, and a calm NIC clears the caps on all NICs.  Caps
stay apart, and in place, in every run in which a new cap finds its priority
unused and a NIC is calm only while no other NIC has caps.
-/

namespace SmarTune

namespace NetworkController

variable (controller : NetworkController)

/-! ## The caps that are live -/

def capOf (appId dev : String) : Option PpsCap :=
  (controller.devCaps appId).get? dev

/-- All caps, with their app and device. -/
def liveCaps : List (String × String × PpsCap) :=
  controller.appPpsCaps.entries.flatMap fun entry =>
    entry.2.entries.map fun cap => (entry.1, cap)

theorem mem_liveCaps_iff (appId dev : String) (cap : PpsCap) :
    (appId, dev, cap) ∈ controller.liveCaps ↔
      controller.capOf appId dev = some cap := by
  simp only [liveCaps, List.mem_flatMap, List.mem_map, Prod.mk.injEq, capOf,
    devCaps]
  constructor
  · rintro ⟨⟨_, caps⟩, entered, _, member, rfl, rfl⟩
    rw [(OrderedDict.get?_eq_some_iff _ _ _).mpr entered, Option.getD_some]
    exact (OrderedDict.get?_eq_some_iff _ _ _).mpr member
  · intro found
    cases entered : controller.appPpsCaps.get? appId with
    | none =>
      rw [entered, Option.getD_none] at found
      cases found
    | some caps =>
      rw [entered, Option.getD_some] at found
      exact ⟨(appId, caps), (OrderedDict.get?_eq_some_iff _ _ _).mp entered,
        (dev, cap), (OrderedDict.get?_eq_some_iff _ _ _).mp found, rfl, rfl⟩

variable {controller}

theorem capOf_congr {other : NetworkController}
    (same : other.appPpsCaps = controller.appPpsCaps) (appId dev : String) :
    other.capOf appId dev = controller.capOf appId dev := by
  rw [capOf, devCaps, same, capOf, devCaps]

variable {other appId dev : String} {cap : PpsCap}
  {after before : NetworkController} {shaper : NicShaper}

theorem devCaps_of_set {other : NetworkController}
    {caps : OrderedDict String PpsCap}
    (set : other.appPpsCaps = controller.appPpsCaps.set appId caps)
    (otherId : String) :
    other.devCaps otherId =
      if otherId = appId then caps else controller.devCaps otherId := by
  rw [devCaps, set, OrderedDict.get?_set]
  split <;> rfl

/-! ## Clearing -/

theorem capOf_clearCapsOf (appId other dev : String) :
    (controller.clearCapsOf appId).capOf other dev =
      if other = appId then none else controller.capOf other dev := by
  rw [capOf, devCaps, clearCapsOf, OrderedDict.get?_erase]
  split <;> rfl

theorem capOf_clearCapsOf_eq_some_iff :
    (controller.clearCapsOf appId).capOf other dev = some cap ↔
      other ≠ appId ∧ controller.capOf other dev = some cap := by
  rw [capOf_clearCapsOf]
  split
  · next same => simp [same]
  · next different => simp [different]

def capSlots (controller : NetworkController) (appId : String) :
    List FilterSlot :=
  (controller.devCaps appId).entries.map fun entry =>
    (capParent entry.1 entry.2, entry.2.prio)

theorem mem_capSlots_iff (appId : String) (slot : FilterSlot) :
    slot ∈ controller.capSlots appId ↔
      ∃ dev cap, controller.capOf appId dev = some cap ∧
        slot = ((dev, cap.handleId), cap.prio) := by
  simp only [capSlots, List.mem_map, Prod.exists, capOf,
    OrderedDict.get?_eq_some_iff, capParent, eq_comm (a := slot)]

theorem filters_clearCapsOf (appId : String) :
    (controller.clearCapsOf appId).filters =
      controller.filters.deleteSlots (controller.capSlots appId) := by
  rw [clearCapsOf, capSlots, TcFilters.deleteSlots, List.foldl_map]
  rfl

theorem capOf_foldl_clearCapsOf (apps : List String) (appId dev : String) :
    (apps.foldl clearCapsOf controller).capOf appId dev =
      if appId ∈ apps then none else controller.capOf appId dev := by
  induction apps generalizing controller with
  | nil => simp
  | cons first rest ih =>
    rw [List.foldl_cons, ih, capOf_clearCapsOf]
    by_cases here : appId = first <;> simp [here]

theorem capOf_clear_all (appId dev : String) :
    (controller.appPpsCaps.keys.foldl clearCapsOf controller).capOf appId dev =
      none := by
  rw [capOf_foldl_clearCapsOf]
  split
  · rfl
  · next absent =>
    cases entered : controller.appPpsCaps.get? appId with
    | none =>
      rw [capOf, devCaps, entered]
      rfl
    | some caps =>
      exact absurd (List.mem_map_of_mem
        ((OrderedDict.get?_eq_some_iff _ _ _).mp entered)) absent

/-! ## Applying -/

variable (config : NetworkConfig) (input : PressureInput)

def GetsCap (controller : NetworkController) (shaper : NicShaper)
    (appId : String) : Prop :=
  config.enableAppPpsPolice ∧ input.pktPoliceSupported ∧
    controller.capOf appId shaper.dev = none ∧
    match controller.appFilterInfo.get? appId with
    | none => False
    | some info => info.mark.isSome ∧
        (info.nics.find? fun nic => nic.1 = shaper.dev).isSome

instance decidableGetsCap (shaper : NicShaper) (appId : String) :
    Decidable (GetsCap config input controller shaper appId) :=
  match found : controller.appFilterInfo.get? appId with
  | none => .isFalse fun gets => by
      rw [GetsCap, found] at gets
      exact gets.2.2.2
  | some info =>
    decidable_of_iff (config.enableAppPpsPolice ∧ input.pktPoliceSupported ∧
      controller.capOf appId shaper.dev = none ∧ info.mark.isSome ∧
      (info.nics.find? fun nic => nic.1 = shaper.dev).isSome) (by
        rw [GetsCap, found])

/-- The caps, the filters and the apps stay as they are. -/
structure SameCaps (after before : NetworkController) : Prop where
  capOf : ∀ appId dev, after.capOf appId dev = before.capOf appId dev
  filters : after.filters = before.filters
  appFilterInfo : after.appFilterInfo = before.appFilterInfo

theorem SameCaps.trans {middle : NetworkController}
    (second : SameCaps after middle) (first : SameCaps middle before) :
    SameCaps after before :=
  ⟨fun appId dev => (second.capOf appId dev).trans (first.capOf appId dev),
    second.filters.trans first.filters,
    second.appFilterInfo.trans first.appFilterInfo⟩

theorem applyAppPpsCap_cases (controller : NetworkController)
    (shaper : NicShaper) (appId : String) :
    SameCaps (controller.applyAppPpsCap config input shaper appId).2
        controller ∨
      GetsCap config input controller shaper appId ∧
      ∃ info mark dev rule, controller.appFilterInfo.get? appId = some info ∧
        info.mark = some mark ∧
        (info.nics.find? fun nic => nic.1 = shaper.dev) = some (dev, rule) ∧
        (controller.applyAppPpsCap config input shaper appId).2 =
          controller.installCap config shaper appId mark rule := by
  have entered : SameCaps { controller with
      appPpsCaps := controller.appPpsCaps.set appId
        (controller.devCaps appId) } controller := by
    refine ⟨fun other dev => ?_, rfl, rfl⟩
    rw [capOf, devCaps_of_set rfl]
    split
    · next same => rw [same, capOf]
    · rfl
  simp only [applyAppPpsCap]
  split
  · next enabled =>
    cases found : controller.appFilterInfo.get? appId with
    | none => exact .inl ⟨fun _ _ => rfl, rfl, rfl⟩
    | some info =>
      cases marked : info.mark with
      | none =>
        simp only [marked]
        exact .inl ⟨fun _ _ => rfl, rfl, rfl⟩
      | some mark =>
        simp only [marked]
        split
        · exact .inl entered
        next uncapped =>
        rw [Option.not_isSome_iff_eq_none] at uncapped
        cases nic : info.nics.find? fun nic => nic.1 = shaper.dev with
        | none => exact .inl entered
        | some entry =>
          refine .inr ⟨⟨enabled.1, enabled.2, uncapped, ?_⟩, info,
            mark, entry.1, entry.2, rfl, marked, nic, rfl⟩
          simp [found, marked, nic]
  · exact .inl ⟨fun _ _ => rfl, rfl, rfl⟩

theorem capOf_installCap (controller : NetworkController) (shaper : NicShaper)
    (appId : String) (mark : Nat) (rule : NicRule) (other dev : String) :
    (controller.installCap config shaper appId mark rule).capOf other dev =
      if other = appId ∧ dev = shaper.dev then
        some ⟨controller.capPrio appId, shaper.handleId⟩
      else controller.capOf other dev := by
  rw [capOf, devCaps_of_set rfl]
  by_cases here : other = appId
  · subst here
    rw [if_pos rfl, OrderedDict.get?_set]
    by_cases there : dev = shaper.dev <;> simp [there, capOf]
  · simp [here, capOf]

theorem capOf_installCap_eq_some_iff {mark : Nat} {rule : NicRule} :
    (controller.installCap config shaper appId mark rule).capOf other dev =
        some cap ↔
      (other = appId ∧ dev = shaper.dev) ∧
        cap = ⟨controller.capPrio appId, shaper.handleId⟩ ∨
      ¬(other = appId ∧ dev = shaper.dev) ∧
        controller.capOf other dev = some cap := by
  rw [capOf_installCap]
  split
  · next here => simp [here, eq_comm]
  · next elsewhere => simp [elsewhere]

/-! ## Caps apart -/

/-- The filter of an app's cap is installed, alone at its priority. -/
def CapInstalled (config : NetworkConfig) (controller : NetworkController)
    (appId dev : String) (cap : PpsCap) : Prop :=
  ∃ info mark nic rule, controller.appFilterInfo.get? appId = some info ∧
    info.mark = some mark ∧
    (info.nics.find? fun nic => nic.1 = dev) = some (nic, rule) ∧
    controller.filters.atPrio (dev, cap.handleId) cap.prio =
      [policeFilter config.policy mark cap.prio rule.classidEgress]

/-- Different apps have caps of different priorities on a device, every cap is
installed, and clearing the caps of an app deletes its police filters only. -/
structure CapsApart (config : NetworkConfig)
    (controller : NetworkController) : Prop where
  distinct : ∀ left right dev leftCap rightCap, left ≠ right →
    controller.capOf left dev = some leftCap →
    controller.capOf right dev = some rightCap →
    leftCap.prio ≠ rightCap.prio
  installed : ∀ appId dev cap, controller.capOf appId dev = some cap →
    CapInstalled config controller appId dev cap
  clears : ∀ appId parent, ∀ filter ∈ controller.filters parent,
    filter ∉ (controller.clearCapsOf appId).filters parent →
    ∃ dev cap info mark classid, controller.capOf appId dev = some cap ∧
      controller.appFilterInfo.get? appId = some info ∧
      info.mark = some mark ∧ parent = (dev, cap.handleId) ∧
      filter = policeFilter config.policy mark cap.prio classid

/-- Every cap is on a NIC, installed, and of a priority of its own. -/
structure CapsPlaced (config : NetworkConfig) (nics : List NicShaper)
    (controller : NetworkController) : Prop where
  onNic : ∀ appId dev cap, controller.capOf appId dev = some cap →
    ∃ nic ∈ nics, nic.dev = dev ∧ nic.handleId = cap.handleId
  installed : ∀ appId dev cap, controller.capOf appId dev = some cap →
    CapInstalled config controller appId dev cap
  distinct : ∀ left right dev leftCap rightCap, left ≠ right →
    controller.capOf left dev = some leftCap →
    controller.capOf right dev = some rightCap →
    leftCap.prio ≠ rightCap.prio

variable {config} {nics : List NicShaper}

theorem CapsPlaced.capsApart (placed : CapsPlaced config nics controller) :
    CapsApart config controller := by
  refine ⟨placed.distinct, placed.installed, ?_⟩
  intro appId parent filter member cleared
  rw [filters_clearCapsOf, TcFilters.deleteSlots_apply, List.mem_filter,
    not_and] at cleared
  have deleted : (parent, filter.prio) ∈ controller.capSlots appId := by
    simpa using cleared member
  obtain ⟨dev, cap, capped, same⟩ := (mem_capSlots_iff _ _).mp deleted
  obtain ⟨rfl, prio⟩ := Prod.mk.inj same
  obtain ⟨info, mark, nic, rule, found, marked, -, alone⟩ :=
    placed.installed appId dev cap capped
  have there : filter ∈
      controller.filters.atPrio (dev, cap.handleId) cap.prio :=
    List.mem_filter.mpr ⟨member, decide_eq_true prio⟩
  rw [alone, List.mem_singleton] at there
  exact ⟨dev, cap, info, mark, _, capped, found, marked, rfl, there⟩

theorem SameCaps.capsPlaced (same : SameCaps after controller)
    (placed : CapsPlaced config nics controller) :
    CapsPlaced config nics after := by
  refine ⟨?_, ?_, ?_⟩
  · intro appId dev cap capped
    exact placed.onNic appId dev cap ((same.capOf appId dev).symm.trans capped)
  · intro appId dev cap capped
    rw [CapInstalled, same.filters, same.appFilterInfo]
    exact placed.installed appId dev cap
      ((same.capOf appId dev).symm.trans capped)
  · intro left right dev leftCap rightCap different leftCapped rightCapped
    exact placed.distinct left right dev leftCap rightCap different
      ((same.capOf left dev).symm.trans leftCapped)
      ((same.capOf right dev).symm.trans rightCapped)

theorem capsPlaced_of_uncapped
    (uncapped : ∀ appId dev, controller.capOf appId dev = none) :
    CapsPlaced config nics controller := by
  refine ⟨?_, ?_, ?_⟩
  · intro appId dev cap capped
    rw [uncapped] at capped
    cases capped
  · intro appId dev cap capped
    rw [uncapped] at capped
    cases capped
  · intro left right dev leftCap rightCap different capped
    rw [uncapped] at capped
    cases capped

theorem CapsPlaced.of_deleteSlots (placed : CapsPlaced config nics controller)
    {after : NetworkController} {slots : List FilterSlot}
    (filters : after.filters = controller.filters.deleteSlots slots)
    (kept : ∀ appId dev cap, after.capOf appId dev = some cap →
      controller.capOf appId dev = some cap ∧
      after.appFilterInfo.get? appId = controller.appFilterInfo.get? appId ∧
      ((dev, cap.handleId), cap.prio) ∉ slots) :
    CapsPlaced config nics after := by
  refine ⟨?_, ?_, ?_⟩
  · intro appId dev cap capped
    exact placed.onNic appId dev cap (kept appId dev cap capped).1
  · intro appId dev cap capped
    obtain ⟨before, sameInfo, undeleted⟩ := kept appId dev cap capped
    rw [CapInstalled, sameInfo, filters, TcFilters.atPrio_deleteSlots,
      if_neg undeleted]
    exact placed.installed appId dev cap before
  · intro left right dev leftCap rightCap different leftCapped rightCapped
    exact placed.distinct left right dev leftCap rightCap different
      (kept left dev leftCap leftCapped).1
      (kept right dev rightCap rightCapped).1

theorem CapsPlaced.not_mem_capSlots (placed : CapsPlaced config nics controller)
    (capped : controller.capOf other dev = some cap)
    (different : other ≠ appId) :
    ((dev, cap.handleId), cap.prio) ∉ controller.capSlots appId := by
  intro shared
  obtain ⟨_, own, ownCapped, same⟩ := (mem_capSlots_iff _ _).mp shared
  obtain ⟨parents, prios⟩ := Prod.mk.inj same
  obtain ⟨rfl, -⟩ := Prod.mk.inj parents
  exact placed.distinct other appId dev cap own different capped ownCapped prios

theorem CapsPlaced.clearCapsOf (placed : CapsPlaced config nics controller)
    (appId : String) :
    CapsPlaced config nics (controller.clearCapsOf appId) := by
  apply placed.of_deleteSlots (filters_clearCapsOf appId)
  intro other dev cap capped
  obtain ⟨different, before⟩ := capOf_clearCapsOf_eq_some_iff.mp capped
  exact ⟨before, rfl, placed.not_mem_capSlots before different⟩

theorem CapsPlaced.prio_ne_of_free (placed : CapsPlaced config nics controller)
    (distinct : (nics.map NicShaper.dev).Nodup) {nic : NicShaper}
    (isNic : nic ∈ nics) {prio : Nat}
    (free : controller.filters.atPrio (nic.dev, nic.handleId) prio = [])
    (capped : controller.capOf appId nic.dev = some cap) :
    cap.prio ≠ prio := by
  obtain ⟨place, member, dev, handle⟩ := placed.onNic appId _ cap capped
  obtain rfl : place = nic :=
    List.inj_on_of_nodup_map distinct member isNic dev
  rintro rfl
  obtain ⟨_, _, _, _, -, -, -, alone⟩ := placed.installed appId _ cap capped
  rw [← handle, free] at alone
  cases alone

theorem CapsPlaced.installCap (placed : CapsPlaced config nics controller)
    (distinct : (nics.map NicShaper.dev).Nodup) {shaper : NicShaper}
    (isNic : ∃ nic ∈ nics, nic.dev = shaper.dev ∧
      nic.handleId = shaper.handleId)
    {appId : String}
    (free : controller.filters.atPrio (shaper.dev, shaper.handleId)
      (controller.capPrio appId) = [])
    {info : AppFilterInfo}
    {mark : Nat}
    {entry : String × NicRule}
    (found : controller.appFilterInfo.get? appId = some info)
    (marked : info.mark = some mark)
    (nic : (info.nics.find? fun nic => nic.1 = shaper.dev) = some entry) :
    CapsPlaced config nics
      (controller.installCap config shaper appId mark entry.2) := by
  obtain ⟨own, ownMember, ownDev, ownHandle⟩ := isNic
  have others : ∀ other cap, controller.capOf other shaper.dev = some cap →
      cap.prio ≠ controller.capPrio appId := by
    intro other cap capped
    rw [← ownDev] at capped
    rw [← ownDev, ← ownHandle] at free
    exact placed.prio_ne_of_free distinct ownMember free capped
  refine ⟨?_, ?_, ?_⟩
  · intro other dev cap capped
    rcases (capOf_installCap_eq_some_iff config).mp capped with
      ⟨here, rfl⟩ | ⟨-, before⟩
    · exact ⟨own, ownMember, ownDev.trans here.2.symm, ownHandle⟩
    · exact placed.onNic other dev cap before
  · intro other dev cap capped
    rcases (capOf_installCap_eq_some_iff config).mp capped with
      ⟨⟨rfl, rfl⟩, rfl⟩ | ⟨-, before⟩
    · refine ⟨info, mark, entry.1, entry.2, found, marked, nic, ?_⟩
      rw [NetworkController.installCap, TcFilters.atPrio_add,
        if_pos ⟨rfl, rfl⟩, free]
      rfl
    · obtain ⟨otherInfo, otherMark, place, rule, otherFound, otherMarked,
        otherNic, alone⟩ := placed.installed other dev cap before
      refine ⟨otherInfo, otherMark, place, rule, otherFound, otherMarked,
        otherNic, ?_⟩
      rw [NetworkController.installCap, TcFilters.atPrio_add, if_neg, alone]
      rintro ⟨parents, prios⟩
      obtain ⟨rfl, -⟩ := Prod.mk.inj parents
      exact others other cap before prios.symm
  · intro left right dev leftCap rightCap different leftCapped rightCapped
    rcases (capOf_installCap_eq_some_iff config).mp leftCapped with
      ⟨leftHere, rfl⟩ | ⟨-, leftBefore⟩ <;>
    rcases (capOf_installCap_eq_some_iff config).mp rightCapped with
      ⟨rightHere, rfl⟩ | ⟨-, rightBefore⟩
    · exact absurd (leftHere.1.trans rightHere.1.symm) different
    · obtain ⟨rfl, rfl⟩ := leftHere
      exact (others right rightCap rightBefore).symm
    · obtain ⟨rfl, rfl⟩ := rightHere
      exact others left leftCap leftBefore
    · exact placed.distinct left right dev leftCap rightCap different
        leftBefore rightBefore

/-! ## One evaluation, one removal -/

/-- One candidate of an evaluation. -/
def applyStep (config : NetworkConfig) (input : PressureInput)
    (shaper : NicShaper) (controller : NetworkController)
    (appId : String) : NetworkController :=
  (controller.applyAppPpsCap config input shaper appId).2

/-- If the app gets a cap, nothing on the NIC has its priority yet. -/
def FindsFree (config : NetworkConfig) (input : PressureInput)
    (shaper : NicShaper) (controller : NetworkController)
    (appId : String) : Prop :=
  GetsCap config input controller shaper appId →
    controller.filters.atPrio (shaper.dev, shaper.handleId)
      (controller.capPrio appId) = []

instance decidableFindsFree (shaper : NicShaper) (appId : String) :
    Decidable (FindsFree config input shaper controller appId) :=
  inferInstanceAs (Decidable (_ → _))

theorem applyCaps_snd (controller : NetworkController) (shaper : NicShaper)
    (candidates : List String) :
    (controller.applyCaps config input shaper candidates).2 =
      Runs.run (applyStep config input shaper) controller candidates := by
  have general : ∀ (applied : Bool) (controller : NetworkController),
      (candidates.foldl (fun (result : Bool × NetworkController) appId =>
        let next := result.2.applyAppPpsCap config input shaper appId
        (result.1 || next.1, next.2)) (applied, controller)).2 =
        Runs.run (applyStep config input shaper) controller candidates := by
    induction candidates with
    | nil => exact fun _ _ => rfl
    | cons appId candidates ih =>
      intro applied controller
      rw [List.foldl_cons, ih]
      rfl
  exact general false controller

/-- The caps that are there. -/
structure KeepsCaps (after before : NetworkController) : Prop where
  capOf : ∀ appId dev cap, before.capOf appId dev = some cap →
    after.capOf appId dev = some cap

theorem SameCaps.keepsCaps (same : SameCaps after before) :
    KeepsCaps after before :=
  ⟨fun appId dev _ capped => (same.capOf appId dev).trans capped⟩

/-- Applying a cap takes none away. -/
theorem keepsCaps_applyStep (controller : NetworkController)
    (shaper : NicShaper) (appId : String) :
    KeepsCaps (applyStep config input shaper controller appId) controller := by
  rcases applyAppPpsCap_cases config input controller shaper appId with
    same | ⟨gets, info, mark, dev, rule, -, -, -, applied⟩
  · exact same.keepsCaps
  · constructor
    intro other otherDev cap capped
    rw [applyStep, applied, capOf_installCap, if_neg]
    · exact capped
    · rintro ⟨rfl, rfl⟩
      rw [gets.2.2.1] at capped
      cases capped

theorem CapsPlaced.applyStep {input : PressureInput}
    (placed : CapsPlaced config nics controller)
    (distinct : (nics.map NicShaper.dev).Nodup) {shaper : NicShaper}
    (isNic : ∃ nic ∈ nics, nic.dev = shaper.dev ∧
      nic.handleId = shaper.handleId)
    {appId : String}
    (free : FindsFree config input shaper controller appId) :
    CapsPlaced config nics
      (applyStep config input shaper controller appId) := by
  rcases applyAppPpsCap_cases config input controller shaper appId with
    same | ⟨gets, info, mark, dev, rule, found, marked, nic, applied⟩
  · exact same.capsPlaced placed
  · rw [NetworkController.applyStep, applied]
    exact placed.installCap distinct isNic (free gets) found marked nic

theorem sameCaps_throttleRx (input : PressureInput) (shaper : NicShaper)
    (controller : NetworkController) :
    SameCaps (throttleRx config input shaper controller).2 controller := by
  unfold throttleRx
  split
  · obtain ⟨files, states, same⟩ :=
      controller.exists_escalateRx_eq config input.receive shaper.dev
    rw [same]
    exact ⟨fun _ _ => rfl, rfl, rfl⟩
  split
  · exact ⟨fun _ _ => rfl, rfl, rfl⟩
  split
  · obtain ⟨files, states, same⟩ :=
      controller.exists_restoreRx_eq input.receive shaper.dev
    rw [same]
    exact ⟨fun _ _ => rfl, rfl, rfl⟩
  · exact ⟨fun _ _ => rfl, rfl, rfl⟩

theorem sameCaps_restoreTxPressure (input : PressureInput) (shaper : NicShaper)
    (controller : NetworkController) :
    SameCaps (restoreTxPressure config input shaper controller).2
      controller := by
  unfold restoreTxPressure
  split <;> exact ⟨fun _ _ => rfl, rfl, rfl⟩

theorem sameCaps_restoreRxPressure (input : PressureInput) (shaper : NicShaper)
    (controller : NetworkController) :
    SameCaps (restoreRxPressure config input shaper controller).2
      controller := by
  unfold restoreRxPressure
  split <;> exact ⟨fun _ _ => rfl, rfl, rfl⟩

theorem sameCaps_handleNetworkPressure (input : PressureInput)
    (shaper : NicShaper) (controller : NetworkController) :
    SameCaps (handleNetworkPressure config input shaper controller).2
      (throttleTx config input shaper controller).2 := by
  apply (sameCaps_restoreRxPressure input _ _).trans
  apply (sameCaps_restoreTxPressure input _ _).trans
  exact sameCaps_throttleRx input _ _

/-- A NIC under transmit pressure, of one kind or the other. -/
def TxPressed (config : NetworkConfig) (input : PressureInput) : Prop :=
  input.TxPpsGateActive config ∨ input.txPressure = .critical

/-- A new cap finds its priority unused, and a NIC is calm only while no other
NIC has caps. -/
def FreeCaps (config : NetworkConfig) (controller : NetworkController)
    (shaper : NicShaper) (input : PressureInput) : Prop :=
  if input.TxPpsGateActive config then
    Runs.EveryStep (applyStep config input shaper)
      (FindsFree config input shaper) controller
      (controller.evaluateTxPpsGate config input)
  else
    input.txPressure = .critical ∨
      ∀ live ∈ controller.liveCaps, live.2.1 = shaper.dev

/-- An app that is removed while others have caps has an id, and none of its
filters has the priority of another app's cap. -/
def FreeRemoval (controller : NetworkController) (appId : String) : Prop :=
  match controller.appFilterInfo.get? appId with
  | none => True
  | some info => ∀ live ∈ controller.liveCaps, live.1 ≠ appId → appId ≠ "" ∧
        ((live.2.1, live.2.2.handleId), live.2.2.prio) ∉ info.slots

instance decidableTxPressed (input : PressureInput) :
    Decidable (TxPressed config input) :=
  inferInstanceAs (Decidable (_ ∨ _))

instance decidableFreeCaps (shaper : NicShaper) (input : PressureInput) :
    Decidable (FreeCaps config controller shaper input) :=
  if active : input.TxPpsGateActive config then
    decidable_of_iff (Runs.EveryStep (applyStep config input shaper)
      (FindsFree config input shaper) controller
      (controller.evaluateTxPpsGate config input)) (by
        rw [FreeCaps, if_pos active])
  else
    decidable_of_iff (input.txPressure = .critical ∨
      ∀ live ∈ controller.liveCaps, live.2.1 = shaper.dev) (by
        rw [FreeCaps, if_neg active])

instance decidableFreeRemoval (appId : String) :
    Decidable (controller.FreeRemoval appId) :=
  match found : controller.appFilterInfo.get? appId with
  | none => .isTrue (by rw [FreeRemoval, found]; trivial)
  | some info =>
    decidable_of_iff (∀ live ∈ controller.liveCaps, live.1 ≠ appId →
      appId ≠ "" ∧
        ((live.2.1, live.2.2.handleId), live.2.2.prio) ∉ info.slots) (by
          rw [FreeRemoval, found])

theorem CapsPlaced.handleNetworkPressure {input : PressureInput}
    (placed : CapsPlaced config nics controller)
    (distinct : (nics.map NicShaper.dev).Nodup) {shaper : NicShaper}
    (isNic : ∃ nic ∈ nics, nic.dev = shaper.dev ∧
      nic.handleId = shaper.handleId)
    (free : FreeCaps config controller shaper input) :
    CapsPlaced config nics
      (handleNetworkPressure config input shaper controller).2 := by
  apply (sameCaps_handleNetworkPressure input shaper controller).capsPlaced
  unfold throttleTx
  split
  · next active =>
    rw [FreeCaps, if_pos active] at free
    rw [applyCaps_snd]
    exact Runs.invariant_run (CapsPlaced config nics)
      (fun _ _ placed free => placed.applyStep distinct isNic free) placed free
  split
  · have same : SameCaps { controller with
        classes := (shaper.applyBandwidthLimit config controller.classes
          .egress input.egressRates).2 } controller :=
      ⟨fun _ _ => rfl, rfl, rfl⟩
    exact same.capsPlaced placed
  split
  · exact capsPlaced_of_uncapped fun appId dev => capOf_clear_all appId dev
  · exact placed

/-- A NIC keeps its caps under pressure, and those of other NICs anyway. -/
theorem FreeCaps.keeps {input : PressureInput}
    (free : FreeCaps config controller shaper input)
    (capped : controller.capOf appId dev = some cap)
    (pressed : shaper.dev = dev → TxPressed config input) :
    (handleNetworkPressure config input shaper controller).2.capOf appId dev =
      some cap := by
  rw [(sameCaps_handleNetworkPressure input shaper controller).capOf]
  unfold throttleTx
  split
  · rw [applyCaps_snd]
    exact (List.foldlRecOn _ (applyStep config input shaper)
      (motive := fun after => KeepsCaps after controller)
      ⟨fun _ _ _ capped => capped⟩ fun between kept appId _ =>
        ⟨fun other dev cap capped =>
          (keepsCaps_applyStep input between shaper appId).capOf other
            dev cap (kept.capOf other dev cap capped)⟩).capOf appId dev cap
              capped
  next inactive =>
  split
  · exact capped
  next unlimited =>
  split
  · next calm =>
    rw [FreeCaps, if_neg inactive] at free
    have own := free.resolve_left calm _
      ((mem_liveCaps_iff controller appId dev cap).mpr capped)
    exact absurd ((pressed own.symm).resolve_left inactive) calm
  · exact capped

theorem clearAppPpsCap_of_ne (named : appId ≠ "") :
    controller.clearAppPpsCap (some appId) = controller.clearCapsOf appId := by
  rw [clearAppPpsCap, if_pos named]

theorem CapsPlaced.remove (placed : CapsPlaced config nics controller)
    (free : controller.FreeRemoval appId) :
    CapsPlaced config nics (controller.removeAppNetworkRules appId) := by
  cases found : controller.appFilterInfo.get? appId with
  | none => rwa [removeAppNetworkRules_of_none _ _ found]
  | some info =>
    have caps := caps_remove controller appId found
    by_cases named : appId = ""
    · apply capsPlaced_of_uncapped
      intro other dev
      rw [capOf_congr caps, clearAppPpsCap, if_neg (not_not.mpr named)]
      exact capOf_clear_all other dev
    · have filters := filters_remove controller appId found
      rw [clearAppPpsCap_of_ne named] at caps filters
      rw [FreeRemoval, found] at free
      apply (placed.clearCapsOf appId).of_deleteSlots filters
      intro other dev cap capped
      rw [capOf_congr caps] at capped
      obtain ⟨different, before⟩ := capOf_clearCapsOf_eq_some_iff.mp capped
      refine ⟨capped, ?_, ?_⟩
      · rw [info_remove, if_neg different]
        rfl
      · exact (free _ ((mem_liveCaps_iff controller other dev cap).mpr
          before) different).2

theorem FreeRemoval.keeps (free : controller.FreeRemoval appId)
    (capped : controller.capOf other dev = some cap)
    (different : other ≠ appId) :
    (controller.removeAppNetworkRules appId).capOf other dev = some cap := by
  cases found : controller.appFilterInfo.get? appId with
  | none => rwa [removeAppNetworkRules_of_none _ _ found]
  | some info =>
    rw [FreeRemoval, found] at free
    have named := (free _ ((mem_liveCaps_iff controller other dev cap).mpr
      capped) different).1
    rw [capOf_congr (caps_remove controller appId found),
      clearAppPpsCap_of_ne named, capOf_clearCapsOf_eq_some_iff]
    exact ⟨different, capped⟩

end NetworkController

/-! ## Runs -/

namespace NetworkSystem

open NetworkController

variable {config : NetworkConfig} {nics : List NicShaper}
  {state : NetworkSystem}

/-- Evaluations and removals do not disturb caps. -/
def FreeStep (config : NetworkConfig) (state : NetworkSystem) :
    NetworkLabel → Prop
  | .evaluate nic input =>
    match state.shapers[nic]? with
    | none => True
    | some shaper => FreeCaps config state.controller shaper input
  | .remove appId => state.controller.FreeRemoval appId

instance decidableFreeStep (label : NetworkLabel) :
    Decidable (FreeStep config state label) :=
  match label with
  | .remove appId => inferInstanceAs
      (Decidable (state.controller.FreeRemoval appId))
  | .evaluate nic input =>
    match found : state.shapers[nic]? with
    | none => .isTrue (by simp only [FreeStep, found])
    | some shaper =>
      decidable_of_iff (FreeCaps config state.controller shaper input) (by
        simp only [FreeStep, found])

/-- An app stays, and if a device is evaluated it is under transmit
pressure. -/
def Presses (config : NetworkConfig) (nics : List NicShaper)
    (appId dev : String) : NetworkLabel → Prop
  | .evaluate nic input => ∀ shaper, nics[nic]? = some shaper →
      shaper.dev = dev → TxPressed config input
  | .remove other => other ≠ appId

/-- Once an app has a cap on a device, it stays and is installed as long as
every evaluation of that device finds transmit pressure. -/
def CapsStay (config : NetworkConfig) (nics : List NicShaper)
    (start : NetworkSystem) (labels : List NetworkLabel) : Prop :=
  ∀ first second, labels = first ++ second → ∀ appId dev cap,
    (Runs.run (step config) start first).controller.capOf appId dev = some cap →
    (∀ label ∈ second, Presses config nics appId dev label) →
    (Runs.run (step config) start labels).controller.capOf appId dev =
        some cap ∧
      CapInstalled config (Runs.run (step config) start labels).controller
        appId dev cap

/-- The caps are in place on the NICs. -/
structure Capped (config : NetworkConfig) (nics : List NicShaper)
    (state : NetworkSystem) : Prop where
  identity : state.shapers.map NicShaper.identity = nics.map NicShaper.identity
  placed : CapsPlaced config nics state.controller

theorem Capped.nic (capped : Capped config nics state) {index : Nat}
    {shaper : NicShaper} (found : state.shapers[index]? = some shaper) :
    ∃ nic, nics[index]? = some nic ∧ shaper.identity = nic.identity := by
  have entry := congrArg (·[index]?) capped.identity
  simp only [List.getElem?_map, found, Option.map_some] at entry
  obtain ⟨nic, isNic, same⟩ := Option.map_eq_some_iff.mp entry.symm
  exact ⟨nic, isNic, same.symm⟩

theorem dev_of_identity {left right : NicShaper}
    (same : left.identity = right.identity) :
    left.dev = right.dev :=
  NicShaper.device_congr same .egress

theorem Capped.step (capped : Capped config nics state)
    (distinct : (nics.map NicShaper.dev).Nodup) {label : NetworkLabel}
    (free : FreeStep config state label) :
    Capped config nics (state.step config label) := by
  cases label with
  | remove appId => exact ⟨capped.identity, capped.placed.remove free⟩
  | evaluate index input =>
    cases found : state.shapers[index]? with
    | none => rwa [step_evaluate_of_none config found]
    | some shaper =>
      rw [step_evaluate config found]
      obtain ⟨nic, isNic, same⟩ := capped.nic found
      simp only [FreeStep, found] at free
      refine ⟨(identity_set found
        (identity_handleNetworkPressure config input _ _)).trans
          capped.identity, ?_⟩
      exact capped.placed.handleNetworkPressure distinct
        ⟨nic, List.mem_of_getElem? isNic, dev_of_identity same.symm,
          NicShaper.handle_congr same.symm .egress⟩ free

theorem Capped.keeps (capped : Capped config nics state) {label : NetworkLabel}
    (free : FreeStep config state label) {appId dev : String} {cap : PpsCap}
    (live : state.controller.capOf appId dev = some cap)
    (presses : Presses config nics appId dev label) :
    (state.step config label).controller.capOf appId dev = some cap := by
  cases label with
  | remove other => exact free.keeps live (Ne.symm presses)
  | evaluate index input =>
    cases found : state.shapers[index]? with
    | none => rwa [step_evaluate_of_none config found]
    | some shaper =>
      rw [step_evaluate config found]
      obtain ⟨nic, isNic, same⟩ := capped.nic found
      simp only [FreeStep, found] at free
      apply free.keeps live
      intro here
      exact presses nic isNic ((dev_of_identity same.symm).trans here)

theorem Capped.stays (capped : Capped config nics state)
    (distinct : (nics.map NicShaper.dev).Nodup) {labels : List NetworkLabel}
    (free : Runs.EveryStep (NetworkSystem.step config) (FreeStep config) state
      labels)
    {appId dev : String}
    {cap : PpsCap}
    (live : state.controller.capOf appId dev = some cap)
    (presses : ∀ label ∈ labels, Presses config nics appId dev label) :
    (Runs.run (NetworkSystem.step config) state labels).controller.capOf appId
        dev = some cap ∧
      CapInstalled config
        (Runs.run (NetworkSystem.step config) state labels).controller appId
        dev cap := by
  induction labels generalizing state with
  | nil => exact ⟨live, capped.placed.installed appId dev cap live⟩
  | cons label labels ih =>
    rw [List.forall_mem_cons] at presses
    exact ih (capped.step distinct free.1) free.2
      (capped.keeps free.1 live presses.1) presses.2

/-- With no caps yet. -/
def uncapped (controller : NetworkController)
    (monitors : OrderedDict String Int) : NetworkSystem where
  controller := { controller with appPpsCaps := .empty }
  shapers := buildShapers monitors

/-- As long as new caps find their priorities unused and NICs are calm only
while no other NIC has caps, caps are apart and stay. -/
theorem caps_stay (controller : NetworkController) (config : NetworkConfig)
    (monitors : OrderedDict String Int) (labels : List NetworkLabel)
    (free : Runs.EveryStep (step config) (FreeStep config)
      (uncapped controller monitors) labels) :
    Runs.EveryPrefix (step config)
        (fun state => CapsApart config state.controller)
        (uncapped controller monitors) labels ∧
      CapsStay config (buildShapers monitors) (uncapped controller monitors)
        labels := by
  have distinct := NicShaper.nodup_dev_buildShapers monitors
  have initially : Capped config (buildShapers monitors)
      (uncapped controller monitors) :=
    ⟨rfl, capsPlaced_of_uncapped fun _ _ => rfl⟩
  constructor
  · exact Runs.everyPrefix_of_invariant (Capped config (buildShapers monitors))
      (fun _ _ capped free => capped.step distinct free)
      (fun _ capped => capped.placed.capsApart) initially free
  · rintro first second rfl appId dev cap live presses
    rw [Runs.everyStep_append] at free
    have between := Runs.invariant_run (Capped config (buildShapers monitors))
      (fun _ _ capped free => capped.step distinct free) initially free.1
    rw [Runs.run_append]
    exact between.stays distinct free.2 live presses

/-! ### Two NICs -/

def twoNics : OrderedDict String Int :=
  ⟨[("eth0", 1000000), ("eth1", 1000000)], by simp⟩

/-- Two apps of the low tier and one of the critical tier. -/
def threeApps : OrderedDict String NetworkApp :=
  ⟨[("a", ⟨none, some "low", []⟩), ("b", ⟨none, some "low", []⟩),
    ("c", ⟨none, some "critical", []⟩)], by simp⟩

/-- The apps on the NICs. -/
def threeAppsStart : NetworkController :=
  (init (fun _ _ => none) (fun _ => []) [] fun _ => "0").updateAppNetworkControl
    (buildShapers twoNics) .least .sorted threeApps

/-- A NIC whose transmit side is harmed, with some apps that send too much, or
that is calm. -/
def report (txPressure : PressureLevel) (harm : ℚ)
    (flooding : List String) : PressureInput where
  txPressure := txPressure
  rxPressure := .low
  ingressRates _ := 0
  egressRates _ := 0
  tx := 1
  rx := 0
  txCollectiveHarm := harm
  rxCollectiveHarm := 0
  softirqHarm := 0
  appPps appId := if appId ∈ flooding then some 60000 else none
  pktPoliceSupported := true
  receive := ⟨fun _ => [], "f", fun _ => true, fun _ => true⟩
  clock _ := 100

/-- Caps on one NIC, while the other is shaped and an app is removed. -/
theorem caps_stay_twoNics :
    Runs.EveryPrefix (step (.standard true))
        (fun state => CapsApart (.standard true) state.controller)
        (uncapped threeAppsStart twoNics)
        [.evaluate 0 (report .critical 1 ["a", "b"]),
          .evaluate 1 (report .critical 0 []), .remove "b"] ∧
      CapsStay (.standard true) (buildShapers twoNics)
        (uncapped threeAppsStart twoNics)
        [.evaluate 0 (report .critical 1 ["a", "b"]),
          .evaluate 1 (report .critical 0 []), .remove "b"] :=
  caps_stay threeAppsStart (.standard true) twoNics _ (by decide +kernel)

/-- On the second NIC two apps get caps of one priority, and a calm NIC clears
the caps of another. -/
theorem caps_meet :
    (¬∀ (controller : NetworkController) (config : NetworkConfig)
        (monitors : OrderedDict String Int) (labels : List NetworkLabel),
      Runs.EveryPrefix (step config)
        (fun state => CapsApart config state.controller)
        (uncapped controller monitors) labels) ∧
    ¬∀ (controller : NetworkController) (config : NetworkConfig)
        (monitors : OrderedDict String Int) (labels : List NetworkLabel),
      CapsStay config (buildShapers monitors) (uncapped controller monitors)
        labels := by
  constructor
  · intro apart
    have caps : ∀ appId ∈ ["a", "b"],
        (Runs.run (step (.standard true)) (uncapped threeAppsStart twoNics)
          [.evaluate 0 (report .critical 1 ["a", "b"]),
            .evaluate 1 (report .critical 1 ["a", "b"])]).controller.capOf
              appId "eth1" = some ⟨3021, 52⟩ := by
      decide +kernel
    exact (apart threeAppsStart (.standard true) twoNics _).finally.distinct
      "a" "b" "eth1" _ _ (by decide) (caps "a" (by simp)) (caps "b" (by simp))
      rfl
  · intro stay
    have before : (Runs.run (step (.standard true))
        (uncapped threeAppsStart twoNics)
        [.evaluate 0 (report .critical 1 ["a"])]).controller.capOf "a" "eth0" =
          some ⟨3010, 50⟩ := by
      decide +kernel
    have after : (Runs.run (step (.standard true))
        (uncapped threeAppsStart twoNics)
        [.evaluate 0 (report .critical 1 ["a"]),
          .evaluate 1 (report .low 0 [])]).controller.capOf "a" "eth0" =
          none := by
      decide +kernel
    have kept := (stay threeAppsStart (.standard true) twoNics _
      [.evaluate 0 (report .critical 1 ["a"])] [.evaluate 1 (report .low 0 [])]
      rfl "a" "eth0" _ before (by
        intro label isLabel
        obtain rfl := List.mem_singleton.mp isLabel
        intro shaper found here
        obtain rfl := Option.some.inj found
        exact absurd here (by decide))).1
    rw [List.singleton_append, after] at kept
    cases kept

end NetworkSystem

end SmarTune
