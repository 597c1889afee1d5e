import SmarTune.Network.Marks

/-!
# Mark rules

The OUTPUT chain holds what it held before and the mark rules of the apps,
however apps come and go.  The CONNMARK rule is only moved, provided that there
was one before: a rule that an update adds is there for good.
-/

namespace SmarTune

def AppFilterInfo.markRules (info : AppFilterInfo) : List IptablesRule :=
  match info.mark with
  | none => []
  | some mark => (sortedPaths info.cgroupPaths).map fun path =>
    .setMark path mark

theorem AppFilterInfo.count_saveMark_markRules (info : AppFilterInfo) :
    info.markRules.count .saveMark = 0 := by
  rw [List.count_eq_zero, AppFilterInfo.markRules]
  split <;> simp

namespace NetworkController

variable {controller : NetworkController} {before : List IptablesRule}

def markRules (controller : NetworkController) : List IptablesRule :=
  controller.appFilterInfo.entries.flatMap fun entry => entry.2.markRules

/-- The chain holds what it held before and the mark rules of the apps. -/
def RulesKept (before : List IptablesRule)
    (controller : NetworkController) : Prop :=
  ∀ rule, controller.iptables.count rule =
    before.count rule + controller.markRules.count rule

variable {other : NetworkController} {appId : String} {info : AppFilterInfo}

theorem markRules_congr
    (same : other.appFilterInfo = controller.appFilterInfo) :
    other.markRules = controller.markRules := by
  rw [markRules, same, markRules]

theorem RulesKept.congr (kept : RulesKept before controller)
    (iptables : other.iptables = controller.iptables)
    (apps : other.appFilterInfo = controller.appFilterInfo) :
    RulesKept before other := by
  intro rule
  rw [iptables, markRules_congr apps]
  exact kept rule

theorem count_saveMark_markRules (controller : NetworkController) :
    controller.markRules.count .saveMark = 0 := by
  rw [List.count_eq_zero, markRules, List.mem_flatMap]
  rintro ⟨entry, -, member⟩
  exact List.count_eq_zero.mp entry.2.count_saveMark_markRules member

theorem count_markRules_erase
    (found : controller.appFilterInfo.get? appId = some info)
    (erased : other.appFilterInfo = controller.appFilterInfo.erase appId)
    (rule : IptablesRule) :
    controller.markRules.count rule =
      info.markRules.count rule + other.markRules.count rule := by
  obtain ⟨older, younger, split, left, -⟩ := OrderedDict.exists_split found
  rw [markRules, markRules, erased, split, left]
  simp only [List.flatMap_append, List.flatMap_cons, List.count_append]
  omega

/-- Those of a new app join them. -/
theorem count_markRules_set
    (absent : controller.appFilterInfo.get? appId = none)
    (set : other.appFilterInfo = controller.appFilterInfo.set appId info)
    (rule : IptablesRule) :
    other.markRules.count rule =
      controller.markRules.count rule + info.markRules.count rule := by
  rw [markRules, markRules, set, OrderedDict.entries_set_of_get?_eq_none absent]
  simp only [List.flatMap_append, List.flatMap_cons, List.flatMap_nil,
    List.append_nil, List.count_append]

theorem deleteMarkRules_eq_diff (rules : List IptablesRule)
    (entry : String × AppFilterInfo) :
    deleteMarkRules rules entry = rules.diff entry.2.markRules := by
  rw [List.diff_eq_foldl, AppFilterInfo.markRules, deleteMarkRules]
  cases entry.2.mark with
  | none => rfl
  | some mark => rw [List.foldl_map]

theorem teardown_eq_diff (controller : NetworkController) :
    controller.appFilterInfo.entries.foldl deleteMarkRules controller.iptables =
      controller.iptables.diff controller.markRules := by
  rw [List.diff_eq_foldl, markRules, List.foldl_flatMap]
  congr 1
  funext rules entry
  rw [deleteMarkRules_eq_diff, List.diff_eq_foldl]

theorem RulesKept.teardown (kept : RulesKept before controller)
    (shapers : List NicShaper) (rule : IptablesRule) :
    (controller.teardownAll shapers).iptables.count rule =
      before.count rule := by
  have own := kept rule
  simp only [teardownAll, teardown_eq_diff, List.count_diff]
  omega

/-! ## Updates -/

/-- The receive path and its escalation stay as they are. -/
structure SameRx (after before : NetworkController) : Prop where
  files : after.files = before.files
  rxEscalationState : after.rxEscalationState = before.rxEscalationState

theorem SameRx.trans {after middle before : NetworkController}
    (second : SameRx after middle) (first : SameRx middle before) :
    SameRx after before :=
  ⟨second.files.trans first.files,
    second.rxEscalationState.trans first.rxEscalationState⟩

/-- Caps are about neither iptables nor the receive path. -/
theorem clearAppPpsCap_apart (controller : NetworkController)
    (appId : Option String) :
    (controller.clearAppPpsCap appId).iptables = controller.iptables ∧
      SameRx (controller.clearAppPpsCap appId) controller := by
  obtain ⟨filters, caps, same⟩ := controller.exists_clearAppPpsCap_eq appId
  rw [same]
  exact ⟨rfl, rfl, rfl⟩

theorem RulesKept.remove (kept : RulesKept before controller) (appId : String) :
    RulesKept before (controller.removeAppNetworkRules appId) ∧
      SameRx (controller.removeAppNetworkRules appId) controller := by
  cases found : controller.appFilterInfo.get? appId with
  | none =>
    rw [removeAppNetworkRules, found]
    exact ⟨kept, rfl, rfl⟩
  | some info =>
    obtain ⟨iptables, same⟩ :=
      controller.clearAppPpsCap_apart (some appId)
    have apps := controller.sameApps_clearAppPpsCap (some appId)
    have erased : (controller.removeAppNetworkRules appId).appFilterInfo =
        controller.appFilterInfo.erase appId := by
      simp only [removeAppNetworkRules, found, apps.appFilterInfo]
    have rules : (controller.removeAppNetworkRules appId).iptables =
        deleteMarkRules controller.iptables (appId, info) := by
      cases marked : info.mark <;>
        simp only [removeAppNetworkRules, found, iptables, deleteMarkRules,
          marked]
    constructor
    · intro rule
      have own := kept rule
      have parts := count_markRules_erase found erased rule
      rw [rules, deleteMarkRules_eq_diff, List.count_diff]
      dsimp only
      omega
    · rw [removeAppNetworkRules, found]
      exact ⟨same.files, same.rxEscalationState⟩

theorem RulesKept.add (kept : RulesKept before controller)
    (shapers : List NicShaper) (choice : IdChoice)
    (absent : controller.appFilterInfo.get? appId = none) (app : NetworkApp)
    (index : Nat) :
    RulesKept before
        (controller.addAppNetworkRules shapers choice appId app index) ∧
      SameRx (controller.addAppNetworkRules shapers choice appId app index)
        controller := by
  unfold addAppNetworkRules
  split
  · refine ⟨fun rule => ?_, rfl, rfl⟩
    rw [count_markRules_set absent rfl, kept rule]
    rfl
  · refine ⟨fun rule => ?_, rfl, rfl⟩
    rw [count_markRules_set absent rfl, List.count_append, kept rule,
      Nat.add_assoc]
    rfl

theorem RulesKept.moveSaveMark (kept : RulesKept before controller)
    (present : IptablesRule.saveMark ∈ before) :
    RulesKept before controller.moveSaveMark := by
  intro rule
  have there : IptablesRule.saveMark ∈ controller.iptables := by
    rw [← List.count_pos_iff, kept .saveMark]
    exact Nat.add_pos_left (List.count_pos_iff.mpr present) _
  have moved : (controller.iptables.erase .saveMark ++
      [IptablesRule.saveMark]).Perm
      controller.iptables :=
    (List.perm_append_singleton _ _).trans (List.perm_cons_erase there).symm
  exact (moved.count_eq rule).trans (kept rule)

theorem RulesKept.updateApp (kept : RulesKept before controller)
    (present : IptablesRule.saveMark ∈ before) (shapers : List NicShaper)
    (choice : IdChoice) (entry : (String × NetworkApp) × Nat) :
    RulesKept before (updateApp shapers choice controller entry) ∧
      SameRx (NetworkController.updateApp shapers choice controller entry)
        controller := by
  unfold NetworkController.updateApp
  simp only
  split
  · obtain ⟨removed, sameRemoved⟩ := kept.remove entry.1.1
    have absent : (controller.removeAppNetworkRules
        entry.1.1).appFilterInfo.get? entry.1.1 = none := by
      rw [info_remove, if_pos rfl]
    obtain ⟨added, sameAdded⟩ :=
      removed.add shapers choice absent entry.1.2 entry.2
    obtain ⟨files, state⟩ := sameAdded.trans sameRemoved
    exact ⟨added.moveSaveMark present, files, state⟩
  · exact ⟨kept.moveSaveMark present, rfl, rfl⟩

theorem RulesKept.update (kept : RulesKept before controller)
    (shapers : List NicShaper) (choice : IdChoice) (order : SetOrder String)
    {apps : OrderedDict String NetworkApp}
    (present : apps.entries = [] ∨ IptablesRule.saveMark ∈ before) :
    RulesKept before
        (controller.updateAppNetworkControl shapers choice order apps) ∧
      SameRx (controller.updateAppNetworkControl shapers choice order apps)
        controller := by
  have removals : ∀ gone : List String,
      RulesKept before (gone.foldl removeAppNetworkRules controller) ∧
        SameRx (gone.foldl removeAppNetworkRules controller) controller :=
    fun gone => List.foldlRecOn gone removeAppNetworkRules
      (motive := fun after =>
        RulesKept before after ∧ SameRx after controller)
      ⟨kept, rfl, rfl⟩ fun _ both appId _ =>
        ⟨(both.1.remove appId).1, (both.1.remove appId).2.trans both.2⟩
  unfold updateAppNetworkControl
  rcases present with none | present
  · rw [none]
    exact removals _
  · exact List.foldlRecOn _ (NetworkController.updateApp shapers choice)
      (motive := fun after =>
        RulesKept before after ∧ SameRx after controller)
      (removals _) fun _ both entry _ =>
        ⟨(both.1.updateApp present shapers choice entry).1,
          (both.1.updateApp present shapers choice entry).2.trans both.2⟩

end NetworkController

end SmarTune
