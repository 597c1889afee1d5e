import SmarTune.Library.Runs
import SmarTune.Network.Setup

/-!
# Marks

The marks of the apps are a pool of identifiers: 4096 of them to start with,
and more made up once these are taken.  However apps come, go and change, no
two apps share a mark and no app's mark is free.
-/

namespace SmarTune

namespace NetworkController

variable {controller : NetworkController}

/-- The free marks and the apps that hold the others. -/
def marks (controller : NetworkController) : IdPool String :=
  ⟨controller.markPool, controller.appMarkMap⟩

/-- The mark recorded for an app with its filters. -/
def markOf (controller : NetworkController) (appId : String) : Option Nat :=
  (controller.appFilterInfo.get? appId).bind AppFilterInfo.mark

/-! ## Caps do not matter -/

/-- Two controllers agree on the apps. -/
structure SameApps (left right : NetworkController) : Prop where
  markPool : left.markPool = right.markPool
  appMarkMap : left.appMarkMap = right.appMarkMap
  appFilterInfo : left.appFilterInfo = right.appFilterInfo

theorem sameApps_clearAppPpsCap (controller : NetworkController)
    (appId : Option String) :
    SameApps (controller.clearAppPpsCap appId) controller := by
  obtain ⟨filters, caps, same⟩ := controller.exists_clearAppPpsCap_eq appId
  rw [same]
  exact ⟨rfl, rfl, rfl⟩

/-! ## The pool of marks -/

/-- The map of the marks is the one recorded with the filters. -/
def MapsMarks (controller : NetworkController) : Prop :=
  ∀ appId, controller.appMarkMap.get? appId = controller.markOf appId

/-- No app shares its mark, and no mark is lost. -/
structure MarksSound (controller : NetworkController) : Prop where
  maps : controller.MapsMarks
  sound : ∃ extra, controller.marks.Sound freshMarks 0x2000 extra

theorem below_freshMarks : IdPool.Below freshMarks 0x2000 := by
  intro mark member
  rw [freshMarks, Finset.mem_Ico] at member
  rw [freshMarks, Nat.card_Ico]
  omega

theorem info_remove (controller : NetworkController) (appId other : String) :
    (controller.removeAppNetworkRules appId).appFilterInfo.get? other =
      if other = appId then none
      else controller.appFilterInfo.get? other := by
  unfold removeAppNetworkRules
  cases found : controller.appFilterInfo.get? appId with
  | none =>
    by_cases here : other = appId
    · simp [here, found]
    · simp [here]
  | some info =>
    obtain ⟨-, -, same⟩ := controller.sameApps_clearAppPpsCap (some appId)
    simp only [same, OrderedDict.get?_erase]

variable {appId left right : String} {mark : Nat}

theorem info_remove_eq_some_iff {other : String} {info : AppFilterInfo} :
    (controller.removeAppNetworkRules appId).appFilterInfo.get? other =
        some info ↔
      other ≠ appId ∧ controller.appFilterInfo.get? other = some info := by
  rw [info_remove]
  split
  · next same => simp [same]
  · next different => simp [different]

theorem info_foldl_remove (controller : NetworkController) (gone : List String)
    (appId : String) :
    (gone.foldl removeAppNetworkRules controller).appFilterInfo.get? appId =
      if appId ∈ gone then none
      else controller.appFilterInfo.get? appId := by
  induction gone generalizing controller with
  | nil => simp
  | cons first rest ih =>
    rw [List.foldl_cons, ih, info_remove]
    by_cases here : appId = first <;> simp [here]

theorem markOf_remove (controller : NetworkController) (appId other : String) :
    (controller.removeAppNetworkRules appId).markOf other =
      if other = appId then none else controller.markOf other := by
  rw [markOf, info_remove]
  split <;> rfl

theorem marks_remove (maps : controller.MapsMarks) (appId : String) :
    (controller.removeAppNetworkRules appId).marks =
      controller.marks.giveBack appId := by
  have own := maps appId
  rw [markOf] at own
  unfold removeAppNetworkRules
  cases found : controller.appFilterInfo.get? appId with
  | none =>
    rw [found, Option.bind_none] at own
    simp only [marks, IdPool.giveBack, own,
      OrderedDict.erase_of_get?_eq_none own]
  | some info =>
    obtain ⟨pool, map, -⟩ := controller.sameApps_clearAppPpsCap (some appId)
    rw [found, Option.bind_some] at own
    simp only [marks, IdPool.giveBack, own, pool, map]
    cases info.mark <;> rfl

theorem MarksSound.remove (sound : controller.MarksSound) (appId : String) :
    (controller.removeAppNetworkRules appId).MarksSound := by
  have marks := marks_remove sound.maps appId
  obtain ⟨extra, pool⟩ := sound.sound
  refine ⟨fun other => ?_, extra, marks ▸ pool.giveBack appId⟩
  have map := congrArg IdPool.held marks
  rw [markOf_remove, ← sound.maps other]
  exact (congrArg (·.get? other) map).trans
    (OrderedDict.get?_erase _ appId other)

/-- An app without a mark is added to the system tier, or takes the next
mark. -/
theorem MarksSound.add (sound : controller.MarksSound)
    (shapers : List NicShaper) (choice : IdChoice)
    (unmarked : controller.markOf appId = none) (app : NetworkApp)
    (index : Nat) :
    (controller.addAppNetworkRules shapers choice appId app index).MarksSound
      := by
  unfold addAppNetworkRules
  split
  · refine ⟨fun other => ?_, sound.sound⟩
    have map := sound.maps other
    by_cases here : other = appId
    · subst here
      rw [unmarked] at map
      simpa [markOf] using map
    · simpa [markOf, OrderedDict.get?_set_of_ne, here] using map
  · refine ⟨fun other => ?_, ?_⟩
    · by_cases here : other = appId
      · subst here
        simp [markOf]
      · simpa [markOf, OrderedDict.get?_set_of_ne, here] using sound.maps other
    · obtain ⟨extra, pool⟩ := sound.sound
      exact pool.take below_freshMarks choice
        ((sound.maps appId).trans unmarked)

theorem owns_add (shapers : List NicShaper) (choice : IdChoice)
    (unmarked : controller.appMarkMap.get? appId = none) (app : NetworkApp)
    (index : Nat) (owns : controller.marks.Owns mark) :
    (controller.addAppNetworkRules shapers choice appId app index).marks.Owns
      mark := by
  unfold addAppNetworkRules
  split
  · exact owns
  · exact (IdPool.owns_take _ _ unmarked _).mpr (.inl owns)

theorem info_updateApp_of_ne (shapers : List NicShaper) (choice : IdChoice)
    (controller : NetworkController) (entry : (String × NetworkApp) × Nat)
    (different : appId ≠ entry.1.1) :
    (NetworkController.updateApp shapers choice controller
        entry).appFilterInfo.get? appId =
      controller.appFilterInfo.get? appId := by
  unfold NetworkController.updateApp
  simp only
  split
  · have removed := info_remove controller entry.1.1 appId
    rw [if_neg different] at removed
    rw [← removed]
    unfold addAppNetworkRules
    split <;> simp [moveSaveMark, OrderedDict.get?_set_of_ne, different]
  · rfl

theorem info_foldl_updateApp_of_not_mem (shapers : List NicShaper)
    (choice : IdChoice) (controller : NetworkController)
    {entries : List ((String × NetworkApp) × Nat)}
    (absent : appId ∉ entries.map fun entry => entry.1.1) :
    (entries.foldl (NetworkController.updateApp shapers choice)
        controller).appFilterInfo.get? appId =
      controller.appFilterInfo.get? appId := by
  induction entries generalizing controller with
  | nil => rfl
  | cons first rest ih =>
    rw [List.map_cons, List.mem_cons, not_or] at absent
    rw [List.foldl_cons, ih _ absent.2,
      info_updateApp_of_ne shapers choice controller first absent.1]

theorem MarksSound.updateApp (sound : controller.MarksSound)
    (shapers : List NicShaper) (choice : IdChoice)
    (entry : (String × NetworkApp) × Nat) :
    (updateApp shapers choice controller entry).MarksSound := by
  have changed : (if controller.Reinstalls entry.1.1 entry.1.2 then
      (controller.removeAppNetworkRules entry.1.1).addAppNetworkRules shapers
        choice entry.1.1 entry.1.2 entry.2
      else controller).MarksSound := by
    split
    · apply (sound.remove entry.1.1).add
      rw [markOf_remove, if_pos rfl]
    · exact sound
  exact ⟨changed.maps, changed.sound⟩

theorem MarksSound.update (sound : controller.MarksSound)
    (shapers : List NicShaper) (choice : IdChoice) (order : SetOrder String)
    (apps : OrderedDict String NetworkApp) :
    (controller.updateAppNetworkControl shapers choice order apps).MarksSound
      := by
  have removals : ∀ gone : List String,
      (gone.foldl removeAppNetworkRules controller).MarksSound := by
    intro gone
    exact List.foldlRecOn gone removeAppNetworkRules sound
      fun _ sound appId _ => sound.remove appId
  exact List.foldlRecOn _ (NetworkController.updateApp shapers choice)
    (removals _) fun _ sound entry _ => sound.updateApp shapers choice entry

theorem MarksSound.owns_update (sound : controller.MarksSound)
    (shapers : List NicShaper) (choice : IdChoice) (order : SetOrder String)
    (apps : OrderedDict String NetworkApp) (owns : controller.marks.Owns mark) :
    (controller.updateAppNetworkControl shapers choice order apps).marks.Owns
      mark := by
  have removals : ∀ gone : List String,
      (gone.foldl removeAppNetworkRules controller).MarksSound ∧
        (gone.foldl removeAppNetworkRules controller).marks.Owns mark := by
    intro gone
    refine List.foldlRecOn gone removeAppNetworkRules
      (motive := fun controller =>
        controller.MarksSound ∧ controller.marks.Owns mark)
      ⟨sound, owns⟩ fun before kept appId _ => ⟨kept.1.remove appId, ?_⟩
    rw [marks_remove kept.1.maps, IdPool.owns_giveBack]
    exact kept.2
  refine (List.foldlRecOn _ (NetworkController.updateApp shapers choice)
    (motive := fun controller =>
      controller.MarksSound ∧ controller.marks.Owns mark)
    (removals _) fun before kept entry _ =>
      ⟨kept.1.updateApp shapers choice entry, ?_⟩).2
  unfold NetworkController.updateApp
  simp only
  split
  · have removed := kept.1.remove entry.1.1
    have unmarked : (before.removeAppNetworkRules entry.1.1).appMarkMap.get?
        entry.1.1 = none := by
      rw [removed.maps, markOf_remove, if_pos rfl]
    apply owns_add shapers choice unmarked
    rw [marks_remove kept.1.maps, IdPool.owns_giveBack]
    exact kept.2
  · exact kept.2

theorem sameApps_setup (controller : NetworkController) (config : NetworkConfig)
    (ports : List Int) (enabled : Bool) (shapers : List NicShaper) :
    SameApps (controller.setup config ports enabled shapers) controller := by
  obtain ⟨classes, filters, same⟩ :=
    controller.exists_setup_eq config ports enabled shapers
  rw [same]
  exact ⟨rfl, rfl, rfl⟩

theorem sameApps_reload (controller : NetworkController)
    (config : NetworkConfig) (ports : List Int) (enabled : Bool)
    (before after : List NicShaper) :
    SameApps (controller.reload config ports enabled before after)
      (init controller.classes controller.filters [] controller.files) := by
  obtain ⟨pool, map, info⟩ := sameApps_setup
    (controller.teardownAll before).forgetApps config ports enabled after
  exact ⟨pool, map, info⟩

theorem marksSound_of_sameApps_init {classes : HtbClasses} {filters : TcFilters}
    {iptables : List IptablesRule} {files : RxFile → String}
    (same : SameApps controller (init classes filters iptables files)) :
    controller.MarksSound := by
  have marks : controller.marks = IdPool.fresh freshMarks := by
    simp only [NetworkController.marks, same.markPool, same.appMarkMap]
    rfl
  refine ⟨fun appId => ?_, 0, marks ▸ IdPool.sound_fresh freshMarks 0x2000⟩
  rw [markOf, same.appMarkMap, same.appFilterInfo]
  rfl

/-- The marks recorded with the filters. -/
def liveMarks (controller : NetworkController) : Finset Nat :=
  (controller.appFilterInfo.values.filterMap AppFilterInfo.mark).toFinset

theorem mem_liveMarks_iff (mark : Nat) :
    mark ∈ controller.liveMarks ↔
      ∃ appId, controller.markOf appId = some mark := by
  simp only [liveMarks, markOf, List.mem_toFinset, List.mem_filterMap,
    OrderedDict.values, List.mem_map, Option.bind_eq_some_iff,
    OrderedDict.get?_eq_some_iff, Prod.exists]
  constructor
  · rintro ⟨info, ⟨appId, _, member, rfl⟩, marked⟩
    exact ⟨appId, _, member, marked⟩
  · rintro ⟨appId, info, member, marked⟩
    exact ⟨info, ⟨appId, info, member, rfl⟩, marked⟩

/-- No two apps share a mark, no app's mark is free, and the marks that were
handed out are free or still some app's. -/
structure MarksApart (controller : NetworkController)
    (handed : Finset Nat) : Prop where
  distinct : ∀ left right mark, controller.markOf left = some mark →
    controller.markOf right = some mark → left = right
  apart : ∀ appId mark, controller.markOf appId = some mark →
    mark ∉ controller.markPool
  kept : ∀ mark ∈ handed, mark ∈ controller.markPool ∨
    ∃ appId, controller.markOf appId = some mark

theorem MarksSound.eq_of_markOf (sound : controller.MarksSound)
    (leftMark : controller.markOf left = some mark)
    (rightMark : controller.markOf right = some mark) :
    left = right := by
  obtain ⟨extra, pool⟩ := sound.sound
  rw [← sound.maps] at leftMark rightMark
  exact pool.distinct left right mark leftMark rightMark

theorem MarksSound.eq_of_mark (sound : controller.MarksSound)
    {leftInfo rightInfo : AppFilterInfo}
    (leftFound : controller.appFilterInfo.get? left = some leftInfo)
    (rightFound : controller.appFilterInfo.get? right = some rightInfo)
    (leftMarked : leftInfo.mark = some mark)
    (rightMarked : rightInfo.mark = some mark) :
    left = right := by
  apply sound.eq_of_markOf
  · rw [markOf, leftFound, Option.bind_some, leftMarked]
  · rw [markOf, rightFound, Option.bind_some, rightMarked]

theorem MarksSound.marksApart (sound : controller.MarksSound)
    {handed : Finset Nat} (owns : ∀ mark ∈ handed, controller.marks.Owns mark) :
    controller.MarksApart handed := by
  obtain ⟨extra, pool⟩ := sound.sound
  refine ⟨?_, ?_, ?_⟩
  · intro left right mark leftMark rightMark
    exact sound.eq_of_markOf leftMark rightMark
  · intro appId mark marked
    rw [← sound.maps] at marked
    exact pool.apart appId mark marked
  · intro mark wasHanded
    rcases owns mark wasHanded with isFree | ⟨appId, holds⟩
    · exact .inl isFree
    · exact .inr ⟨appId, (sound.maps appId).symm.trans holds⟩

end NetworkController

/-! ## Updates and reloads -/

/-- The controller and the marks it has handed out. -/
structure MarkSystem where
  controller : NetworkController
  shapers : List NicShaper
  everHanded : Finset Nat
  handedSinceReload : Finset Nat

/-- An update with the apps of the moment, or a reload. -/
inductive MarkLabel
  | update (choice : IdChoice) (order : SetOrder String)
      (apps : OrderedDict String NetworkApp)
  | reload (config : NetworkConfig) (ports : List Int)
      (enableNetworkControl : Bool)
      (shapers : List NicShaper)

namespace MarkSystem

open NetworkController

/-- A new controller. -/
def start (controller : NetworkController) (shapers : List NicShaper) :
    MarkSystem :=
  ⟨controller, shapers, ∅, ∅⟩

/-- What an update or a reload does. -/
def step (state : MarkSystem) : MarkLabel → MarkSystem
  | .update choice order apps =>
    let controller := state.controller.updateAppNetworkControl state.shapers
      choice order apps
    { state with
      controller := controller
      -- an app is handed at most one mark, which it holds at the end
      everHanded := state.everHanded ∪ controller.liveMarks
      handedSinceReload := state.handedSinceReload ∪ controller.liveMarks }
  | .reload config ports enabled shapers =>
    { state with
      controller := state.controller.reload config ports enabled
        state.shapers shapers
      shapers := shapers
      handedSinceReload := ∅ }

/-- The marks handed out since the last reload are all accounted for. -/
structure Accounted (state : MarkSystem) : Prop where
  sound : state.controller.MarksSound
  owns : ∀ mark ∈ state.handedSinceReload, state.controller.marks.Owns mark

theorem Accounted.step {state : MarkSystem} (accounted : Accounted state)
    (label : MarkLabel) :
    Accounted (state.step label) := by
  cases label with
  | reload config ports enabled shapers =>
    refine ⟨marksSound_of_sameApps_init (sameApps_reload _ config ports
      enabled state.shapers shapers), ?_⟩
    intro mark handed
    cases Finset.notMem_empty mark handed
  | update choice order apps =>
    have sound := accounted.sound.update state.shapers choice order apps
    refine ⟨sound, fun mark handed => ?_⟩
    rcases Finset.mem_union.mp handed with before | live
    · exact accounted.sound.owns_update state.shapers choice order apps
        (accounted.owns mark before)
    · obtain ⟨appId, marked⟩ := (mem_liveMarks_iff mark).mp live
      exact .inr ⟨appId, (sound.maps appId).trans marked⟩

/-- However apps come and go and the configuration is reloaded, marks are
apart, and those handed out since the last reload are not lost. -/
theorem marks_apart (classes : HtbClasses) (filters : TcFilters)
    (iptables : List IptablesRule) (files : RxFile → String)
    (shapers : List NicShaper) (labels : List MarkLabel) :
    Runs.EveryPrefix step
      (fun state => state.controller.MarksApart state.handedSinceReload)
      (start (.init classes filters iptables files) shapers) labels := by
  intro count
  have accounted : Accounted (Runs.run step
      (start (.init classes filters iptables files) shapers)
      (labels.take count)) :=
    List.foldlRecOn _ step
      ⟨marksSound_of_sameApps_init ⟨rfl, rfl, rfl⟩, fun mark handed => by
        cases Finset.notMem_empty mark handed⟩
      fun _ accounted label _ => accounted.step label
  exact accounted.sound.marksApart accounted.owns

/-! ### More apps than marks -/

variable {controller : NetworkController} {entry : (String × NetworkApp) × Nat}
  {count : Nat}

theorem exists_markOf_updateApp (shapers : List NicShaper) (choice : IdChoice)
    (new : controller.appFilterInfo.get? entry.1.1 = none)
    (tier : entry.1.2.tier ≠ .system) :
    ∃ mark, (updateApp shapers choice controller entry).markOf entry.1.1 =
      some mark := by
  have reinstalls : controller.Reinstalls entry.1.1 entry.1.2 := by
    intro info found
    rw [new] at found
    cases found
  simp [updateApp, reinstalls, addAppNetworkRules, tier, moveSaveMark, markOf]

theorem exists_markOf_update (shapers : List NicShaper) (choice : IdChoice)
    {entries : List ((String × NetworkApp) × Nat)}
    (distinct : (entries.map fun entry => entry.1.1).Nodup)
    (new : ∀ entry ∈ entries, controller.appFilterInfo.get? entry.1.1 = none)
    (tier : ∀ entry ∈ entries, entry.1.2.tier ≠ .system) :
    ∀ entry ∈ entries, ∃ mark,
      (entries.foldl (updateApp shapers choice) controller).markOf entry.1.1 =
        some mark := by
  induction entries generalizing controller with
  | nil => exact fun _ absent => nomatch absent
  | cons first rest ih =>
    rw [List.map_cons, List.nodup_cons] at distinct
    rw [List.forall_mem_cons] at new tier
    intro entry member
    rw [List.foldl_cons]
    rcases List.mem_cons.mp member with rfl | later
    · obtain ⟨mark, marked⟩ :=
        exists_markOf_updateApp shapers choice new.1 tier.1
      refine ⟨mark, ?_⟩
      rw [markOf, info_foldl_updateApp_of_not_mem shapers choice _ distinct.1]
      exact marked
    · refine ih distinct.2 (fun other isLater => ?_) tier.2 entry later
      have different : other.1.1 ≠ first.1.1 := fun same =>
        distinct.1 (same ▸ List.mem_map_of_mem isLater)
      rw [info_updateApp_of_ne shapers choice controller first different]
      exact new.2 other isLater

def idOfLength (length : Nat) : String :=
  String.ofList (List.replicate length 'a')

theorem idOfLength_injective : Function.Injective idOfLength := by
  intro left right same
  have lists := congrArg String.toList same
  simpa [idOfLength] using congrArg List.length lists

/-- A number of apps of the low tier, with distinct ids. -/
def lowApps (count : Nat) : OrderedDict String NetworkApp where
  entries := (List.range count).map fun length =>
    (idOfLength length, ⟨none, none, []⟩)
  nodupKeys := by
    rw [List.map_map]
    exact List.nodup_range.map idOfLength_injective

theorem mem_zipIdx_lowApps (member : entry ∈ (lowApps count).entries.zipIdx) :
    entry.1 ∈ (lowApps count).entries :=
  List.fst_mem_of_mem_zipIdx member

theorem exists_markOf_lowApps {length : Nat} (bounded : length < count)
    (choice : IdChoice) (order : SetOrder String) (classes : HtbClasses)
    (filters : TcFilters) (files : RxFile → String) :
    ∃ mark, ((init classes filters [] files).updateAppNetworkControl [] choice
      order (lowApps count)).markOf (idOfLength length) = some mark := by
  have listed : (idOfLength length, (⟨none, none, []⟩ : NetworkApp)) ∈
      (lowApps count).entries :=
    List.mem_map_of_mem (List.mem_range.mpr bounded)
  obtain ⟨index, inRange, same⟩ := List.getElem_of_mem listed
  have indexed : ((idOfLength length, (⟨none, none, []⟩ : NetworkApp)),
      index) ∈ (lowApps count).entries.zipIdx := by
    rw [List.mem_zipIdx_iff_getElem?, ← same]
    exact List.getElem?_eq_getElem inRange
  refine exists_markOf_update [] choice ?_ ?_ ?_ _ indexed
  · have keys := (lowApps count).nodupKeys
    rwa [← List.zipIdx_map_fst 0 (lowApps count).entries, List.map_map] at keys
  · intro entry _
    rw [info_foldl_remove, init, OrderedDict.get?_empty, ite_self]
  · intro entry member
    obtain ⟨other, -, same⟩ := List.mem_map.mp (mem_zipIdx_lowApps member)
    rw [← same]
    change NetworkApp.tier ⟨none, none, []⟩ ≠ .system
    decide

theorem exists_made_mark (many : freshMarks.card < count) (choice : IdChoice)
    (order : SetOrder String) (classes : HtbClasses) (filters : TcFilters)
    (files : RxFile → String) :
    ∃ mark ∈ ((init classes filters [] files).updateAppNetworkControl []
      choice order (lowApps count)).liveMarks, mark ∉ freshMarks := by
  have fresh : (init classes filters [] files).MarksSound :=
    marksSound_of_sameApps_init ⟨rfl, rfl, rfl⟩
  obtain ⟨extra, pool⟩ :=
    (fresh.update [] choice order (lowApps count)).sound
  have maps := (fresh.update [] choice order (lowApps count)).maps
  have marked : ∀ length ∈ Finset.range count, ∃ mark,
      ((init classes filters [] files).updateAppNetworkControl [] choice order
        (lowApps count)).markOf (idOfLength length) = some mark :=
    fun length bounded => exists_markOf_lowApps (Finset.mem_range.mp bounded)
      choice order classes filters files
  choose! mark marked using marked
  have injective : Set.InjOn mark (Finset.range count) := by
    intro left leftBound right rightBound same
    have leftMark := marked left leftBound
    have rightMark := marked right rightBound
    rw [← maps] at leftMark rightMark
    rw [← same] at rightMark
    exact idOfLength_injective (pool.distinct _ _ _ leftMark rightMark)
  apply Finset.exists_mem_notMem_of_card_lt_card
  calc freshMarks.card < (Finset.range count).card := by
        rwa [Finset.card_range]
    _ ≤ _ := Finset.card_le_card_of_injOn mark (fun length bounded =>
        (mem_liveMarks_iff _).mpr ⟨_, marked length bounded⟩) injective

/-- A made-up mark that an app held at a reload is lost. -/
theorem reload_loses_mark :
    ¬∀ (classes : HtbClasses) (filters : TcFilters)
        (iptables : List IptablesRule) (files : RxFile → String)
        (shapers : List NicShaper) (labels : List MarkLabel),
      Runs.EveryPrefix step
        (fun state => state.controller.MarksApart state.everHanded)
        (start (.init classes filters iptables files) shapers) labels := by
  intro kept
  obtain ⟨count, many⟩ : ∃ count, freshMarks.card < count :=
    ⟨4097, by rw [freshMarks, Nat.card_Ico]; omega⟩
  obtain ⟨mark, live, made⟩ := exists_made_mark many .least .sorted
    (fun _ _ => none) (fun _ => []) (fun _ => "0")
  have accounted := (kept (fun _ _ => none) (fun _ => []) [] (fun _ => "0") []
    [.update .least .sorted (lowApps count),
      .reload (.standard false) [] true []]).finally.kept mark
    (Finset.mem_union_right _ live)
  let reloaded := ((init (fun _ _ => none) (fun _ => []) [] fun _ =>
    "0").updateAppNetworkControl [] .least .sorted (lowApps count)).reload
      (.standard false) [] true [] []
  obtain ⟨pool, -, info⟩ := sameApps_reload
    ((init (fun _ _ => none) (fun _ => []) [] fun _ =>
      "0").updateAppNetworkControl [] .least .sorted (lowApps count))
    (.standard false) [] true [] []
  rcases accounted with isFree | ⟨appId, marked⟩
  · exact made ((congrArg (mark ∈ ·) pool).mp isFree)
  · have markOf : reloaded.markOf appId = some mark := marked
    rw [NetworkController.markOf, info] at markOf
    cases markOf

end MarkSystem

end SmarTune
