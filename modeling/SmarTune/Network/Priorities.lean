import SmarTune.Network.Marks
import SmarTune.Network.Places

/-!
# Filter priorities

The priority of an app's filters is its position in the list at the time they
were installed.  As long as every position at which filters are installed is
vacant by then, no two apps share a priority, every app has its filters, and
removing an app takes away its own filters only.
-/

namespace SmarTune

namespace NetworkController

open NicShaper

/-- The least priority of the apps' filters in a direction. -/
def basePrio : Direction → Nat
  | .egress => 10
  | .ingress => 21

variable {shapers : List NicShaper} {shaper : NicShaper}
  {controller : NetworkController}

/-! ## Installing the filters of an app -/

section AddMarkFilters

variable (mark index : Nat) (tier : NetworkTier) (filters : TcFilters)

theorem addMarkFilters_of_ne {parent : FilterParent}
    (elsewhere : ∀ direction, parent ≠ shaper.parent direction) :
    addMarkFilters mark index tier filters shaper parent = filters parent := by
  have egress := elsewhere .egress
  have ingress := elsewhere .ingress
  simp only [NicShaper.parent, device, handle] at egress ingress
  rw [addMarkFilters, TcFilters.add, Function.update_of_ne ingress,
    TcFilters.add, Function.update_of_ne egress]

theorem addMarkFilters_self (shaper : NicShaper) (direction : Direction) :
    addMarkFilters mark index tier filters shaper (shaper.parent direction) =
      filters (shaper.parent direction) ++
        [markFilter mark (basePrio direction + index)
          (shaper.classid direction tier)] := by
  have distinct : ((shaper.dev, shaper.handleId) : FilterParent) ≠
      (shaper.ifbDev, shaper.handleId + 1) := by
    intro same
    have handles := congrArg Prod.snd same
    simp at handles
  cases direction with
  | ingress =>
    simp only [addMarkFilters, NicShaper.parent, device, handle,
      TcFilters.add, Function.update_self,
      Function.update_of_ne distinct.symm, basePrio]
  | egress =>
    simp only [addMarkFilters, NicShaper.parent, device, handle,
      TcFilters.add, Function.update_self, Function.update_of_ne distinct,
      basePrio]

theorem foldl_addMarkFilters_of_ne {parent : FilterParent}
    (elsewhere : ∀ shaper ∈ shapers, ∀ direction,
      parent ≠ shaper.parent direction) :
    shapers.foldl (addMarkFilters mark index tier) filters parent =
      filters parent := by
  refine List.foldlRecOn shapers (addMarkFilters mark index tier)
    (motive := fun after => after parent = filters parent) rfl
    fun after same shaper member => ?_
  rw [addMarkFilters_of_ne _ _ _ _ (elsewhere shaper member), same]

/-- Every tree of every NIC gets one filter. -/
theorem foldl_addMarkFilters (apart : Apart shapers) (member : shaper ∈ shapers)
    (direction : Direction) :
    shapers.foldl (addMarkFilters mark index tier) filters
        (shaper.parent direction) =
      filters (shaper.parent direction) ++
        [markFilter mark (basePrio direction + index)
          (shaper.classid direction tier)] := by
  induction shapers generalizing filters with
  | nil => cases member
  | cons first rest ih =>
    rw [List.foldl_cons]
    rcases List.mem_cons.mp member with rfl | later
    · rw [foldl_addMarkFilters_of_ne, addMarkFilters_self]
      intro other otherMember otherDirection same
      exact List.rel_of_pairwise_cons apart otherMember direction
        otherDirection (Prod.mk.inj same).2
    · rw [ih _ apart.of_cons later, addMarkFilters_of_ne]
      intro otherDirection same
      exact List.rel_of_pairwise_cons apart later otherDirection direction
        (Prod.mk.inj same).2.symm

/-- It is alone among those that an app installs at its priority. -/
theorem atPrio_foldl_addMarkFilters (apart : Apart shapers)
    (member : shaper ∈ shapers) (direction : Direction) (prio : Nat) :
    TcFilters.atPrio (shapers.foldl (addMarkFilters mark index tier) filters)
        (shaper.parent direction) prio =
      filters.atPrio (shaper.parent direction) prio ++
        if basePrio direction + index = prio then
          [markFilter mark prio (shaper.classid direction tier)]
        else [] := by
  rw [TcFilters.atPrio, foldl_addMarkFilters _ _ _ _ apart member,
    List.filter_append, TcFilters.atPrio]
  congr 1
  split
  · next here => simp [markFilter, here]
  · next elsewhere => simp [markFilter, elsewhere]

end AddMarkFilters

/-! ## Where an app's filters are -/

/-- The `nics` of an app with a mark. -/
def markNics (shapers : List NicShaper) (tier : NetworkTier)
    (index : Nat) : List (String × NicRule) :=
  shapers.map fun shaper => (shaper.dev, nicRule shaper tier index)

variable {info : AppFilterInfo} {appId : String} {slot : FilterSlot}
  {filter : TcFilter} {first : (String × NetworkApp) × Nat}
  {rest : List ((String × NetworkApp) × Nat)} {filters : TcFilters}
  {parent : FilterParent}

theorem mem_slots_iff {index : Nat}
    (nics : info.nics = markNics shapers info.priority index)
    (slot : FilterSlot) :
    slot ∈ info.slots ↔ ∃ shaper ∈ shapers, ∃ direction,
      slot = (shaper.parent direction, basePrio direction + index) := by
  simp only [AppFilterInfo.slots, nics, markNics, List.mem_flatMap,
    List.mem_map, exists_exists_and_eq_and, nicRule, nicSlots,
    List.mem_cons, List.not_mem_nil, or_false]
  constructor
  · rintro ⟨shaper, member, rfl | rfl⟩
    · exact ⟨shaper, member, .egress, rfl⟩
    · exact ⟨shaper, member, .ingress, rfl⟩
  · rintro ⟨shaper, member, direction, rfl⟩
    refine ⟨shaper, member, ?_⟩
    cases direction
    · exact .inl rfl
    · exact .inr rfl

theorem slots_systemNics (shapers : List NicShaper) :
    (shapers.map fun shaper =>
      (shaper.dev, systemNicRule shaper)).flatMap nicSlots = [] := by
  simp [systemNicRule, nicSlots]

/-! ## Filters apart -/

/-- Different apps have different priorities on every device, every app with a
mark has its filters there, and removing it would take away exactly them. -/
structure FiltersApart (controller : NetworkController)
    (shapers : List NicShaper) : Prop where
  distinct : ∀ left right leftInfo rightInfo, left ≠ right →
    controller.appFilterInfo.get? left = some leftInfo →
    controller.appFilterInfo.get? right = some rightInfo →
    ∀ slot ∈ leftInfo.slots, slot ∉ rightInfo.slots
  installed : ∀ appId info mark,
    controller.appFilterInfo.get? appId = some info → info.mark = some mark →
    ∀ shaper ∈ shapers, ∀ direction, ∃ prio,
      (shaper.parent direction, prio) ∈ info.slots ∧
      controller.filters.atPrio (shaper.parent direction) prio =
        [markFilter mark prio (shaper.classid direction info.priority)]
  removes : ∀ appId info mark,
    controller.appFilterInfo.get? appId = some info → info.mark = some mark →
    ∀ shaper ∈ shapers, ∀ direction,
      (controller.removeAppNetworkRules appId).filters
          (shaper.parent direction) =
        (controller.filters (shaper.parent direction)).filter
          fun filter => filter.matching ≠ .mark mark

/-- No filter of a tree matches a mark. -/
def PortsOnly (parent : FilterParent) (filters : TcFilters) : Prop :=
  ∀ filter ∈ filters parent, ∀ mark, filter.matching ≠ .mark mark

/-- No filter of a NIC matches a mark. -/
def Unmarked (shapers : List NicShaper) (filters : TcFilters) : Prop :=
  ∀ shaper ∈ shapers, ∀ direction, PortsOnly (shaper.parent direction) filters

/-- Every slot of an app holds its filter, and every other slot what setup left
there. -/
structure Placed (controller : NetworkController) (shapers : List NicShaper)
    (setup : TcFilters) : Prop where
  marks : controller.MarksSound
  uncapped : controller.appPpsCaps = .empty
  slotless : ∀ appId info, controller.appFilterInfo.get? appId = some info →
    info.mark = none → info.slots = []
  nics : ∀ appId info mark, controller.appFilterInfo.get? appId = some info →
    info.mark = some mark →
    ∃ index, info.nics = markNics shapers info.priority index
  own : ∀ appId info mark, controller.appFilterInfo.get? appId = some info →
    info.mark = some mark → ∀ shaper ∈ shapers, ∀ direction prio,
      (shaper.parent direction, prio) ∈ info.slots →
      setup.atPrio (shaper.parent direction) prio = [] ∧
      controller.filters.atPrio (shaper.parent direction) prio =
        [markFilter mark prio (shaper.classid direction info.priority)]
  rest : ∀ shaper ∈ shapers, ∀ direction prio,
    (∀ appId info, controller.appFilterInfo.get? appId = some info →
      (shaper.parent direction, prio) ∉ info.slots) →
    controller.filters.atPrio (shaper.parent direction) prio =
      setup.atPrio (shaper.parent direction) prio

variable {setup : TcFilters}

theorem Placed.mark_of_slot (placed : controller.Placed shapers setup)
    (found : controller.appFilterInfo.get? appId = some info)
    (member : slot ∈ info.slots) :
    ∃ mark, info.mark = some mark := by
  cases marked : info.mark with
  | some mark => exact ⟨mark, rfl⟩
  | none =>
    rw [placed.slotless appId info found marked] at member
    cases member

theorem Placed.slot_eq (placed : controller.Placed shapers setup)
    (found : controller.appFilterInfo.get? appId = some info)
    (member : slot ∈ info.slots) :
    ∃ shaper ∈ shapers, ∃ direction, slot.1 = shaper.parent direction := by
  obtain ⟨mark, marked⟩ := placed.mark_of_slot found member
  obtain ⟨index, nics⟩ := placed.nics appId info mark found marked
  obtain ⟨shaper, isShaper, direction, rfl⟩ := (mem_slots_iff nics slot).mp member
  exact ⟨shaper, isShaper, direction, rfl⟩

/-- Two apps do not share a slot, because the filter there has one mark. -/
theorem Placed.distinct (placed : controller.Placed shapers setup)
    {left right : String} {leftInfo rightInfo : AppFilterInfo}
    (different : left ≠ right)
    (leftFound : controller.appFilterInfo.get? left = some leftInfo)
    (rightFound : controller.appFilterInfo.get? right = some rightInfo)
    (member : slot ∈ leftInfo.slots) :
    slot ∉ rightInfo.slots := by
  intro rightMember
  obtain ⟨leftMark, leftMarked⟩ := placed.mark_of_slot leftFound member
  obtain ⟨rightMark, rightMarked⟩ := placed.mark_of_slot rightFound rightMember
  obtain ⟨shaper, isShaper, direction, same⟩ := placed.slot_eq leftFound member
  obtain ⟨parent, prio⟩ := slot
  simp only at same
  subst same
  have leftOwn := (placed.own left leftInfo leftMark leftFound leftMarked shaper
    isShaper direction prio member).2
  have rightOwn := (placed.own right rightInfo rightMark rightFound rightMarked
    shaper isShaper direction prio rightMember).2
  rw [leftOwn, List.cons.injEq] at rightOwn
  obtain ⟨sameMark, -⟩ : leftMark = rightMark ∧ _ := by
    simpa [markFilter] using rightOwn.1
  subst sameMark
  exact different
    (placed.marks.eq_of_mark leftFound rightFound leftMarked rightMarked)

theorem Placed.atPrio_cases (placed : controller.Placed shapers setup)
    (isShaper : shaper ∈ shapers) (direction : Direction) (prio : Nat) :
    (∃ appId info mark, controller.appFilterInfo.get? appId = some info ∧
      info.mark = some mark ∧
      (shaper.parent direction, prio) ∈ info.slots ∧
      setup.atPrio (shaper.parent direction) prio = [] ∧
      controller.filters.atPrio (shaper.parent direction) prio =
        [markFilter mark prio (shaper.classid direction info.priority)]) ∨
    controller.filters.atPrio (shaper.parent direction) prio =
      setup.atPrio (shaper.parent direction) prio := by
  by_cases held : ∃ appId info,
      controller.appFilterInfo.get? appId = some info ∧
        (shaper.parent direction, prio) ∈ info.slots
  · left
    obtain ⟨appId, info, found, slot⟩ := held
    obtain ⟨mark, marked⟩ := placed.mark_of_slot found slot
    exact ⟨appId, info, mark, found, marked, slot, placed.own appId info mark
      found marked shaper isShaper direction prio slot⟩
  · right
    apply placed.rest shaper isShaper direction prio
    exact fun appId info found slot => held ⟨appId, info, found, slot⟩

theorem Placed.matching_iff (placed : controller.Placed shapers setup)
    (unmarked : Unmarked shapers setup) {mark : Nat}
    (found : controller.appFilterInfo.get? appId = some info)
    (marked : info.mark = some mark) (isShaper : shaper ∈ shapers)
    {direction : Direction}
    (member : filter ∈ controller.filters (shaper.parent direction)) :
    filter.matching = .mark mark ↔
      (shaper.parent direction, filter.prio) ∈ info.slots := by
  have there : filter ∈ controller.filters.atPrio (shaper.parent direction)
      filter.prio := List.mem_filter.mpr ⟨member, decide_eq_true rfl⟩
  constructor
  · intro matching
    rcases placed.atPrio_cases isShaper direction filter.prio with
      ⟨other, otherInfo, otherMark, otherFound, otherMarked, slot, -, own⟩ |
        atSetup
    · rw [own, List.mem_singleton] at there
      rw [there, markFilter, FilterMatch.mark.injEq] at matching
      subst matching
      obtain rfl :=
        placed.marks.eq_of_mark otherFound found otherMarked marked
      rw [otherFound, Option.some.injEq] at found
      exact found ▸ slot
    · rw [atSetup] at there
      exact absurd matching (unmarked shaper isShaper direction filter
        (List.mem_filter.mp there).1 mark)
  · intro slot
    rw [(placed.own appId info mark found marked shaper isShaper direction
      filter.prio slot).2, List.mem_singleton] at there
    rw [there, markFilter]

theorem Placed.filters_remove (placed : controller.Placed shapers setup)
    (found : controller.appFilterInfo.get? appId = some info) :
    (controller.removeAppNetworkRules appId).filters =
      controller.filters.deleteSlots info.slots := by
  rw [NetworkController.filters_remove controller appId found,
    clearAppPpsCap_of_uncapped placed.uncapped]

theorem Placed.filtersApart (placed : controller.Placed shapers setup)
    (unmarked : Unmarked shapers setup) :
    controller.FiltersApart shapers := by
  refine ⟨?_, ?_, ?_⟩
  · intro left right leftInfo rightInfo different leftFound rightFound slot
    exact placed.distinct different leftFound rightFound
  · intro appId info mark found marked shaper isShaper direction
    obtain ⟨index, nics⟩ := placed.nics appId info mark found marked
    have slot : (shaper.parent direction, basePrio direction + index) ∈
        info.slots :=
      (mem_slots_iff nics _).mpr ⟨shaper, isShaper, direction, rfl⟩
    exact ⟨_, slot, (placed.own appId info mark found marked shaper isShaper
      direction _ slot).2⟩
  · intro appId info mark found marked shaper isShaper direction
    rw [placed.filters_remove found, TcFilters.deleteSlots_apply]
    apply List.filter_congr
    intro filter member
    simp only [ne_eq, placed.matching_iff unmarked found marked isShaper member]

/-! ## Updates -/

theorem Placed.remove (placed : controller.Placed shapers setup)
    (appId : String) :
    (controller.removeAppNetworkRules appId).Placed shapers setup := by
  cases found : controller.appFilterInfo.get? appId with
  | none => rwa [removeAppNetworkRules_of_none _ _ found]
  | some info =>
    have filters := placed.filters_remove found
    refine ⟨placed.marks.remove appId, ?_, ?_, ?_, ?_, ?_⟩
    · rw [caps_remove controller appId found,
        clearAppPpsCap_of_uncapped placed.uncapped, placed.uncapped]
    · intro other otherInfo otherFound
      exact placed.slotless other otherInfo
        (info_remove_eq_some_iff.mp otherFound).2
    · intro other otherInfo mark otherFound
      exact placed.nics other otherInfo mark
        (info_remove_eq_some_iff.mp otherFound).2
    · intro other otherInfo mark otherFound marked shaper isShaper direction
        prio member
      obtain ⟨different, before⟩ := info_remove_eq_some_iff.mp otherFound
      obtain ⟨clear, own⟩ := placed.own other otherInfo mark before marked
        shaper isShaper direction prio member
      refine ⟨clear, ?_⟩
      rw [filters, TcFilters.atPrio_deleteSlots, if_neg, own]
      exact placed.distinct different before found member
    · intro shaper isShaper direction prio unheld
      rw [filters, TcFilters.atPrio_deleteSlots]
      split
      · next own =>
        obtain ⟨mark, marked⟩ := placed.mark_of_slot found own
        exact (placed.own appId info mark found marked shaper isShaper
          direction prio own).1.symm
      · next foreign =>
        apply placed.rest shaper isShaper direction prio
        intro other otherInfo otherFound
        by_cases same : other = appId
        · subst same
          rw [found, Option.some.injEq] at otherFound
          exact otherFound ▸ foreign
        · exact unheld other otherInfo
            (info_remove_eq_some_iff.mpr ⟨same, otherFound⟩)

/-- Nothing is installed at the priorities of a position. -/
def VacantAt (controller : NetworkController) (shapers : List NicShaper)
    (setup : TcFilters) (index : Nat) : Prop :=
  ∀ shaper ∈ shapers, ∀ direction,
    setup.atPrio (shaper.parent direction) (basePrio direction + index) = [] ∧
    ∀ other info, controller.appFilterInfo.get? other = some info →
      (shaper.parent direction, basePrio direction + index) ∉ info.slots

theorem Placed.add_system (placed : controller.Placed shapers setup)
    (choice : IdChoice) (absent : controller.appFilterInfo.get? appId = none)
    {app : NetworkApp} (tier : app.tier = .system) (index : Nat) :
    (controller.addAppNetworkRules shapers choice appId app index).Placed
      shapers setup := by
  have unmarked : controller.markOf appId = none := by rw [markOf, absent]; rfl
  have marks := placed.marks.add shapers choice unmarked app index
  simp only [addAppNetworkRules, if_pos tier] at marks ⊢
  refine ⟨marks, placed.uncapped, ?_, ?_, ?_, ?_⟩
  · intro other info found
    rcases OrderedDict.get?_set_eq_some_iff.mp found with
      ⟨rfl, rfl⟩ | ⟨-, before⟩
    · exact fun _ => slots_systemNics shapers
    · exact placed.slotless other info before
  · intro other info mark found
    rcases OrderedDict.get?_set_eq_some_iff.mp found with
      ⟨rfl, rfl⟩ | ⟨-, before⟩
    · intro none
      cases none
    · exact placed.nics other info mark before
  · intro other info mark found
    rcases OrderedDict.get?_set_eq_some_iff.mp found with
      ⟨rfl, rfl⟩ | ⟨-, before⟩
    · intro none
      cases none
    · exact placed.own other info mark before
  · intro shaper isShaper direction prio unheld
    apply placed.rest shaper isShaper direction prio
    intro other info found
    by_cases same : other = appId
    · subst same
      rw [absent] at found
      cases found
    · exact unheld other info
        (OrderedDict.get?_set_eq_some_iff.mpr (.inr ⟨same, found⟩))

theorem Placed.add (placed : controller.Placed shapers setup)
    (apart : Apart shapers) (choice : IdChoice)
    (absent : controller.appFilterInfo.get? appId = none) (app : NetworkApp)
    (index : Nat)
    (vacant : app.tier ≠ .system → controller.VacantAt shapers setup index) :
    (controller.addAppNetworkRules shapers choice appId app index).Placed
      shapers setup := by
  by_cases tier : app.tier = .system
  · exact placed.add_system choice absent tier index
  specialize vacant tier
  have unmarked : controller.markOf appId = none := by rw [markOf, absent]; rfl
  have marks := placed.marks.add shapers choice unmarked app index
  simp only [addAppNetworkRules, if_neg tier] at marks ⊢
  refine ⟨marks, placed.uncapped, ?_, ?_, ?_, ?_⟩
  · intro other info found
    rcases OrderedDict.get?_set_eq_some_iff.mp found with
      ⟨rfl, rfl⟩ | ⟨-, before⟩
    · intro none
      cases none
    · exact placed.slotless other info before
  · intro other info mark found
    rcases OrderedDict.get?_set_eq_some_iff.mp found with
      ⟨rfl, rfl⟩ | ⟨-, before⟩
    · exact fun _ => ⟨index, rfl⟩
    · exact placed.nics other info mark before
  · intro other info mark found marked shaper isShaper direction prio member
    rw [atPrio_foldl_addMarkFilters _ _ _ _ apart isShaper]
    rcases OrderedDict.get?_set_eq_some_iff.mp found with
      ⟨rfl, rfl⟩ | ⟨-, before⟩
    · obtain rfl := Option.some.inj marked
      obtain ⟨nic, isNic, side, same⟩ := (mem_slots_iff rfl _).mp member
      obtain ⟨sameParent, rfl⟩ := Prod.mk.inj same
      obtain ⟨rfl, rfl⟩ := apart.eq_of_parent isShaper isNic sameParent
      obtain ⟨clear, unheld⟩ := vacant shaper isShaper direction
      refine ⟨clear, ?_⟩
      rw [if_pos rfl, placed.rest shaper isShaper direction _ unheld, clear]
      rfl
    · obtain ⟨clear, own⟩ := placed.own other info mark before marked shaper
        isShaper direction prio member
      refine ⟨clear, ?_⟩
      rw [if_neg, List.append_nil, own]
      rintro rfl
      exact (vacant shaper isShaper direction).2 other info before member
  · intro shaper isShaper direction prio unheld
    have new := unheld appId _ (OrderedDict.get?_set_self ..)
    rw [atPrio_foldl_addMarkFilters _ _ _ _ apart isShaper, if_neg,
      List.append_nil]
    · apply placed.rest shaper isShaper direction prio
      intro other info found
      by_cases same : other = appId
      · subst same
        rw [absent] at found
        cases found
      · exact unheld other info
          (OrderedDict.get?_set_eq_some_iff.mpr (.inr ⟨same, found⟩))
    · rintro rfl
      exact new ((mem_slots_iff rfl _).mpr ⟨shaper, isShaper, direction, rfl⟩)

theorem reinstalls_congr {other : NetworkController} {appId : String}
    (same : other.appFilterInfo.get? appId =
      controller.appFilterInfo.get? appId)
    (app : NetworkApp) :
    other.Reinstalls appId app ↔ controller.Reinstalls appId app := by
  simp only [Reinstalls, same]

/-- An app of the list is installed anew before a position. -/
def MovesBefore (controller : NetworkController)
    (entries : List ((String × NetworkApp) × Nat)) (appId : String)
    (position : Nat) : Prop :=
  ∃ earlier ∈ entries, earlier.1.1 = appId ∧ earlier.2 < position ∧
    controller.Reinstalls earlier.1.1 earlier.1.2

instance decidableMovesBefore
    (controller : NetworkController)
    (entries : List ((String × NetworkApp) × Nat))
    (appId : String)
    (position : Nat) :
    Decidable (controller.MovesBefore entries appId position) :=
  inferInstanceAs (Decidable (∃ earlier ∈ entries, _ ∧ _ ∧ _))

/-- Whoever has a position's slots is moved away before the position is
filled. -/
def Clears (controller : NetworkController) (shapers : List NicShaper)
    (setup : TcFilters) (entries : List ((String × NetworkApp) × Nat)) : Prop :=
  ∀ entry ∈ entries, controller.Reinstalls entry.1.1 entry.1.2 →
    entry.1.2.tier ≠ .system → ∀ shaper ∈ shapers, ∀ direction,
      setup.atPrio (shaper.parent direction)
        (basePrio direction + entry.2) = [] ∧
      ∀ other info, other ≠ entry.1.1 →
        controller.appFilterInfo.get? other = some info →
        (shaper.parent direction, basePrio direction + entry.2) ∈ info.slots →
        controller.MovesBefore entries other entry.2

theorem slots_updateApp (apart : Apart shapers) (choice : IdChoice)
    {entry : (String × NetworkApp) × Nat}
    (reinstalls : controller.Reinstalls entry.1.1 entry.1.2)
    {info : AppFilterInfo}
    (found : (updateApp shapers choice controller
      entry).appFilterInfo.get? entry.1.1 = some info)
    (isShaper : shaper ∈ shapers)
    {direction : Direction}
    {prio : Nat}
    (slot : (shaper.parent direction, prio) ∈ info.slots) :
    prio = basePrio direction + entry.2 := by
  simp only [updateApp, if_pos reinstalls, moveSaveMark,
    addAppNetworkRules] at found
  split at found
  · rw [OrderedDict.get?_set_self, Option.some.injEq] at found
    subst found
    rw [AppFilterInfo.slots, slots_systemNics] at slot
    cases slot
  · rw [OrderedDict.get?_set_self, Option.some.injEq] at found
    subst found
    obtain ⟨nic, isNic, side, same⟩ := (mem_slots_iff rfl _).mp slot
    obtain ⟨sameParent, rfl⟩ := Prod.mk.inj same
    obtain ⟨-, rfl⟩ := apart.eq_of_parent isShaper isNic sameParent
    rfl

theorem Placed.updateApp (placed : controller.Placed shapers setup)
    (apart : Apart shapers) (choice : IdChoice)
    (clears : controller.Clears shapers setup (first :: rest))
    (later : ∀ entry ∈ rest, first.2 < entry.2) :
    (updateApp shapers choice controller first).Placed shapers setup := by
  unfold NetworkController.updateApp
  simp only
  split
  · next reinstalls =>
    have absent : (controller.removeAppNetworkRules
        first.1.1).appFilterInfo.get? first.1.1 = none := by
      rw [info_remove, if_pos rfl]
    have vacant : first.1.2.tier ≠ .system →
        (controller.removeAppNetworkRules first.1.1).VacantAt shapers setup
          first.2 := by
      intro tier shaper isShaper direction
      obtain ⟨clear, moved⟩ := clears first List.mem_cons_self reinstalls
        tier shaper isShaper direction
      refine ⟨clear, fun other info found slot => ?_⟩
      obtain ⟨different, found⟩ := info_remove_eq_some_iff.mp found
      -- no later position comes before the first
      obtain ⟨earlier, member, -, before, -⟩ :=
        moved other info different found slot
      rcases List.mem_cons.mp member with rfl | isLater
      · omega
      · have after := later earlier isLater
        omega
    have added := (placed.remove first.1.1).add apart choice absent first.1.2
      first.2 vacant
    exact ⟨⟨added.marks.maps, added.marks.sound⟩, added.uncapped,
      added.slotless, added.nics, added.own, added.rest⟩
  · exact ⟨⟨placed.marks.maps, placed.marks.sound⟩, placed.uncapped,
      placed.slotless, placed.nics, placed.own, placed.rest⟩

/-- The rest of the list finds its positions cleared in turn. -/
theorem Clears.updateApp (apart : Apart shapers) (choice : IdChoice)
    (clears : controller.Clears shapers setup (first :: rest))
    (later : ∀ entry ∈ rest, first.2 < entry.2)
    (others : ∀ entry ∈ rest, entry.1.1 ≠ first.1.1) :
    (updateApp shapers choice controller first).Clears shapers setup rest := by
  intro entry member reinstalls tier shaper isShaper direction
  have unchanged : ∀ other ≠ first.1.1,
      (NetworkController.updateApp shapers choice controller
        first).appFilterInfo.get? other =
        controller.appFilterInfo.get? other := fun other different =>
    info_updateApp_of_ne shapers choice controller first different
  have before : controller.Reinstalls entry.1.1 entry.1.2 :=
    (reinstalls_congr (unchanged _ (others entry member)) _).mp reinstalls
  obtain ⟨clear, moved⟩ := clears entry (List.mem_cons_of_mem _ member)
    before tier shaper isShaper direction
  refine ⟨clear, fun other info different found slot => ?_⟩
  by_cases here : other = first.1.1
  · subst here
    exfalso
    by_cases anew : controller.Reinstalls first.1.1 first.1.2
    · have place := slots_updateApp apart choice anew found isShaper slot
      have after := later entry member
      omega
    · have kept : NetworkController.updateApp shapers choice controller
          first = controller.moveSaveMark := by
        rw [NetworkController.updateApp, if_neg anew]
      rw [kept] at found
      obtain ⟨earlier, earlierMember, same, -, moves⟩ :=
        moved first.1.1 info different found slot
      rcases List.mem_cons.mp earlierMember with rfl | isLater
      · exact anew moves
      · exact others earlier isLater same
  · rw [unchanged other here] at found
    obtain ⟨earlier, earlierMember, same, less, moves⟩ :=
      moved other info different found slot
    rcases List.mem_cons.mp earlierMember with rfl | isLater
    · exact absurd same.symm here
    · refine ⟨earlier, isLater, same, less, ?_⟩
      rw [reinstalls_congr (unchanged _ (others earlier isLater))]
      exact moves

theorem Placed.foldl_updateApp (placed : controller.Placed shapers setup)
    (apart : Apart shapers) (choice : IdChoice)
    {apps : List (String × NetworkApp)} {start : Nat}
    (nodup : (apps.map Prod.fst).Nodup)
    (clears : controller.Clears shapers setup (apps.zipIdx start)) :
    ((apps.zipIdx start).foldl (NetworkController.updateApp shapers choice)
      controller).Placed shapers setup := by
  induction apps generalizing controller start with
  | nil => exact placed
  | cons first rest ih =>
    rw [List.map_cons, List.nodup_cons] at nodup
    rw [List.zipIdx_cons] at clears ⊢
    have later : ∀ entry ∈ rest.zipIdx (start + 1), start < entry.2 :=
      fun entry member => List.le_snd_of_mem_zipIdx member
    have others : ∀ entry ∈ rest.zipIdx (start + 1), entry.1.1 ≠ first.1 := by
      intro entry member same
      apply nodup.1
      rw [← same]
      exact List.mem_map_of_mem (List.fst_mem_of_mem_zipIdx member)
    exact ih (placed.updateApp apart choice clears later)
      nodup.2 (clears.updateApp apart choice later others)

theorem Placed.foldl_remove (placed : controller.Placed shapers setup)
    (gone : List String) :
    (gone.foldl removeAppNetworkRules controller).Placed shapers setup :=
  List.foldlRecOn gone removeAppNetworkRules
    (motive := fun controller => controller.Placed shapers setup) placed
    fun _ placed appId _ => placed.remove appId

instance decidableMark (matching : FilterMatch) :
    Decidable (∃ mark, matching = .mark mark) :=
  match matching with
  | .mark mark => .isTrue ⟨mark, rfl⟩
  | .dport _ => .isFalse fun ⟨_, same⟩ => nomatch same
  | .sport _ => .isFalse fun ⟨_, same⟩ => nomatch same

/-- At a position of the list no port filter has the priorities, and another
app that has them is gone from the list, or is installed anew before. -/
@[mk_iff] structure VacatesAt (controller : NetworkController)
    (shapers : List NicShaper) (apps : OrderedDict String NetworkApp)
    (entry : (String × NetworkApp) × Nat) : Prop where
  ports : ∀ shaper ∈ shapers, ∀ direction,
    ∀ filter ∈ controller.filters.atPrio (shaper.parent direction)
        (basePrio direction + entry.2),
      ∃ mark, filter.matching = .mark mark
  apps : ∀ shaper ∈ shapers, ∀ direction,
    ∀ other ∈ controller.appFilterInfo.entries, other.1 ≠ entry.1.1 →
      (shaper.parent direction, basePrio direction + entry.2) ∈ other.2.slots →
      other.1 ∈ apps.keys →
      controller.MovesBefore apps.entries.zipIdx other.1 entry.2

instance decidableVacatesAt
    (controller : NetworkController)
    (shapers : List NicShaper)
    (apps : OrderedDict String NetworkApp)
    (entry : (String × NetworkApp) × Nat) :
    Decidable (controller.VacatesAt shapers apps entry) :=
  decidable_of_iff _ (vacatesAt_iff controller shapers apps entry).symm

/-- The positions at which filters are installed anew are vacant by then. -/
def Vacates (controller : NetworkController) (shapers : List NicShaper)
    (apps : OrderedDict String NetworkApp) : Prop :=
  ∀ entry ∈ apps.entries.zipIdx,
    controller.Reinstalls entry.1.1 entry.1.2 → entry.1.2.tier ≠ .system →
    controller.VacatesAt shapers apps entry

instance decidableVacates
    (controller : NetworkController)
    (shapers : List NicShaper)
    (apps : OrderedDict String NetworkApp) :
    Decidable (controller.Vacates shapers apps) :=
  inferInstanceAs (Decidable (∀ entry ∈ apps.entries.zipIdx, _ → _ → _))

theorem Placed.update (placed : controller.Placed shapers setup)
    (apart : Apart shapers) (unmarked : Unmarked shapers setup)
    (choice : IdChoice) (order : SetOrder String)
    {apps : OrderedDict String NetworkApp}
    (vacates : controller.Vacates shapers apps) :
    (controller.updateAppNetworkControl shapers choice order apps).Placed
      shapers setup := by
  have gone_iff : ∀ appId,
      appId ∈ order.walk (controller.appFilterInfo.keys.toFinset \
        apps.keys.toFinset) ↔
        appId ∈ controller.appFilterInfo.keys ∧ appId ∉ apps.keys := by
    intro appId
    simp [order.mem_walk]
  unfold updateAppNetworkControl
  simp only
  generalize order.walk (controller.appFilterInfo.keys.toFinset \
    apps.keys.toFinset) = gone at gone_iff
  have unchanged : ∀ appId ∈ apps.keys,
      (gone.foldl removeAppNetworkRules controller).appFilterInfo.get? appId =
        controller.appFilterInfo.get? appId := by
    intro appId listed
    rw [info_foldl_remove, if_neg]
    exact fun isGone => ((gone_iff appId).mp isGone).2 listed
  have listed : ∀ entry ∈ apps.entries.zipIdx, entry.1.1 ∈ apps.keys :=
    fun entry member => List.mem_map_of_mem (List.fst_mem_of_mem_zipIdx member)
  apply (placed.foldl_remove gone).foldl_updateApp apart choice apps.nodupKeys
  intro entry member reinstalls tier shaper isShaper direction
  have vacant := vacates entry member
    ((reinstalls_congr (unchanged _ (listed entry member)) _).mp reinstalls)
    tier
  constructor
  · rcases placed.atPrio_cases isShaper direction
        (basePrio direction + entry.2) with
      ⟨-, -, -, -, -, -, clear, -⟩ | atSetup
    · exact clear
    · rw [← atSetup, List.eq_nil_iff_forall_not_mem]
      intro filter there
      obtain ⟨mark, matching⟩ :=
        vacant.ports shaper isShaper direction filter there
      rw [atSetup] at there
      exact unmarked shaper isShaper direction filter
        (List.mem_filter.mp there).1 mark matching
  · intro other info different found slot
    rw [info_foldl_remove] at found
    split at found
    · cases found
    next stays =>
    have otherListed : other ∈ apps.keys := by
      by_contra unlisted
      refine stays ((gone_iff other).mpr ⟨?_, unlisted⟩)
      exact List.mem_map_of_mem ((OrderedDict.get?_eq_some_iff _ _ _).mp found)
    obtain ⟨earlier, earlierMember, same, less, moves⟩ :=
      vacant.apps shaper isShaper direction (other, info)
        ((OrderedDict.get?_eq_some_iff _ _ _).mp found) different slot
        otherListed
    refine ⟨earlier, earlierMember, same, less, ?_⟩
    rwa [reinstalls_congr (unchanged _ (listed earlier earlierMember))]

/-! ## Setup -/

theorem PortsOnly.add (portsOnly : PortsOnly parent filters)
    (elsewhere : FilterParent) (port : ∀ mark, filter.matching ≠ .mark mark) :
    PortsOnly parent (filters.add elsewhere filter) := by
  intro other member
  by_cases here : parent = elsewhere
  · subst here
    rw [TcFilters.add, Function.update_self, List.mem_append,
      List.mem_singleton] at member
    rcases member with before | rfl
    · exact portsOnly other before
    · exact port
  · rw [TcFilters.add, Function.update_of_ne here] at member
    exact portsOnly other member

theorem PortsOnly.setSystemPorts (portsOnly : PortsOnly parent filters)
    (ports : List Int) (shaper : NicShaper) :
    PortsOnly parent (setSystemPorts ports filters shaper) := by
  refine List.foldlRecOn _ (addPortFilters shaper)
    (motive := PortsOnly parent) portsOnly fun _ kept entry _ => ?_
  apply ((((kept.add _ ?_).add _ ?_).add _ ?_).add _ ?_) <;>
    exact fun _ same => nomatch same

theorem deleteTrees_apply (filters : TcFilters) (shaper : NicShaper)
    (parent : FilterParent) :
    deleteTrees filters shaper parent = filters parent ∨
      deleteTrees filters shaper parent = [] := by
  simp only [deleteTrees, Function.update_apply]
  split
  · exact .inr rfl
  split
  · exact .inr rfl
  · exact .inl rfl

theorem deleteTrees_self (filters : TcFilters) (shaper : NicShaper)
    (direction : Direction) :
    deleteTrees filters shaper (shaper.parent direction) = [] := by
  cases direction <;> simp [deleteTrees, NicShaper.parent, device, handle]

theorem unmarked_setup (controller : NetworkController) (config : NetworkConfig)
    (ports : List Int) (shapers : List NicShaper) :
    Unmarked shapers (controller.setup config ports true shapers).filters := by
  have kept : ∀ (rest : List NicShaper) (before : NetworkController)
      (parent : FilterParent), PortsOnly parent before.filters →
      PortsOnly parent
        (rest.foldl (setupShaper config ports) before).filters := by
    intro rest before parent portsOnly
    refine List.foldlRecOn rest (setupShaper config ports)
      (motive := fun after => PortsOnly parent after.filters) portsOnly
      fun after kept shaper _ => PortsOnly.setSystemPorts ?_ ports shaper
    intro filter member
    rcases deleteTrees_apply after.filters shaper parent with same | none
    · exact kept filter (same ▸ member)
    · rw [none] at member
      cases member
  rw [setup, if_pos rfl]
  intro shaper isShaper direction
  induction shapers generalizing controller with
  | nil => cases isShaper
  | cons first rest ih =>
    rw [List.foldl_cons]
    rcases List.mem_cons.mp isShaper with rfl | later
    · apply kept
      apply PortsOnly.setSystemPorts
      intro filter member
      rw [deleteTrees_self] at member
      cases member
    · exact ih _ later

/-- After setup no app has a slot. -/
theorem placed_setup (classes : HtbClasses) (filters : TcFilters)
    (iptables : List IptablesRule) (files : RxFile → String)
    (config : NetworkConfig) (ports : List Int) (shapers : List NicShaper) :
    ((init classes filters iptables files).setup config ports true
      shapers).Placed shapers
        ((init classes filters iptables files).setup config ports true
          shapers).filters := by
  have same := sameApps_setup (init classes filters iptables files) config
    ports true shapers
  have absent : ∀ appId, ((init classes filters iptables files).setup config
      ports true shapers).appFilterInfo.get? appId = none := by
    intro appId
    rw [same.appFilterInfo]
    rfl
  refine ⟨marksSound_of_sameApps_init same, ?_, ?_, ?_, ?_, ?_⟩
  · obtain ⟨classes, filters, same⟩ := exists_setup_eq
      (init classes filters iptables files) config ports true shapers
    rw [same]
    rfl
  · intro appId info found
    rw [absent] at found
    cases found
  · intro appId info mark found
    rw [absent] at found
    cases found
  · intro appId info mark found
    rw [absent] at found
    cases found
  · exact fun _ _ _ _ _ => rfl

end NetworkController

/-! ## Sequences of updates -/

/-- A call of `update_app_network_control`, with the apps of the moment. -/
structure AppUpdate where
  choice : IdChoice
  order : SetOrder String
  apps : OrderedDict String NetworkApp

namespace AppUpdate

open NetworkController

def step (shapers : List NicShaper) (controller : NetworkController)
    (update : AppUpdate) : NetworkController :=
  controller.updateAppNetworkControl shapers update.choice update.order
    update.apps

/-- As long as every update vacates the positions it fills, the filters of the
apps stay apart. -/
theorem filters_apart (monitors : OrderedDict String Int) (classes : HtbClasses)
    (filters : TcFilters) (iptables : List IptablesRule)
    (files : RxFile → String) (config : NetworkConfig) (ports : List Int)
    (updates : List AppUpdate)
    (vacates : Runs.EveryStep (step (buildShapers monitors))
      (fun controller update =>
        controller.Vacates (buildShapers monitors) update.apps)
      ((init classes filters iptables files).setup config ports true
        (buildShapers monitors)) updates) :
    Runs.EveryPrefix (step (buildShapers monitors))
      (fun controller => controller.FiltersApart (buildShapers monitors))
      ((init classes filters iptables files).setup config ports true
        (buildShapers monitors)) updates := by
  have unmarked := unmarked_setup (init classes filters iptables files) config
    ports (buildShapers monitors)
  refine Runs.everyPrefix_of_invariant
    (fun controller => controller.Placed (buildShapers monitors)
      ((init classes filters iptables files).setup config ports true
        (buildShapers monitors)).filters) ?_ ?_
    (placed_setup classes filters iptables files config ports _) vacates
  · intro controller update placed vacates
    exact placed.update (NicShaper.apart_buildShapers monitors) unmarked
      update.choice update.order vacates
  · intro controller placed
    exact placed.filtersApart unmarked

def oneNic : OrderedDict String Int := ⟨[("eth0", 1000000)], by simp⟩

def lowTier (ids : List String) (nodup : ids.Nodup) : AppUpdate where
  choice := .least
  order := .sorted
  apps := ⟨ids.map fun appId => (appId, ⟨none, none, []⟩), by
    simpa [List.map_map, Function.comp_def] using nodup⟩

/-- After setup with one NIC. -/
def oneNicStart : NetworkController :=
  (init (fun _ _ => none) (fun _ => []) [] fun _ => "0").setup
    (.standard false) [22] true (buildShapers oneNic)

/-- An app that is reinstalled where it was, and a new one at the end. -/
theorem filters_apart_lowTier :
    Runs.EveryPrefix (step (buildShapers oneNic))
      (fun controller => controller.FiltersApart (buildShapers oneNic))
      oneNicStart
      [lowTier ["a"] (by simp), lowTier ["a", "b"] (by simp),
        lowTier ["b"] (by simp)] :=
  filters_apart oneNic _ _ _ _ (.standard false) [22] _ (by decide +kernel)

/-- A new app takes the priority of an app that has moved up in the list. -/
theorem new_app_shares_priority :
    ¬∀ (monitors : OrderedDict String Int) (classes : HtbClasses)
        (filters : TcFilters) (iptables : List IptablesRule)
        (files : RxFile → String) (config : NetworkConfig)
        (ports : List Int) (updates : List AppUpdate),
      Runs.EveryPrefix (step (buildShapers monitors))
        (fun controller => controller.FiltersApart (buildShapers monitors))
        ((init classes filters iptables files).setup config ports true
          (buildShapers monitors)) updates := by
  intro kept
  have apart := (kept oneNic (fun _ _ => none) (fun _ => []) [] (fun _ => "0")
    (.standard false) [22] [lowTier ["a", "b"] (by simp),
      lowTier ["b", "c"] (by simp)]).finally
  have slots : ∀ appId ∈ ["b", "c"],
      ((Runs.run (step (buildShapers oneNic)) oneNicStart
        [lowTier ["a", "b"] (by simp),
          lowTier ["b", "c"] (by simp)]).appFilterInfo.get? appId).map
            AppFilterInfo.slots =
        some [(("eth0", 50), 11), (("ifb0", 51), 22)] := by
    decide +kernel
  obtain ⟨left, leftFound, leftSlots⟩ :=
    Option.map_eq_some_iff.mp (slots "b" (by simp))
  obtain ⟨right, rightFound, rightSlots⟩ :=
    Option.map_eq_some_iff.mp (slots "c" (by simp))
  refine apart.distinct "b" "c" left right (by decide) leftFound rightFound
    (("eth0", 50), 11) ?_ ?_
  · rw [leftSlots]
    exact List.mem_cons_self
  · rw [rightSlots]
    exact List.mem_cons_self

end AppUpdate

end SmarTune
