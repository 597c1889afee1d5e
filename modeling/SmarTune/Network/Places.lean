import SmarTune.Network.Setup

/-!
# Where filters are

A filter is deleted by the parent it hangs from and its priority, whatever else
has that priority.  The trees of different NICs have different handles, so that
their filters do not meet.
-/

namespace SmarTune

/-- A parent and a priority, by which filters are deleted. -/
abbrev FilterSlot : Type := FilterParent × Nat

instance decidableMemSlots (slot : FilterSlot) (slots : List FilterSlot) :
    Decidable (slot ∈ slots) := inferInstance

namespace TcFilters

variable (filters : TcFilters)

def deleteSlots (slots : List FilterSlot) : TcFilters :=
  slots.foldl (fun filters slot => filters.deletePrio slot.1 slot.2) filters

theorem deleteSlots_apply (slots : List FilterSlot) (parent : FilterParent) :
    filters.deleteSlots slots parent =
      (filters parent).filter fun filter => (parent, filter.prio) ∉ slots := by
  induction slots generalizing filters with
  | nil => simp [deleteSlots]
  | cons slot slots ih =>
    obtain ⟨elsewhere, prio⟩ := slot
    have rest := ih (filters.deletePrio elsewhere prio)
    change (filters.deletePrio elsewhere prio).deleteSlots slots parent = _
    rw [rest]
    by_cases here : parent = elsewhere
    · subst here
      simp only [deletePrio, Function.update_self, List.filter_filter]
      apply List.filter_congr
      intro filter _
      simp [Bool.and_comm]
    · simp [deletePrio, Function.update_of_ne, here]

theorem atPrio_deleteSlots (slots : List FilterSlot) (parent : FilterParent)
    (prio : Nat) :
    (filters.deleteSlots slots).atPrio parent prio =
      if (parent, prio) ∈ slots then [] else filters.atPrio parent prio := by
  rw [atPrio, deleteSlots_apply, List.filter_filter]
  split
  · next deleted =>
    rw [List.filter_eq_nil_iff]
    intro filter _ both
    simp only [Bool.and_eq_true, decide_eq_true_eq] at both
    exact both.2 (both.1 ▸ deleted)
  · next kept =>
    apply List.filter_congr
    intro filter _
    by_cases found : filter.prio = prio <;> simp [found, kept]

end TcFilters

/-- The slots of an entry of `nics`. -/
def nicSlots (entry : String × NicRule) : List FilterSlot :=
  match entry.2.place with
  | none => []
  | some place =>
    [((entry.1, place.handleId), place.prioEgress),
      ((entry.2.ifbDev, place.handleId + 1), place.prioIfb)]

def AppFilterInfo.slots (info : AppFilterInfo) : List FilterSlot :=
  info.nics.flatMap nicSlots

theorem foldl_deletePlace (filters : TcFilters) (info : AppFilterInfo) :
    info.nics.foldl NetworkController.deletePlace filters =
      filters.deleteSlots info.slots := by
  have one : NetworkController.deletePlace =
      fun filters entry => filters.deleteSlots (nicSlots entry) := by
    funext filters entry
    obtain ⟨dev, ifbDev, place, egress, ifb⟩ := entry
    cases place <;> rfl
  rw [one, AppFilterInfo.slots, TcFilters.deleteSlots, List.foldl_flatMap]
  rfl

namespace NetworkController

variable (controller : NetworkController) (appId : String)

theorem removeAppNetworkRules_of_none
    (absent : controller.appFilterInfo.get? appId = none) :
    controller.removeAppNetworkRules appId = controller := by
  rw [removeAppNetworkRules, absent]

theorem filters_remove {info : AppFilterInfo}
    (found : controller.appFilterInfo.get? appId = some info) :
    (controller.removeAppNetworkRules appId).filters =
      (controller.clearAppPpsCap (some appId)).filters.deleteSlots
        info.slots := by
  simp only [removeAppNetworkRules, found, foldl_deletePlace]

theorem caps_remove {info : AppFilterInfo}
    (found : controller.appFilterInfo.get? appId = some info) :
    (controller.removeAppNetworkRules appId).appPpsCaps =
      (controller.clearAppPpsCap (some appId)).appPpsCaps := by
  simp only [removeAppNetworkRules, found]

theorem clearAppPpsCap_of_uncapped {controller : NetworkController}
    (uncapped : controller.appPpsCaps = .empty) (appId : Option String) :
    controller.clearAppPpsCap appId = controller := by
  have own : ∀ appId, controller.clearCapsOf appId = controller := by
    intro appId
    have erased : controller.appPpsCaps.erase appId = controller.appPpsCaps :=
      OrderedDict.erase_of_get?_eq_none (by rw [uncapped]; rfl)
    rw [clearCapsOf, erased, uncapped]
    cases controller
    subst uncapped
    rfl
  have all : controller.appPpsCaps.keys = [] := by rw [uncapped]; rfl
  unfold clearAppPpsCap
  split
  · split
    · exact own _
    · rw [all, List.foldl_nil]
  · rw [all, List.foldl_nil]

end NetworkController

/-! ## The trees of the NICs -/

namespace NicShaper

variable (shaper : NicShaper)

def parent (direction : Direction) : FilterParent :=
  (shaper.device direction, shaper.handle direction)

/-- The trees of different NICs have different handles. -/
def Apart (shapers : List NicShaper) : Prop :=
  shapers.Pairwise fun left right =>
    ∀ direction other, left.handle direction ≠ right.handle other

theorem apart_buildShapers (monitors : OrderedDict String Int) :
    Apart (buildShapers monitors) := by
  rw [Apart, buildShapers, List.pairwise_map]
  have increasing : ((monitors.entries.filter fun monitor =>
      0 < monitor.2).zipIdx.map Prod.snd).Pairwise (· < ·) := by
    rw [List.zipIdx_map_snd]
    exact List.pairwise_lt_range'
  refine (List.pairwise_map.mp increasing).imp fun {left right} less => ?_
  intro direction other
  cases direction <;> cases other <;> simp only [init, handle] <;> omega

/-- Different shapers are for different devices. -/
theorem nodup_dev_buildShapers (monitors : OrderedDict String Int) :
    ((buildShapers monitors).map dev).Nodup := by
  have devs : (buildShapers monitors).map dev =
      (monitors.entries.filter fun monitor => 0 < monitor.2).map Prod.fst := by
    rw [buildShapers, List.map_map,
      ← List.zipIdx_map_fst 0 (monitors.entries.filter _), List.map_map,
      List.zipIdx_map_fst]
    rfl
  rw [devs]
  exact monitors.nodupKeys.sublist (List.filter_sublist.map Prod.fst)

theorem handle_injective : Function.Injective shaper.handle := by
  intro left right same
  cases left <;> cases right <;> simp [handle] at same ⊢

variable {shapers : List NicShaper} {shaper other : NicShaper}

theorem Apart.eq_of_handle (apart : Apart shapers) (member : shaper ∈ shapers)
    (otherMember : other ∈ shapers) {direction otherDirection : Direction}
    (same : shaper.handle direction = other.handle otherDirection) :
    shaper = other ∧ direction = otherDirection := by
  have symmetric : Std.Symm fun left right : NicShaper =>
      ∀ direction other, left.handle direction ≠ right.handle other :=
    ⟨fun left right distinct direction other => (distinct other direction).symm⟩
  have equal : shaper = other := by
    by_contra different
    exact List.Pairwise.forall apart member otherMember different
      direction otherDirection same
  subst equal
  exact ⟨rfl, shaper.handle_injective same⟩

theorem Apart.handle_ne (apart : Apart shapers) {index otherIndex : Nat}
    (different : index ≠ otherIndex) (found : shapers[index]? = some shaper)
    (otherFound : shapers[otherIndex]? = some other)
    (direction otherDirection : Direction) :
    shaper.handle direction ≠ other.handle otherDirection := by
  obtain ⟨bound, rfl⟩ := List.getElem?_eq_some_iff.mp found
  obtain ⟨otherBound, rfl⟩ := List.getElem?_eq_some_iff.mp otherFound
  rw [Apart, List.pairwise_iff_getElem] at apart
  rcases Nat.lt_or_gt_of_ne different with less | greater
  · exact apart index otherIndex bound otherBound less direction otherDirection
  · exact (apart otherIndex index otherBound bound greater otherDirection
      direction).symm

theorem Apart.of_identity {others : List NicShaper} (apart : Apart others)
    (same : shapers.map identity = others.map identity) :
    Apart shapers := by
  have lengths : shapers.length = others.length := by
    simpa using congrArg List.length same
  rw [Apart, List.pairwise_iff_getElem] at apart ⊢
  intro i j iBound jBound less direction other
  have identities : ∀ index (bound : index < shapers.length)
      (otherBound : index < others.length),
      shapers[index].identity = others[index].identity := by
    intro index bound otherBound
    have entry := congrArg (·[index]?) same
    simpa [bound, otherBound] using entry
  rw [handle_congr (identities i iBound (lengths ▸ iBound)),
    handle_congr (identities j jBound (lengths ▸ jBound))]
  exact apart i j _ _ less direction other

theorem Apart.eq_of_parent (apart : Apart shapers) (member : shaper ∈ shapers)
    (otherMember : other ∈ shapers) {direction otherDirection : Direction}
    (same : shaper.parent direction = other.parent otherDirection) :
    shaper = other ∧ direction = otherDirection :=
  apart.eq_of_handle member otherMember (Prod.mk.inj same).2

end NicShaper

end SmarTune
