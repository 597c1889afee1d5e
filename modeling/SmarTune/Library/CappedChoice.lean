import Mathlib.Data.List.Basic

/-!
# Choosing from a ranking

The first items of a ranking are chosen, at most a fixed number of them, and no
more than a cap from one group.  A group is among the chosen ones exactly if
its first item comes before the places run out, where the items ranked above it
use up no more places than the cap for each of their groups.
-/

namespace CappedChoice

variable {ι κ : Type*} [DecidableEq κ] (group : ι → κ) (cap : ℕ)

/-- The choice, with the places that are left and the number of chosen items of
each group. -/
def choose : ℕ → (κ → ℕ) → List ι → List ι
  | _, _, [] => []
  | places, chosen, item :: items =>
    if cap ≤ chosen (group item) then choose places chosen items
    else item :: (if places ≤ 1 then [] else choose (places - 1)
      (Function.update chosen (group item) (chosen (group item) + 1)) items)

/-- The items that the cap lets through. -/
def capped : (κ → ℕ) → List ι → List ι
  | _, [] => []
  | chosen, item :: items =>
    if cap ≤ chosen (group item) then capped chosen items
    else item :: capped
      (Function.update chosen (group item) (chosen (group item) + 1)) items

/-- The items ranked above a group. -/
def above (place : κ) (items : List ι) : List ι :=
  items.takeWhile fun item => group item ≠ place

variable {group cap}

theorem choose_eq_take {places : ℕ} (some_ : 0 < places) (chosen : κ → ℕ)
    (items : List ι) :
    choose group cap places chosen items =
      (capped group cap chosen items).take places := by
  induction items generalizing places chosen with
  | nil => simp [choose, capped]
  | cons item items ih =>
    unfold choose capped
    split
    · exact ih some_ chosen
    · obtain ⟨left, rfl⟩ := Nat.exists_eq_add_of_lt some_
      rw [Nat.zero_add, List.take_succ_cons, List.cons.injEq]
      refine ⟨rfl, ?_⟩
      split
      · next last =>
        obtain rfl : left = 0 := by omega
        exact List.take_zero.symm
      · rw [Nat.add_sub_cancel]
        exact ih (by omega) _

/-- A group that the cap does not hold back is chosen at its first item. -/
theorem exists_mem_take_capped_iff {places : ℕ} {place : κ} {chosen : κ → ℕ}
    (open_ : chosen place < cap) (items : List ι) :
    (∃ item ∈ (capped group cap chosen items).take places,
        group item = place) ↔
      (∃ item ∈ items, group item = place) ∧
        (capped group cap chosen (above group place items)).length <
          places := by
  induction items generalizing places chosen with
  | nil => simp [capped]
  | cons item items ih =>
    by_cases here : group item = place
    · have taken : capped group cap chosen (item :: items) = item :: capped
          group cap (Function.update chosen (group item)
            (chosen (group item) + 1)) items := by
        rw [capped, if_neg (by rw [here]; exact Nat.not_le.mpr open_)]
      have none : above group place (item :: items) = [] := by
        simp [above, here]
      rw [taken, none]
      cases places with
      | zero => simp
      | succ places =>
        simp only [List.take_succ_cons, capped, List.length_nil]
        exact ⟨fun _ => ⟨⟨item, List.mem_cons_self, here⟩, Nat.succ_pos _⟩,
          fun _ => ⟨item, List.mem_cons_self, here⟩⟩
    · have skipped : above group place (item :: items) =
          item :: above group place items := by
        simp [above, here]
      have elsewhere : (∃ other ∈ item :: items, group other = place) ↔
          ∃ other ∈ items, group other = place := by
        simp [here]
      rw [skipped, elsewhere]
      unfold capped
      split
      · exact ih open_
      · have still : Function.update chosen (group item)
            (chosen (group item) + 1) place < cap := by
          rw [Function.update_of_ne (Ne.symm here)]
          exact open_
        cases places with
        | zero => simp
        | succ places =>
          rw [List.take_succ_cons, List.length_cons, Nat.succ_lt_succ_iff,
            ← ih still]
          simp [here]

/-- The groups of a choice. -/
theorem exists_mem_choose_iff {places : ℕ} (some_ : 0 < places)
    (capPos : 0 < cap) (place : κ) (items : List ι) :
    (∃ item ∈ choose group cap places (fun _ => 0) items,
        group item = place) ↔
      (∃ item ∈ items, group item = place) ∧
        (capped group cap (fun _ => 0) (above group place items)).length <
          places := by
  rw [choose_eq_take some_]
  exact @exists_mem_take_capped_iff ι κ _ group cap places place (fun _ => 0)
    capPos items

/-! ## What a choice leaves out -/

theorem capped_sublist (chosen : κ → ℕ) (items : List ι) :
    (capped group cap chosen items).Sublist items := by
  induction items generalizing chosen with
  | nil => exact .slnil
  | cons item items ih =>
    unfold capped
    split
    · exact (ih chosen).cons item
    · exact (ih _).cons_cons item

theorem length_capped_le (place : κ) (chosen : κ → ℕ) (items : List ι) :
    ((capped group cap chosen items).filter fun item =>
      group item = place).length ≤ cap - chosen place := by
  induction items generalizing chosen with
  | nil => exact Nat.zero_le _
  | cons item items ih =>
    unfold capped
    split
    · exact ih chosen
    · next open_ =>
      have rest := ih (Function.update chosen (group item)
        (chosen (group item) + 1))
      by_cases here : group item = place
      · subst here
        rw [Function.update_self] at rest
        rw [List.filter_cons_of_pos (by simp), List.length_cons]
        omega
      · rw [Function.update_of_ne (Ne.symm here)] at rest
        rwa [List.filter_cons_of_neg (by simp [here])]

/-- The cap holds an item back only when its group has its share. -/
theorem mem_capped_or (chosen : κ → ℕ) {items : List ι} {item : ι}
    (member : item ∈ items) :
    item ∈ capped group cap chosen items ∨
      cap - chosen (group item) ≤ ((capped group cap chosen items).filter
        fun other => group other = group item).length := by
  induction items generalizing chosen with
  | nil => cases member
  | cons first items ih =>
    unfold capped
    split
    · next full =>
      rcases List.mem_cons.mp member with rfl | later
      · exact .inr (by omega)
      · exact ih chosen later
    · rcases List.mem_cons.mp member with rfl | later
      · exact .inl List.mem_cons_self
      · refine (ih _ later).imp (List.mem_cons_of_mem first) fun share => ?_
        by_cases here : group first = group item
        · rw [here, Function.update_self] at share
          rw [List.filter_cons_of_pos (by simp [here]), List.length_cons, here]
          omega
        · rw [Function.update_of_ne (Ne.symm here)] at share
          rwa [List.filter_cons_of_neg (by simp [here])]

end CappedChoice
