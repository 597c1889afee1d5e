import Mathlib.Data.Finset.Sort
import Mathlib.Order.Interval.Finset.Nat

/-!
# Ranges of naturals

A list of naturals is grouped into maximal runs of consecutive numbers, each
kept as its two ends.  The ranges of a list cover exactly its members.
-/

namespace Ranges

/-- The runs of a list, the current one reaching from `first` to `last`. -/
def groupFrom (first last : Nat) : List Nat → List (Nat × Nat)
  | [] => [(first, last)]
  | next :: rest =>
    if next = last + 1 then groupFrom first next rest
    else (first, last) :: groupFrom next next rest

/-- The runs of a list. -/
def group : List Nat → List (Nat × Nat)
  | [] => []
  | first :: rest => groupFrom first first rest

/-- What ranges cover. -/
def covered : List (Nat × Nat) → Finset Nat
  | [] => ∅
  | (first, last) :: ranges => Finset.Icc first last ∪ covered ranges

@[simp] theorem covered_nil : covered [] = ∅ := rfl

@[simp] theorem covered_cons (first last : Nat) (ranges : List (Nat × Nat)) :
    covered ((first, last) :: ranges) =
      Finset.Icc first last ∪ covered ranges := rfl

variable {first last : Nat} {numbers : List Nat} {range : Nat × Nat}

theorem covered_groupFrom (ordered : first ≤ last) (numbers : List Nat) :
    covered (groupFrom first last numbers) =
      Finset.Icc first last ∪ numbers.toFinset := by
  induction numbers generalizing first last with
  | nil => simp [groupFrom]
  | cons next rest ih =>
    simp only [groupFrom]
    split
    · next consecutive =>
      subst consecutive
      rw [ih (by omega)]
      ext number
      simp only [Finset.mem_union, Finset.mem_Icc, List.mem_toFinset,
        List.mem_cons, ← or_assoc]
      apply or_congr_left
      omega
    · rw [covered_cons, ih le_rfl, Finset.Icc_self,
        List.toFinset_cons, Finset.insert_eq]

theorem covered_group (numbers : List Nat) :
    covered (group numbers) = numbers.toFinset := by
  cases numbers with
  | nil => rfl
  | cons first rest =>
    rw [group, covered_groupFrom le_rfl, Finset.Icc_self,
      List.toFinset_cons, Finset.insert_eq]

theorem covered_group_sort (set : Finset Nat) :
    covered (group set.sort) = set := by
  rw [covered_group, Finset.sort_toFinset]

theorem le_of_mem_groupFrom (ordered : first ≤ last)
    (member : range ∈ groupFrom first last numbers) :
    range.1 ≤ range.2 := by
  induction numbers generalizing first last with
  | nil =>
    rw [groupFrom, List.mem_singleton] at member
    rw [member]
    exact ordered
  | cons next rest ih =>
    simp only [groupFrom] at member
    split at member
    · next consecutive =>
      exact ih (by omega) member
    · rcases List.mem_cons.mp member with rfl | later
      · exact ordered
      · exact ih le_rfl later

/-- The ends of a run are in order. -/
theorem le_of_mem_group (member : range ∈ group numbers) :
    range.1 ≤ range.2 := by
  cases numbers with
  | nil => cases member
  | cons first rest => exact le_of_mem_groupFrom le_rfl member

/-! ## Canonical lists -/

/-- The ranges ascend, and between any two of them a number is missing. -/
structure Canonical (ranges : List (Nat × Nat)) : Prop where
  ordered : ∀ range ∈ ranges, range.1 ≤ range.2
  apart : ranges.Pairwise fun first second => first.2 + 1 < second.1

/-- The runs of ascending numbers begin where the current one does, or later. -/
theorem first_le_of_mem_groupFrom (ordered : first ≤ last)
    (ascending : (last :: numbers).Pairwise (· < ·))
    (member : range ∈ groupFrom first last numbers) :
    first ≤ range.1 := by
  induction numbers generalizing first last with
  | nil =>
    rw [groupFrom, List.mem_singleton] at member
    rw [member]
  | cons next rest ih =>
    have later := List.pairwise_cons.mp ascending
    have above := later.1 next List.mem_cons_self
    simp only [groupFrom] at member
    split at member
    · exact ih (by omega) later.2 member
    · rcases List.mem_cons.mp member with rfl | behind
      · exact le_rfl
      · have begun := ih le_rfl later.2 behind
        omega

theorem apart_groupFrom (ascending : (last :: numbers).Pairwise (· < ·)) :
    (groupFrom first last numbers).Pairwise fun first second =>
      first.2 + 1 < second.1 := by
  induction numbers generalizing first last with
  | nil => exact List.pairwise_singleton _ _
  | cons next rest ih =>
    have later := List.pairwise_cons.mp ascending
    have above := later.1 next List.mem_cons_self
    simp only [groupFrom]
    split
    · exact ih later.2
    · refine List.pairwise_cons.mpr ⟨?_, ih later.2⟩
      intro range member
      have begun := first_le_of_mem_groupFrom le_rfl later.2 member
      change last + 1 < range.1
      omega

theorem canonical_group (ascending : numbers.Pairwise (· < ·)) :
    Canonical (group numbers) := by
  refine ⟨fun _ => le_of_mem_group, ?_⟩
  cases numbers with
  | nil => exact List.Pairwise.nil
  | cons first rest => exact apart_groupFrom ascending

end Ranges
