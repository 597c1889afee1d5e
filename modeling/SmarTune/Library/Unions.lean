import Mathlib.Data.List.Basic

/-!
# Order-preserving unions

The union of lists keeps the first occurrence of every member, in order.
Joining lists and erasing repetitions only at the end gives the same union as
erasing them at every step.
-/

namespace Unions

variable {α : Type*} [BEq α] [LawfulBEq α]

/-- A filter and the erasure of repetitions commute. -/
theorem filter_eraseDups (keep : α → Bool) :
    ∀ list : List α, list.eraseDups.filter keep = (list.filter keep).eraseDups
  | [] => rfl
  | head :: tail => by
      have others := filter_eraseDups keep (tail.filter fun other =>
        !other == head)
      rw [List.filter_filter] at others
      cases kept : keep head with
      | true =>
        rw [List.eraseDups_cons, List.filter_cons_of_pos kept, others,
          List.filter_cons_of_pos kept, List.eraseDups_cons,
          List.filter_filter]
        simp only [Bool.and_comm]
      | false =>
        have dropped : tail.filter (fun other => keep other && !other == head)
            = tail.filter keep := by
          apply List.filter_congr
          intro other _
          cases same : other == head with
          | false => simp
          | true => simp [eq_of_beq same, kept]
        rw [List.eraseDups_cons, List.filter_cons_of_neg (by simp [kept]),
          others, List.filter_cons_of_neg (by simp [kept]), dropped]
termination_by list => list.length
decreasing_by exact Nat.lt_succ_of_le (List.length_filter_le _ _)

/-- Without repetitions there is nothing to erase. -/
theorem eraseDups_of_nodup {list : List α} (distinct : list.Nodup) :
    list.eraseDups = list := by
  induction list with
  | nil => rfl
  | cons head tail ih =>
    obtain ⟨absent, distinct⟩ := List.nodup_cons.mp distinct
    have others : tail.filter (fun other => !other == head) = tail := by
      apply List.filter_eq_self.mpr
      intro other member
      simpa using fun same : other = head => absent (same ▸ member)
    rw [List.eraseDups_cons, others, ih distinct]

theorem eraseDups_eraseDups (list : List α) :
    list.eraseDups.eraseDups = list.eraseDups := by
  induction list with
  | nil => rfl
  | cons head tail ih =>
    have others := filter_eraseDups (fun other => !other == head)
    rw [List.eraseDups_cons, ← others tail, List.eraseDups_cons,
      List.filter_filter]
    simp only [Bool.and_self]
    rw [← others tail.eraseDups, ih]

/-- Only the members of what came before matter to what is added. -/
theorem eraseDups_append_eq (first second : List α) :
    (first ++ second).eraseDups =
      first.eraseDups ++ second.eraseDups.filter fun other =>
        !first.contains other := by
  rw [List.eraseDups_append, List.removeAll, filter_eraseDups]

/-- A union of unions is the union of all. -/
theorem eraseDups_append_eraseDups (first second : List α) :
    (first.eraseDups ++ second.eraseDups).eraseDups =
      (first ++ second).eraseDups := by
  simp only [eraseDups_append_eq, eraseDups_eraseDups]
  congr 1
  apply List.filter_congr
  intro other _
  rw [Bool.not_inj_iff, Bool.eq_iff_iff]
  simp only [List.contains_iff_mem, List.mem_eraseDups]

/-- Erasing in what came before changes nothing. -/
theorem eraseDups_eraseDups_append (first second : List α) :
    (first.eraseDups ++ second).eraseDups = (first ++ second).eraseDups := by
  rw [← eraseDups_append_eraseDups, eraseDups_eraseDups,
    eraseDups_append_eraseDups]

end Unions
