import Mathlib.Data.List.Induction
import Mathlib.Data.List.Nodup

/-!
# Grouping a list by a key

A loop goes over a list and keeps one group for each key it has met, in the
order in which it met them: an item opens the group of its key or is added to
it.  The result is one group for each distinct key, made of the items with that
key in their order.
-/

namespace Grouping

/-- One more item at the end opens a place only for a new value. -/
theorem eraseDups_append_singleton {κ : Type*} [BEq κ] [LawfulBEq κ]
    (keys : List κ) (key : κ) :
    (keys ++ [key]).eraseDups =
      if key ∈ keys then keys.eraseDups else keys.eraseDups ++ [key] := by
  rw [List.eraseDups_append, List.removeAll]
  by_cases known : key ∈ keys <;> simp [known, List.eraseDups_cons]

theorem nodup_eraseDups {κ : Type*} [BEq κ] [LawfulBEq κ] (keys : List κ) :
    keys.eraseDups.Nodup := by
  induction keys using List.reverseRecOn with
  | nil => exact List.nodup_nil
  | append_singleton keys key ih =>
    rw [eraseDups_append_singleton]
    split
    · exact ih
    · next fresh =>
        refine List.Nodup.append ih (List.nodup_singleton key) ?_
        simpa using fresh

theorem eraseDups_map_of_injective {κ μ : Type*} [BEq κ] [LawfulBEq κ] [BEq μ]
    [LawfulBEq μ] {change : κ → μ} (injective : Function.Injective change)
    (keys : List κ) :
    (keys.map change).eraseDups = keys.eraseDups.map change := by
  induction keys using List.reverseRecOn with
  | nil => rfl
  | append_singleton keys key ih =>
    rw [List.map_append, List.map_singleton, eraseDups_append_singleton,
      eraseDups_append_singleton, ih]
    simp only [List.mem_map_of_injective injective]
    split <;> simp

theorem flatMap_filter_perm {ι κ : Type*} [BEq κ] [LawfulBEq κ] (key : ι → κ) :
    ∀ {keys : List κ} {items : List ι}, keys.Nodup →
      (∀ item ∈ items, key item ∈ keys) → (keys.flatMap fun wanted =>
          items.filter fun item => key item == wanted).Perm items
  | [], items, _, covered => by
      rw [List.eq_nil_iff_forall_not_mem.mpr fun item member =>
        absurd (covered item member) List.not_mem_nil]
      exact .refl []
  | first :: keys, items, distinct, covered => by
      rw [List.nodup_cons] at distinct
      let others := items.filter fun item => !(key item == first)
      have others_covered : ∀ item ∈ others, key item ∈ keys := by
        intro item member
        obtain ⟨inside, different⟩ := List.mem_filter.mp member
        have known := covered item inside
        simp only [Bool.not_eq_true', beq_eq_false_iff_ne] at different
        exact (List.mem_cons.mp known).resolve_left different
      have rest := flatMap_filter_perm key distinct.2 others_covered
      have same : (keys.flatMap fun wanted =>
            items.filter fun item => key item == wanted) =
          keys.flatMap fun wanted =>
            others.filter fun item => key item == wanted := by
        refine List.flatMap_congr fun wanted member => ?_
        rw [List.filter_filter]
        refine List.filter_congr fun item _ => ?_
        by_cases equal : key item = wanted
        · have different : wanted ≠ first := by
            rintro rfl
            exact distinct.1 member
          simp [equal, different]
        · simp [equal]
      rw [List.flatMap_cons, same]
      exact (rest.append_left _).trans (List.filter_append_perm _ items)

section Collect

variable {ι κ ν : Type*} [BEq κ]
  (key : ι → κ) (fresh : ι → ν) (add : ν → ι → ν)

def join (item : ι) : List (κ × ν) → List (κ × ν)
  | [] => [(key item, fresh item)]
  | group :: groups =>
    if group.1 == key item then (group.1, add group.2 item) :: groups
    else group :: join item groups

/-- The loop over the items. -/
def collect (items : List ι) : List (κ × ν) :=
  items.foldl (fun groups item => join key fresh add item groups) []

variable [LawfulBEq κ]

theorem join_of_not_mem {item : ι} {groups : List (κ × ν)}
    (unknown : key item ∉ groups.map Prod.fst) :
    join key fresh add item groups = groups ++ [(key item, fresh item)] := by
  induction groups with
  | nil => rfl
  | cons group groups ih =>
    rw [List.map_cons, List.mem_cons, not_or] at unknown
    rw [join, if_neg (by simpa using Ne.symm unknown.1), ih unknown.2]
    rfl

theorem join_of_mem {item : ι} {groups : List (κ × ν)}
    (distinct : (groups.map Prod.fst).Nodup)
    (known : key item ∈ groups.map Prod.fst) :
    join key fresh add item groups = groups.map fun group =>
        if group.1 == key item then (group.1, add group.2 item) else group := by
  induction groups with
  | nil => simp at known
  | cons group groups ih =>
    rw [List.map_cons, List.nodup_cons] at distinct
    rw [join, List.map_cons]
    split
    · next same =>
        have others : groups.map (fun other =>
            if other.1 == key item then (other.1, add other.2 item)
            else other) = groups.map id := by
          refine List.map_congr_left fun other member => if_neg ?_
          intro equal
          rw [eq_of_beq same, ← eq_of_beq equal] at distinct
          exact distinct.1 (List.mem_map_of_mem member)
        rw [others, List.map_id]
    · next different =>
        rw [List.map_cons, List.mem_cons] at known
        rw [ih distinct.2
          (known.resolve_left fun same => different (by simp [same]))]

theorem collect_eq {total : List ι → ν}
    (one : ∀ item, total [item] = fresh item)
    (more : ∀ members item, members ≠ [] →
      total (members ++ [item]) = add (total members) item)
    (items : List ι) :
    collect key fresh add items = (items.map key).eraseDups.map fun wanted =>
        (wanted, total (items.filter fun item => key item == wanted)) := by
  induction items using List.reverseRecOn with
  | nil => rfl
  | append_singleton items item ih =>
    have keys : (collect key fresh add items).map Prod.fst =
        (items.map key).eraseDups := by
      rw [ih, List.map_map]
      exact List.map_id _
    rw [collect, List.foldl_append, List.foldl_cons, List.foldl_nil,
      ← collect, List.map_append, List.map_singleton,
      eraseDups_append_singleton]
    by_cases known : key item ∈ items.map key
    · rw [join_of_mem key fresh add (keys ▸ nodup_eraseDups _)
        (by rwa [keys, List.mem_eraseDups]), if_pos known,
        ih, List.map_map]
      refine List.map_congr_left fun wanted _ => ?_
      by_cases same : wanted = key item
      · subst same
        have nonempty :
            (items.filter fun other => key other == key item) ≠ [] := by
          simpa [List.filter_eq_nil_iff] using known
        simp [List.filter_append, more _ _ nonempty]
      · simp [List.filter_append, same, Ne.symm same]
    · rw [join_of_not_mem key fresh add (by rwa [keys, List.mem_eraseDups]),
        if_neg known, ih, List.map_append,
        List.map_singleton]
      congr 1
      · refine List.map_congr_left fun wanted member => ?_
        have different : key item ≠ wanted := by
          rintro rfl
          exact known (List.mem_eraseDups.mp member)
        simp [List.filter_append, different]
      · have nothing :
            (items.filter fun other => key other == key item) = [] := by
          simpa [List.filter_eq_nil_iff] using known
        simp [List.filter_append, nothing, one]

end Collect

end Grouping
