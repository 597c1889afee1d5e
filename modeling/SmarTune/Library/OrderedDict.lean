import Mathlib.Data.Finset.Sort

/-!
# Insertion-ordered dictionaries

A dictionary is a list of key-value pairs with distinct keys, in the order in
which the keys were first inserted.  Overwriting a key keeps its place, erasing
it forgets the place, and `moveToEnd` makes a present key the youngest one.
-/

/-- An insertion-ordered dictionary. -/
structure OrderedDict (κ ν : Type*) where
  /-- The stored pairs, oldest key first. -/
  entries : List (κ × ν)
  /-- No key is stored twice. -/
  nodupKeys : (entries.map Prod.fst).Nodup

namespace OrderedDict

variable {κ ν : Type*}

@[ext] theorem ext {left right : OrderedDict κ ν}
    (equal : left.entries = right.entries) :
    left = right := by
  cases left
  cases right
  cases equal
  rfl

/-- The dictionary without keys. -/
def empty : OrderedDict κ ν := ⟨[], List.nodup_nil⟩

@[simp] theorem entries_empty : (empty : OrderedDict κ ν).entries = [] := rfl

/-- The keys, oldest first. -/
def keys (dict : OrderedDict κ ν) : List κ := dict.entries.map Prod.fst

def values (dict : OrderedDict κ ν) : List ν := dict.entries.map Prod.snd

variable {key other : κ} {dict : OrderedDict κ ν} {found value : ν}

/-- A key stores at most one value. -/
theorem eq_of_mem_entries (dict : OrderedDict κ ν) {left right : ν}
    (leftMember : (key, left) ∈ dict.entries)
    (rightMember : (key, right) ∈ dict.entries) :
    left = right := by
  have injective := List.inj_on_of_nodup_map dict.nodupKeys
  exact congrArg Prod.snd (injective leftMember rightMember rfl)

variable [DecidableEq κ]

/-- Look a key up. -/
def get? (dict : OrderedDict κ ν) (key : κ) : Option ν :=
  (dict.entries.find? fun entry => entry.1 = key).map Prod.snd

@[simp] theorem get?_empty (key : κ) :
    (empty : OrderedDict κ ν).get? key = none := rfl

/-- Looking a key up finds exactly the stored pair. -/
theorem get?_eq_some_iff (dict : OrderedDict κ ν) (key : κ) (value : ν) :
    dict.get? key = some value ↔ (key, value) ∈ dict.entries := by
  constructor
  · intro found
    obtain ⟨entry, entryFound, valueEq⟩ := Option.map_eq_some_iff.mp found
    have member := List.mem_of_find?_eq_some entryFound
    have keyEq := List.find?_some entryFound
    simp only [decide_eq_true_eq] at keyEq
    subst keyEq
    subst valueEq
    exact member
  · intro member
    cases found : dict.get? key with
    | some other =>
      obtain ⟨entry, entryFound, valueEq⟩ := Option.map_eq_some_iff.mp found
      have otherMember := List.mem_of_find?_eq_some entryFound
      have keyEq := List.find?_some entryFound
      simp only [decide_eq_true_eq] at keyEq
      subst keyEq
      subst valueEq
      rw [dict.eq_of_mem_entries otherMember member]
    | none =>
      have absent := List.find?_eq_none.mp (Option.map_eq_none_iff.mp found)
      exact (absent _ member (decide_eq_true rfl)).elim

/-- A lookup fails exactly when no pair carries the key. -/
theorem get?_eq_none_iff (dict : OrderedDict κ ν) (key : κ) :
    dict.get? key = none ↔ ∀ value, (key, value) ∉ dict.entries := by
  rw [Option.eq_none_iff_forall_ne_some]
  simp only [ne_eq, get?_eq_some_iff]

/-- The values a function keeps, rewritten by it. -/
def filterMap {μ : Type*} (keep : κ → ν → Option μ)
    (dict : OrderedDict κ ν) : OrderedDict κ μ where
  entries := dict.entries.filterMap fun entry =>
    (keep entry.1 entry.2).map (entry.1, ·)
  nodupKeys := by
    have kept : ((dict.entries.filterMap fun entry =>
        (keep entry.1 entry.2).map (entry.1, ·)).map Prod.fst).Sublist
        (dict.entries.map Prod.fst) := by
      induction dict.entries with
      | nil => exact .slnil
      | cons entry entries ih =>
        cases found : keep entry.1 entry.2 with
        | none => simpa [found] using ih.cons entry.1
        | some value => simpa [found] using ih.cons_cons entry.1
    exact dict.nodupKeys.sublist kept

theorem get?_filterMap {μ : Type*} (keep : κ → ν → Option μ)
    (dict : OrderedDict κ ν) (key : κ) :
    (dict.filterMap keep).get? key = (dict.get? key).bind (keep key) := by
  apply Option.ext
  intro value
  simp only [get?_eq_some_iff, filterMap, List.mem_filterMap,
    Option.map_eq_some_iff, Option.bind_eq_some_iff, Prod.mk.injEq]
  constructor
  · rintro ⟨⟨_, old⟩, member, _, kept, rfl, rfl⟩
    exact ⟨old, member, kept⟩
  · rintro ⟨old, member, kept⟩
    exact ⟨(key, old), member, value, kept, rfl, rfl⟩

/-! ## Erasing -/

/-- Remove a key. -/
def erase (dict : OrderedDict κ ν) (key : κ) : OrderedDict κ ν where
  entries := dict.entries.filter fun entry => entry.1 ≠ key
  nodupKeys := dict.nodupKeys.sublist (List.filter_sublist.map Prod.fst)

@[simp] theorem mem_entries_erase (dict : OrderedDict κ ν) (key : κ)
    (entry : κ × ν) :
    entry ∈ (dict.erase key).entries ↔
      entry ∈ dict.entries ∧ entry.1 ≠ key := by
  simp [erase]

theorem get?_erase (dict : OrderedDict κ ν) (key other : κ) :
    (dict.erase key).get? other =
      if other = key then none else dict.get? other := by
  apply Option.ext
  intro value
  split
  · next same => simp [get?_eq_some_iff, same]
  · next different => simp [get?_eq_some_iff, different]

@[simp] theorem get?_erase_self (dict : OrderedDict κ ν) (key : κ) :
    (dict.erase key).get? key = none := by
  rw [get?_erase, if_pos rfl]

theorem get?_erase_of_ne (dict : OrderedDict κ ν) (different : other ≠ key) :
    (dict.erase key).get? other = dict.get? other := by
  rw [get?_erase, if_neg different]

/-- What is there after an erasure was there under another key. -/
theorem get?_erase_eq_some_iff :
    (dict.erase key).get? other = some found ↔
      other ≠ key ∧ dict.get? other = some found := by
  rw [get?_eq_some_iff, mem_entries_erase, get?_eq_some_iff, and_comm]

theorem erase_of_get?_eq_none (absent : dict.get? key = none) :
    dict.erase key = dict := by
  apply OrderedDict.ext
  rw [erase, List.filter_eq_self]
  rintro ⟨other, value⟩ member
  rw [decide_eq_true_eq]
  rintro rfl
  rw [(get?_eq_some_iff dict other value).mpr member] at absent
  cases absent

theorem exists_split (found : dict.get? key = some value) :
    ∃ older younger, dict.entries = older ++ (key, value) :: younger ∧
      (dict.erase key).entries = older ++ younger ∧
      ∀ entry ∈ older ++ younger, entry.1 ≠ key := by
  obtain ⟨older, younger, split⟩ :=
    List.append_of_mem ((get?_eq_some_iff dict key value).mp found)
  have nodup := dict.nodupKeys
  rw [split, List.map_append, List.map_cons, List.nodup_middle,
    List.nodup_cons, ← List.map_append] at nodup
  have others : ∀ entry ∈ older ++ younger, entry.1 ≠ key := by
    intro entry member same
    exact nodup.1 (List.mem_map.mpr ⟨entry, member, same⟩)
  refine ⟨older, younger, split, ?_, others⟩
  change (dict.entries.filter fun entry => entry.1 ≠ key) = _
  rw [split, List.filter_append, List.filter_cons_of_neg (by simp),
    ← List.filter_append, List.filter_eq_self]
  exact fun entry member => decide_eq_true (others entry member)

/-! ## Writing -/

/-- Store a value: a present key keeps its place, a new key becomes the
youngest. -/
def set (dict : OrderedDict κ ν) (key : κ) (value : ν) : OrderedDict κ ν where
  entries :=
    if key ∈ dict.entries.map Prod.fst then
      dict.entries.map fun entry => if entry.1 = key then (key, value) else entry
    else dict.entries ++ [(key, value)]
  nodupKeys := by
    split
    · rw [List.map_map]
      convert dict.nodupKeys using 1
      apply List.map_congr_left
      intro entry _
      simp only [Function.comp_apply]
      split
      · next same => exact same.symm
      · rfl
    · next absent =>
      rw [List.map_append, List.nodup_append]
      refine ⟨dict.nodupKeys, by simp, ?_⟩
      rintro left leftMember right rightMember rfl
      simp only [List.map_cons, List.map_nil, List.mem_singleton] at rightMember
      exact absent (rightMember ▸ leftMember)

theorem set_set (dict : OrderedDict κ ν) (key : κ) (first second : ν) :
    (dict.set key first).set key second = dict.set key second := by
  apply OrderedDict.ext
  by_cases present : key ∈ dict.entries.map Prod.fst
  · have stored : ∀ value, (dict.set key value).entries =
        dict.entries.map fun entry =>
          if entry.1 = key then (key, value) else entry :=
      fun value => if_pos present
    have still : key ∈ (dict.set key first).entries.map Prod.fst := by
      obtain ⟨entry, member, same⟩ := List.mem_map.mp present
      rw [stored, List.map_map]
      exact List.mem_map.mpr ⟨entry, member, by simp [same]⟩
    refine (if_pos still).trans ?_
    rw [stored, stored, List.map_map]
    apply List.map_congr_left
    intro entry _
    by_cases same : entry.1 = key <;> simp [same]
  · have stored : ∀ value, (dict.set key value).entries =
        dict.entries ++ [(key, value)] :=
      fun value => if_neg present
    have still : key ∈ (dict.set key first).entries.map Prod.fst := by
      simp [stored]
    have others : dict.entries.map (fun entry =>
        if entry.1 = key then (key, second) else entry) = dict.entries := by
      refine (List.map_congr_left ?_).trans (List.map_id _)
      intro entry member
      have other : entry.1 ≠ key := fun same =>
        present (List.mem_map.mpr ⟨entry, member, same⟩)
      rw [if_neg other]
      rfl
    refine (if_pos still).trans ?_
    rw [stored, stored, List.map_append, others]
    simp

theorem mem_entries_set (dict : OrderedDict κ ν) (key : κ) (value : ν)
    (entry : κ × ν) :
    entry ∈ (dict.set key value).entries ↔
      entry = (key, value) ∨ (entry ∈ dict.entries ∧ entry.1 ≠ key) := by
  unfold set
  split
  · next present =>
    simp only [List.mem_map]
    constructor
    · rintro ⟨old, oldMember, rfl⟩
      split
      · exact Or.inl rfl
      · next different => exact Or.inr ⟨oldMember, different⟩
    · rintro (rfl | ⟨member, different⟩)
      · obtain ⟨old, oldMember, keyEq⟩ := List.mem_map.mp present
        exact ⟨old, oldMember, if_pos keyEq⟩
      · exact ⟨entry, member, if_neg different⟩
  · next absent =>
    simp only [List.mem_append, List.mem_singleton]
    constructor
    · rintro (member | equal)
      · refine Or.inr ⟨member, ?_⟩
        rintro rfl
        exact absent (List.mem_map_of_mem member)
      · exact Or.inl equal
    · rintro (equal | ⟨member, _⟩)
      · exact Or.inr equal
      · exact Or.inl member

theorem get?_set (dict : OrderedDict κ ν) (key other : κ) (value : ν) :
    (dict.set key value).get? other =
      if other = key then some value else dict.get? other := by
  apply Option.ext
  intro result
  rw [get?_eq_some_iff, mem_entries_set]
  split
  · next same => simp [same, eq_comm]
  · next different => simp [get?_eq_some_iff, different]

@[simp] theorem get?_set_self (dict : OrderedDict κ ν) (key : κ) (value : ν) :
    (dict.set key value).get? key = some value := by
  rw [get?_set, if_pos rfl]

theorem get?_set_of_ne (dict : OrderedDict κ ν) (value : ν)
    (different : other ≠ key) :
    (dict.set key value).get? other = dict.get? other := by
  rw [get?_set, if_neg different]

/-- What is there after a write is what was written, or was there under another
key. -/
theorem get?_set_eq_some_iff :
    (dict.set key value).get? other = some found ↔ other = key ∧ found = value ∨
        other ≠ key ∧ dict.get? other = some found := by
  rw [get?_eq_some_iff, mem_entries_set, Prod.mk.injEq, get?_eq_some_iff,
    and_comm (a := other ≠ key)]

/-- Overwriting a key keeps the pairs around it. -/
theorem entries_set_of_split {older younger : List (κ × ν)}
    (split : dict.entries = older ++ (key, value) :: younger) (new : ν) :
    (dict.set key new).entries = older ++ (key, new) :: younger := by
  have nodup := dict.nodupKeys
  rw [split, List.map_append, List.map_cons, List.nodup_middle,
    List.nodup_cons, ← List.map_append] at nodup
  have others : ∀ entry ∈ older ++ younger,
      (if entry.1 = key then (key, new) else entry) = entry := by
    intro entry member
    exact if_neg fun same => nodup.1 (List.mem_map.mpr ⟨entry, member, same⟩)
  have kept : ∀ list : List (κ × ν), (∀ entry ∈ list, entry ∈ older ++ younger) →
      list.map (fun entry => if entry.1 = key then (key, new) else entry) =
        list := by
    intro list within
    refine (List.map_congr_left fun entry member =>
      others entry (within entry member)).trans ?_
    exact List.map_id' list
  have present : key ∈ dict.entries.map Prod.fst := by
    simp [split]
  refine (if_pos present).trans ?_
  rw [split, List.map_append, List.map_cons, if_pos rfl,
    kept older fun entry member => List.mem_append_left _ member,
    kept younger fun entry member => List.mem_append_right _ member]

/-- A new key becomes the youngest. -/
theorem entries_set_of_get?_eq_none (absent : dict.get? key = none)
    (value : ν) :
    (dict.set key value).entries = dict.entries ++ [(key, value)] := by
  apply if_neg
  intro member
  obtain ⟨⟨other, standing⟩, there, rfl⟩ := List.mem_map.mp member
  rw [(get?_eq_some_iff dict other standing).mpr there] at absent
  cases absent

/-! ## Reordering -/

/-- Make a present key the youngest one; `none` when the key is absent. -/
def moveToEnd (dict : OrderedDict κ ν) (key : κ) : Option (OrderedDict κ ν) :=
  (dict.get? key).map fun value => (dict.erase key).set key value

@[simp] theorem moveToEnd_eq_none_iff (dict : OrderedDict κ ν) (key : κ) :
    dict.moveToEnd key = none ↔ dict.get? key = none := by
  simp [moveToEnd]

/-- Reordering changes no lookup. -/
theorem get?_moveToEnd {moved : OrderedDict κ ν}
    (movedEq : dict.moveToEnd key = some moved) (other : κ) :
    moved.get? other = dict.get? other := by
  obtain ⟨value, valueEq, rfl⟩ := Option.map_eq_some_iff.mp movedEq
  rw [get?_set, get?_erase]
  split
  · next same => rw [same, valueEq]
  · rfl

/-! ## What some stored value has -/

/-- Some stored value has the property. -/
def Holds (dict : OrderedDict κ ν) (property : ν → Prop) : Prop :=
  ∃ key value, dict.get? key = some value ∧ property value

/-- No key but this one stores a value that has the property. -/
def OnlyAt (dict : OrderedDict κ ν) (key : κ) (property : ν → Prop) : Prop :=
  ∀ other value, dict.get? other = some value → property value → other = key

theorem holds_erase_iff (dict : OrderedDict κ ν) (key : κ)
    (property : ν → Prop) :
    (dict.erase key).Holds property ↔ ¬ dict.OnlyAt key property := by
  constructor
  · rintro ⟨other, value, stored, has⟩ only
    rw [get?_erase] at stored
    split at stored
    · cases stored
    · next different => exact different (only other value stored has)
  · intro spread
    simp only [OnlyAt, not_forall] at spread
    obtain ⟨other, value, stored, has, different⟩ := spread
    exact ⟨other, value, by rw [get?_erase_of_ne _ different]; exact stored,
      has⟩

/-- So does overwriting it, unless the new value has the property. -/
theorem holds_set_iff (dict : OrderedDict κ ν) (key : κ) (value : ν)
    (property : ν → Prop) :
    (dict.set key value).Holds property ↔
      property value ∨ ¬ dict.OnlyAt key property := by
  constructor
  · rintro ⟨other, found, stored, has⟩
    rw [get?_set] at stored
    split at stored
    · exact Or.inl (Option.some.inj stored ▸ has)
    · next different =>
      exact Or.inr fun only => different (only other found stored has)
  · rintro (has | spread)
    · exact ⟨key, value, get?_set_self .., has⟩
    · simp only [OnlyAt, not_forall] at spread
      obtain ⟨other, found, stored, has, different⟩ := spread
      exact ⟨other, found, by rw [get?_set_of_ne _ _ different]; exact stored,
        has⟩

/-! ## The oldest pair with a property -/

section First

variable {dict : OrderedDict κ ν} {property : κ × ν → Bool} {key other : κ}
  {value new : ν}

theorem find?_filter_ne {entries : List (κ × ν)}
    (found : entries.find? property = some (key, value))
    (different : other ≠ key) :
    (entries.filter fun entry => entry.1 ≠ other).find? property =
      some (key, value) := by
  induction entries with
  | nil => cases found
  | cons entry entries ih =>
    rw [List.find?_cons] at found
    split at found
    · next has =>
      obtain rfl := Option.some.inj found
      rw [List.filter_cons_of_pos (by simpa using Ne.symm different),
        List.find?_cons_of_pos has]
    · next lacks =>
      rw [List.filter_cons]
      split
      · rw [List.find?_cons_of_neg (by simp [lacks])]
        exact ih found
      · exact ih found

theorem find?_replace_of_ne {entries : List (κ × ν)}
    (nodup : (entries.map Prod.fst).Nodup)
    (found : entries.find? property = some (key, value))
    (different : other ≠ key)
    (unmatched : property (other, new) = false ∨
      other ∉ (entries.map Prod.fst).takeWhile (· ≠ key)) :
    (entries.map fun entry => if entry.1 = other then (other, new)
      else entry).find? property = some (key, value) := by
  induction entries with
  | nil => cases found
  | cons entry entries ih =>
    rw [List.find?_cons] at found
    split at found
    · next has =>
      obtain rfl := Option.some.inj found
      rw [List.map_cons, if_neg (Ne.symm different), List.find?_cons_of_pos has]
    · next lacks =>
      rw [List.map_cons, List.nodup_cons] at nodup
      have later : entry.1 ≠ key := by
        rintro rfl
        have member := List.mem_of_find?_eq_some found
        exact nodup.1 (List.mem_map.mpr ⟨_, member, rfl⟩)
      have rest := ih nodup.2 found
      rw [List.map_cons]
      by_cases replaced : entry.1 = other
      · rcases unmatched with lacking | younger
        · rw [if_pos replaced, List.find?_cons_of_neg (by simp [lacking])]
          exact rest (Or.inl lacking)
        · exact absurd younger (by simp [replaced, different])
      · rw [if_neg replaced, List.find?_cons_of_neg (by simp [lacks])]
        apply rest
        refine unmatched.imp_right fun younger => ?_
        simpa [later, Ne.symm replaced] using younger

theorem find?_replace_self {entries : List (κ × ν)}
    (nodup : (entries.map Prod.fst).Nodup)
    (found : entries.find? property = some (key, value))
    (has : property (key, new) = true) :
    (entries.map fun entry => if entry.1 = key then (key, new)
      else entry).find? property = some (key, new) := by
  induction entries with
  | nil => cases found
  | cons entry entries ih =>
    rw [List.find?_cons] at found
    rw [List.map_cons]
    split at found
    · obtain rfl := Option.some.inj found
      rw [if_pos rfl, List.find?_cons_of_pos has]
    · next lacks =>
      rw [List.map_cons, List.nodup_cons] at nodup
      have later : entry.1 ≠ key := by
        rintro rfl
        have member := List.mem_of_find?_eq_some found
        exact nodup.1 (List.mem_map.mpr ⟨_, member, rfl⟩)
      rw [if_neg later, List.find?_cons_of_neg (by simp [lacks])]
      exact ih nodup.2 found

/-- Overwriting the oldest pair with a property keeps it the oldest one. -/
theorem find?_set_self (found : dict.entries.find? property = some (key, value))
    (has : property (key, new) = true) :
    (dict.set key new).entries.find? property = some (key, new) := by
  have member := List.mem_of_find?_eq_some found
  unfold set
  split
  · exact find?_replace_self dict.nodupKeys found has
  · next absent => exact absurd (List.mem_map_of_mem member) absent

/-- Another pair does not take its place unless it is older and has the
property. -/
theorem find?_set_of_ne
    (found : dict.entries.find? property = some (key, value))
    (different : other ≠ key)
    (unmatched : property (other, new) = false ∨
      other ∉ dict.keys.takeWhile (· ≠ key)) :
    (dict.set other new).entries.find? property = some (key, value) := by
  unfold set
  split
  · exact find?_replace_of_ne dict.nodupKeys found different unmatched
  · rw [List.find?_append, found]
    rfl

/-- A pair older than the oldest one with a property lacks it. -/
theorem not_property_of_older
    (found : dict.entries.find? property = some (key, value))
    (stored : dict.get? other = some new)
    (older : other ∈ dict.keys.takeWhile (· ≠ key)) :
    property (other, new) = false := by
  obtain ⟨_, before, after, split, lacking⟩ :=
    List.find?_eq_some_iff_append.mp found
  have inBefore : other ∈ before.map Prod.fst := by
    have shape : dict.keys =
        before.map Prod.fst ++ key :: after.map Prod.fst := by
      rw [keys, split, List.map_append, List.map_cons]
    rw [shape, List.takeWhile_append] at older
    split at older
    · simpa using older
    · exact List.takeWhile_prefix _ |>.subset older
  obtain ⟨⟨place, standing⟩, member, rfl⟩ := List.mem_map.mp inBefore
  have storedThere : dict.get? place = some standing :=
    (get?_eq_some_iff _ _ _).mpr (split ▸ List.mem_append_left _ member)
  obtain rfl : new = standing :=
    Option.some.inj (stored.symm.trans storedThere)
  simpa using lacking _ member

/-- An overwrite that keeps whether a pair has the property keeps the oldest
one, too. -/
theorem find?_set_of_same {old : ν}
    (found : dict.entries.find? property = some (key, value))
    (different : other ≠ key) (stored : dict.get? other = some old)
    (same : property (other, new) = property (other, old)) :
    (dict.set other new).entries.find? property = some (key, value) := by
  apply find?_set_of_ne found different
  cases lacks : property (other, old) with
  | false => exact Or.inl (same.trans lacks)
  | true =>
    right
    intro older
    rw [not_property_of_older found stored older] at lacks
    cases lacks

theorem find?_erase_of_ne
    (found : dict.entries.find? property = some (key, value))
    (different : other ≠ key) :
    (dict.erase other).entries.find? property = some (key, value) :=
  find?_filter_ne found different

end First

end OrderedDict

/-! # Walking a set -/

/-- An order in which the elements of a set are visited. -/
structure SetOrder (α : Type*) where
  walk : Finset α → List α
  nodup_walk : ∀ set, (walk set).Nodup
  mem_walk : ∀ set element, element ∈ walk set ↔ element ∈ set

/-- From the least element up. -/
def SetOrder.sorted {α : Type*} [LinearOrder α] : SetOrder α where
  walk set := set.sort
  nodup_walk set := Finset.sort_nodup set _
  mem_walk _ _ := Finset.mem_sort _
