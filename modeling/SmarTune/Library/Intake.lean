import SmarTune.Library.UniqueIndex
import Mathlib.Data.List.Nodup
import Mathlib.Data.List.Pairwise

/-!
# Items that are handed over more than once

Items are offered again and again.  A bounded memory of the identities that
were offered skips most of the repetitions, and a unique key of the rows that
are stored rejects the rest.  A wanted item whose identity is remembered has a stored row,
as long as it shares its identity with no other item and its first store does
not fail.
-/

namespace Intake

/-- A set that forgets its oldest elements beyond a bound. -/
structure BoundedSet (ι : Type*) where
  bound : ℕ
  order : List ι

namespace BoundedSet

variable {ι : Type*} [DecidableEq ι]

/-- A set without elements. -/
def empty (bound : ℕ) : BoundedSet ι := ⟨bound, []⟩

/-- Add an element, and forget the oldest one when there are too many. -/
def add (set : BoundedSet ι) (element : ι) : BoundedSet ι :=
  if element ∈ set.order then set
  else
    let order := set.order ++ [element]
    { set with order := if set.bound < order.length then order.tail else order }

theorem mem_of_mem_add {set : BoundedSet ι} {element other : ι}
    (member : other ∈ (set.add element).order) :
    other ∈ set.order ∨ other = element := by
  unfold add at member
  split at member
  · exact .inl member
  · dsimp only at member
    split at member
    · simpa using List.mem_of_mem_tail member
    · simpa using member

end BoundedSet

/-- The identities that are remembered and the rows that are stored. -/
structure Books (ι Row : Type*) where
  seen : BoundedSet ι
  rows : List Row

section Offer

variable {Item Row ι κ : Type*} [DecidableEq ι] [DecidableEq κ]
  (ident : Item → ι) (row : Item → Option Row) (key : Row → κ)
  (wanted : Item → Prop)

/-- Offer an item: unless it is remembered, its row is stored if it has one,
the store does not fail and the key is free. -/
def offer (fails : Item → Bool) (books : Books ι Row)
    (item : Item) : Books ι Row :=
  if ident item ∈ books.seen.order then books
  else
    { seen := books.seen.add (ident item)
      rows :=
        match row item with
        | none => books.rows
        | some new =>
          if fails item then books.rows
          else UniqueIndex.insert (fun row => some (key row)) books.rows new }

def Stored (rows : List Row) (item : Item) : Prop :=
  ∀ new, row item = some new → ∃ stored ∈ rows, key stored = key new

/-- There are as many rows with the key of the item's row as items with
one. -/
def OneEach (items : List Item) (rows : List Row) (item : Item) : Prop :=
  ∀ new, row item = some new →
    rows.countP (fun stored => decide (key stored = key new)) =
      items.countP fun other =>
        (row other).any fun theirs => decide (key theirs = key new)

/-- A wanted item shares its identity with no other item. -/
def Apart (items : List Item) : Prop :=
  items.Pairwise fun first second =>
    wanted first ∨ wanted second → ident first ≠ ident second

/-- What is remembered was offered and is stored if it is wanted, and no key is
stored twice. -/
structure Sound (items : List Item) (books : Books ι Row) : Prop where
  offered : ∀ identity ∈ books.seen.order, ∃ item ∈ items, ident item = identity
  remembered : ∀ item ∈ items, wanted item →
    ident item ∈ books.seen.order → Stored row key books.rows item
  unique : (books.rows.map key).Nodup

variable {ident row key wanted} {fails : Item → Bool} {items batch : List Item}
  {books : Books ι Row} {item : Item}

omit [DecidableEq ι] in
theorem Apart.eq {first second : Item} (apart : Apart ident wanted items)
    (isFirst : first ∈ items) (isSecond : second ∈ items)
    (isWanted : wanted first) (same : ident first = ident second) :
    first = second := by
  by_contra different
  have symmetric : Std.Symm fun first second : Item =>
      wanted first ∨ wanted second → ident first ≠ ident second :=
    ⟨fun _ _ differ either => (differ either.symm).symm⟩
  exact apart.forall isFirst isSecond different (.inl isWanted) same

omit [DecidableEq ι] in
theorem apart_perm {other : List Item} (perm : items.Perm other) :
    Apart ident wanted items ↔ Apart ident wanted other :=
  perm.pairwise_iff fun differ either => (differ either.symm).symm

theorem Apart.countP_le_one (apart : Apart ident wanted items)
    (member : item ∈ items) (isWanted : wanted item) :
    items.countP (fun other => decide (ident other = ident item)) ≤ 1 := by
  have single := List.Pairwise.filter
    (fun other => decide (ident other = ident item)) apart
  have inside : item ∈ items.filter
      fun other => decide (ident other = ident item) := by
    simp [member]
  have alike : ∀ other ∈ items.filter
      (fun other => decide (ident other = ident item)),
      ident other = ident item := by
    simp
  rw [List.countP_eq_length_filter]
  generalize items.filter (fun other => decide (ident other = ident item)) =
    found at single inside alike
  match found with
  | [] => exact absurd inside List.not_mem_nil
  | [_] => exact Nat.le_refl 1
  | first :: second :: rest =>
    exfalso
    have apartFirst := (List.pairwise_cons.mp single).1
    have isFirst := alike first List.mem_cons_self
    rcases List.mem_cons.mp inside with rfl | later
    · exact apartFirst second List.mem_cons_self (.inl isWanted)
        (alike second (by simp)).symm
    · exact apartFirst item later (.inr isWanted) isFirst

omit [DecidableEq ι] [DecidableEq κ] in
theorem Stored.mono {rows grown : List Row} (stored : Stored row key rows item)
    (grows : rows ⊆ grown) :
    Stored row key grown item := by
  intro new has
  obtain ⟨old, member, same⟩ := stored new has
  exact ⟨old, grows member, same⟩

omit [DecidableEq ι] in
theorem mem_insert_self (rows : List Row) (new : Row) :
    ∃ stored ∈ UniqueIndex.insert (fun row => some (key row)) rows new,
      key stored = key new := by
  unfold UniqueIndex.insert
  split
  · rename_i taken
    simpa [UniqueIndex.taken] using taken
  · exact ⟨new, by simp, rfl⟩

omit [DecidableEq ι] in
theorem subset_insert (rows : List Row) (new : Row) :
    rows ⊆ UniqueIndex.insert (fun row => some (key row)) rows new := by
  unfold UniqueIndex.insert
  split
  · exact List.Subset.refl rows
  · exact List.subset_append_left rows [new]

omit [DecidableEq ι] in
theorem nodup_insert {rows : List Row} (unique : (rows.map key).Nodup)
    (new : Row) :
    ((UniqueIndex.insert (fun row => some (key row)) rows new).map
      key).Nodup := by
  unfold UniqueIndex.insert
  split
  · exact unique
  · rename_i free
    rw [List.map_append, List.nodup_append]
    refine ⟨unique, List.nodup_singleton _, ?_⟩
    rintro first member second same rfl
    obtain ⟨stored, isStored, rfl⟩ := List.mem_map.mp member
    have equal : key stored = key new := by simpa using same
    exact free (by
      simp only [UniqueIndex.taken, Option.isSome_some, Bool.true_and,
        List.any_eq_true, decide_eq_true_eq, Option.some.injEq]
      exact ⟨stored, isStored, equal⟩)

theorem rows_subset_offer : books.rows ⊆ (offer ident row key fails books
    item).rows := by
  unfold offer
  split
  · exact List.Subset.refl _
  · cases row item with
    | none => exact List.Subset.refl _
    | some new =>
      dsimp only
      split
      · exact List.Subset.refl _
      · exact subset_insert _ _

theorem stored_offer (sound : Sound ident row key wanted items books)
    (member : item ∈ items) (isWanted : wanted item)
    (stores : ¬ Stored row key books.rows item → fails item = false) :
    Stored row key (offer ident row key fails books item).rows item := by
  by_cases known : ident item ∈ books.seen.order
  · rw [offer, if_pos known]
    exact sound.remembered item member isWanted known
  · by_cases before : Stored row key books.rows item
    · exact before.mono rows_subset_offer
    · intro new has
      simp only [offer, if_neg known, has, stores before, Bool.false_eq_true,
        if_false]
      exact mem_insert_self _ _

theorem Sound.offer (sound : Sound ident row key wanted items books)
    (apart : Apart ident wanted items) (member : item ∈ items)
    (stores : wanted item → ¬ Stored row key books.rows item →
      fails item = false) :
    Sound ident row key wanted items (offer ident row key fails books item) := by
  have kept : ∀ identity ∈ (Intake.offer ident row key fails books
      item).seen.order,
      identity ∈ books.seen.order ∨ identity = ident item := by
    intro identity known
    unfold Intake.offer at known
    split at known
    · exact .inl known
    · exact BoundedSet.mem_of_mem_add known
  constructor
  · intro identity known
    rcases kept identity known with old | same
    · exact sound.offered identity old
    · exact ⟨item, member, same.symm⟩
  · intro other otherMember otherWanted known
    rcases kept _ known with old | same
    · exact (sound.remembered other otherMember otherWanted old).mono
        rows_subset_offer
    · obtain rfl := apart.eq otherMember member otherWanted same
      exact stored_offer sound member otherWanted (stores otherWanted)
  · unfold Intake.offer
    split
    · exact sound.unique
    · cases row item with
      | none => exact sound.unique
      | some new =>
        dsimp only
        split
        · exact sound.unique
        · exact nodup_insert sound.unique new

theorem rows_subset_offers :
    books.rows ⊆ (batch.foldl (offer ident row key fails) books).rows := by
  induction batch generalizing books with
  | nil => exact List.Subset.refl _
  | cons first batch ih => exact List.Subset.trans rows_subset_offer ih

theorem Sound.offers (sound : Sound ident row key wanted items books)
    (apart : Apart ident wanted items) (listed : batch ⊆ items)
    (stores : ∀ item ∈ batch, wanted item →
      ¬ Stored row key books.rows item → fails item = false) :
    Sound ident row key wanted items (batch.foldl (Intake.offer ident row key fails)
        books) ∧
      ∀ item ∈ batch, wanted item → Stored row key
        (batch.foldl (Intake.offer ident row key fails) books).rows item := by
  induction batch generalizing books with
  | nil => exact ⟨sound, fun item member => absurd member List.not_mem_nil⟩
  | cons first batch ih =>
    have member : first ∈ items := listed List.mem_cons_self
    have firstStores := stores first List.mem_cons_self
    have later := ih (sound.offer apart member firstStores)
      (List.subset_of_cons_subset listed)
      fun item isMember isWanted unstored =>
        stores item (List.mem_cons_of_mem first isMember) isWanted
          fun stored => unstored (stored.mono rows_subset_offer)
    refine ⟨later.1, ?_⟩
    intro item isMember isWanted
    rcases List.mem_cons.mp isMember with rfl | isMember
    · exact (stored_offer sound member isWanted (firstStores isWanted)).mono
        rows_subset_offers
    · exact later.2 item isMember isWanted

omit [DecidableEq ι] [DecidableEq κ] in
theorem Sound.arrive {arrived : List Item}
    (sound : Sound ident row key wanted items books) (kept : items ⊆ arrived)
    (fresh : ∀ other ∈ arrived,
      other ∈ items ∨ (wanted other → ident other ∉ items.map ident)) :
    Sound ident row key wanted arrived books := by
  refine ⟨fun identity known => ?_, fun other member isWanted known => ?_,
    sound.unique⟩
  · obtain ⟨item, member, same⟩ := sound.offered identity known
    exact ⟨item, kept member, same⟩
  · rcases fresh other member with old | new
    · exact sound.remembered other old isWanted known
    · obtain ⟨item, isItem, same⟩ := sound.offered _ known
      exact absurd (List.mem_map.mpr ⟨item, isItem, same⟩) (new isWanted)

omit [DecidableEq ι] [DecidableEq κ] in
theorem Sound.forget (sound : Sound ident row key wanted items books)
    (bound : ℕ) :
    Sound ident row key wanted items ⟨.empty bound, books.rows⟩ :=
  ⟨fun _ known => absurd known List.not_mem_nil,
    fun _ _ _ known => absurd known List.not_mem_nil, sound.unique⟩

variable (row) in
omit [DecidableEq ι] in
theorem count_rows_le (unique : (books.rows.map key).Nodup)
    (member : item ∈ items) {new : Row} (has : row item = some new) :
    books.rows.countP (fun stored => decide (key stored = key new)) ≤
      items.countP fun other =>
        (row other).any fun theirs => decide (key theirs = key new) := by
  have few : books.rows.countP (fun stored => decide (key stored = key new)) ≤
      1 := by
    have counted := List.nodup_iff_count_le_one.mp unique (key new)
    rw [List.count, List.countP_map] at counted
    exact counted
  refine Nat.le_trans few (List.countP_pos_iff.mpr ⟨item, member, ?_⟩)
  simp [has]

theorem oneEach_of_stored (unique : (books.rows.map key).Nodup)
    (apart : Apart ident wanted items)
    (tells : ∀ first second new other, row first = some new →
      row second = some other → key new = key other →
        ident first = ident second)
    (member : item ∈ items)
    (isWanted : wanted item)
    (stored : Stored row key books.rows item) :
    OneEach row key items books.rows item := by
  intro new has
  refine Nat.le_antisymm (count_rows_le row unique member has) ?_
  have single : items.countP (fun other =>
      (row other).any fun theirs => decide (key theirs = key new)) ≤ 1 := by
    refine Nat.le_trans (List.countP_mono_left ?_)
      (apart.countP_le_one member isWanted)
    intro other _ shares
    obtain ⟨theirs, has', same⟩ := Option.any_eq_true _ _ |>.mp shares
    rw [decide_eq_true_eq] at same
    simp [tells other item theirs new has' has same]
  obtain ⟨old, isStored, same⟩ := stored new has
  refine Nat.le_trans single (List.countP_pos_iff.mpr ⟨old, isStored, ?_⟩)
  simp [same]

end Offer

end Intake
