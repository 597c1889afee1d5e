import Mathlib.Data.Set.Basic

/-!
# Ledgers of claimed items

A ledger records which items are in force and which holder answers for which
items.  It is covered when every item in force has an answering holder, and
backed when every claimed item is in force.  The lemmas say exactly when
rewriting the claim of a single holder, together with a change of the items in
force, keeps a covered ledger covered.
-/

/-- Items in force together with the claims of their holders. -/
structure Ledger (Holder Item : Type*) where
  /-- The items in force. -/
  force : Set Item
  /-- The items each holder answers for. -/
  claims : Holder → Set Item

namespace Ledger

variable {Holder Item : Type*}

/-- Some holder answers for the item. -/
def Claimed (ledger : Ledger Holder Item) (item : Item) : Prop :=
  ∃ holder, item ∈ ledger.claims holder

/-- Some holder other than the named one answers for the item. -/
def Elsewhere
    (ledger : Ledger Holder Item)
    (holder : Holder)
    (item : Item) : Prop :=
  ∃ other, other ≠ holder ∧ item ∈ ledger.claims other

/-- Every item in force is claimed. -/
def Covered (ledger : Ledger Holder Item) : Prop :=
  ∀ item ∈ ledger.force, ledger.Claimed item

/-- Every claimed item is in force. -/
def Backed (ledger : Ledger Holder Item) : Prop :=
  ∀ item, ledger.Claimed item → item ∈ ledger.force

/-- A claim is the named holder's or somebody else's. -/
theorem claimed_iff (ledger : Ledger Holder Item) (holder : Holder)
    (item : Item) :
    ledger.Claimed item ↔
      item ∈ ledger.claims holder ∨ ledger.Elsewhere holder item := by
  constructor
  · rintro ⟨other, claimed⟩
    by_cases same : other = holder
    · exact Or.inl (same ▸ claimed)
    · exact Or.inr ⟨other, same, claimed⟩
  · rintro (claimed | ⟨other, _, claimed⟩)
    · exact ⟨holder, claimed⟩
    · exact ⟨other, claimed⟩

/-- One holder's claim and the items in force change; all other claims stay. -/
structure Reassigns (holder : Holder)
    (before after : Ledger Holder Item) : Prop where
  /-- The other holders answer for what they answered for. -/
  others : ∀ other, other ≠ holder → after.claims other = before.claims other

namespace Reassigns

variable {holder : Holder} {before after : Ledger Holder Item}

theorem elsewhere_iff (reassigns : Reassigns holder before after)
    (item : Item) :
    after.Elsewhere holder item ↔ before.Elsewhere holder item := by
  constructor
  · rintro ⟨other, different, claimed⟩
    exact ⟨other, different, reassigns.others other different ▸ claimed⟩
  · rintro ⟨other, different, claimed⟩
    exact ⟨other, different, (reassigns.others other different).symm ▸ claimed⟩

theorem claimed_iff (reassigns : Reassigns holder before after) (item : Item) :
    after.Claimed item ↔
      item ∈ after.claims holder ∨ before.Elsewhere holder item := by
  rw [after.claimed_iff holder, reassigns.elsewhere_iff]

theorem covered_iff (reassigns : Reassigns holder before after)
    (covered : before.Covered) {old new : Set Item}
    (force : after.force = old ∪ new) (stays : old ⊆ before.force) :
    after.Covered ↔ (∀ item ∈ new,
        item ∈ after.claims holder ∨ before.Elsewhere holder item) ∧
      ∀ item ∈ old, item ∈ before.claims holder →
        item ∈ after.claims holder ∨ before.Elsewhere holder item := by
  simp only [Covered, force, reassigns.claimed_iff, Set.mem_union]
  constructor
  · intro coveredAfter
    exact ⟨fun item isNew => coveredAfter item (.inr isNew),
      fun item isOld _ => coveredAfter item (.inl isOld)⟩
  · rintro ⟨answersNew, answersOld⟩ item (isOld | isNew)
    · rcases (before.claimed_iff holder item).mp
          (covered item (stays isOld)) with own | elsewhere
      · exact answersOld item isOld own
      · exact .inr elsewhere
    · exact answersNew item isNew

end Reassigns

theorem Covered.of_subset {before after : Ledger Holder Item}
    (covered : before.Covered) (force : after.force ⊆ before.force)
    (claims : after.claims = before.claims) :
    after.Covered := by
  intro item inForce
  obtain ⟨holder, claimed⟩ := covered item (force inForce)
  exact ⟨holder, claims ▸ claimed⟩

/-! ## Items owed by workers -/

/-- Every item in force is claimed, or owed by a worker that is about to have
it claimed or to lift it. -/
def Accounted {Worker : Type*} (ledger : Ledger Holder Item)
    (owed : Worker → Set Item) : Prop :=
  ∀ item ∈ ledger.force, ledger.Claimed item ∨ ∃ worker, item ∈ owed worker

section Accounted

variable {Worker : Type*} {before after : Ledger Holder Item}
  {owed owedAfter : Worker → Set Item}

theorem Covered.accounted (covered : before.Covered)
    (owed : Worker → Set Item) :
    before.Accounted owed :=
  fun item inForce => Or.inl (covered item inForce)

/-- Once nobody owes anything an accounted ledger is covered. -/
theorem Accounted.covered (accounted : before.Accounted owed)
    (settled : ∀ worker item, item ∉ owed worker) :
    before.Covered := by
  intro item inForce
  rcases accounted item inForce with claimed | ⟨worker, owes⟩
  · exact claimed
  · exact absurd owes (settled worker item)

/-- One worker's step accounts for what it brings into force, and for what was
claimed or owed by that worker and stays in force. -/
def Accounts (before after : Ledger Holder Item)
    (owes owesAfter : Set Item) : Prop :=
  ∀ item ∈ after.force, after.Claimed item ∨ item ∈ owesAfter ∨
    (item ∈ before.force ∧ ¬ before.Claimed item ∧ item ∉ owes)

theorem Accounted.step (accounted : before.Accounted owed) (worker : Worker)
    (others : ∀ other, other ≠ worker → owedAfter other = owed other)
    (accounts : Accounts before after (owed worker) (owedAfter worker)) :
    after.Accounted owedAfter := by
  intro item inForce
  rcases accounts item inForce with claimed | owes | ⟨old, unclaimed, notOwed⟩
  · exact Or.inl claimed
  · exact Or.inr ⟨worker, owes⟩
  · obtain ⟨other, owes⟩ := (accounted item old).resolve_left unclaimed
    have different : other ≠ worker := by
      rintro rfl
      exact notOwed owes
    exact Or.inr ⟨other, by rwa [others other different]⟩

theorem accounts_of_same {owes owesAfter : Set Item}
    (force : after.force = before.force) (claims : after.claims = before.claims)
    (keeps : owes ⊆ owesAfter) :
    Accounts before after owes owesAfter := by
  intro item inForce
  rw [force] at inForce
  by_cases claimed : before.Claimed item
  · obtain ⟨holder, answers⟩ := claimed
    exact Or.inl ⟨holder, by rwa [claims]⟩
  · by_cases owed : item ∈ owes
    · exact Or.inr (Or.inl (keeps owed))
    · exact Or.inr (Or.inr ⟨inForce, claimed, owed⟩)

theorem Reassigns.accounts {holder : Holder}
    (reassigns : Reassigns holder before after) {owes owesAfter : Set Item}
    (force : after.force = before.force)
    (old : ∀ item ∈ before.force, item ∈ before.claims holder →
      item ∈ after.claims holder ∨ before.Elsewhere holder item ∨
        item ∈ owesAfter)
    (owed : ∀ item ∈ before.force, item ∈ owes →
      item ∈ after.claims holder ∨ before.Elsewhere holder item ∨
        item ∈ owesAfter) :
    Accounts before after owes owesAfter := by
  intro item inForce
  rw [force] at inForce
  rw [reassigns.claimed_iff, or_assoc]
  by_cases claimed : before.Claimed item
  · rcases (before.claimed_iff holder item).mp claimed with own | elsewhere
    · exact (old item inForce own).imp_right (Or.imp_right Or.inl)
    · exact Or.inr (Or.inl elsewhere)
  · by_cases owing : item ∈ owes
    · exact (owed item inForce owing).imp_right (Or.imp_right Or.inl)
    · exact Or.inr (Or.inr (Or.inr ⟨inForce, claimed, owing⟩))

end Accounted

end Ledger
