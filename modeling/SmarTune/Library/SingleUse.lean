import Mathlib.Data.List.Nodup
import Mathlib.Data.List.Range

/-!
# Tickets that are used once

Items come in numbered batches, and a ticket is a place in one of them.  A book
keeps the tickets that are held and those that were spent.  Held tickets are
given up, replaced by those of a new batch, or spent; a ticket that is spent is
no longer held, and none is spent twice.
-/

namespace SingleUse

/-- A place in a numbered batch. -/
structure Ticket where
  batch : Nat
  position : Nat
  deriving DecidableEq, Repr

/-- The number of batches so far, and the tickets held and spent. -/
structure Book where
  issued : Nat
  held : List Ticket
  spent : List Ticket

namespace Book

/-- Every ticket is of a batch so far, and either held once or spent once. -/
structure Sound (book : Book) : Prop where
  heldOnce : book.held.Nodup
  spentOnce : book.spent.Nodup
  apart : ∀ ticket ∈ book.held, ticket ∉ book.spent
  heldIssued : ∀ ticket ∈ book.held, ticket.batch < book.issued
  spentIssued : ∀ ticket ∈ book.spent, ticket.batch < book.issued

variable {book : Book}

theorem sound_empty : (⟨0, [], []⟩ : Book).Sound where
  heldOnce := List.nodup_nil
  spentOnce := List.nodup_nil
  apart := by simp
  heldIssued := by simp
  spentIssued := by simp

/-- Tickets may be given up. -/
theorem Sound.keep (sound : book.Sound) {kept : List Ticket}
    (sublist : kept.Sublist book.held) :
    (⟨book.issued, kept, book.spent⟩ : Book).Sound where
  heldOnce := sound.heldOnce.sublist sublist
  spentOnce := sound.spentOnce
  apart := fun ticket member => sound.apart ticket (sublist.subset member)
  heldIssued := fun ticket member =>
    sound.heldIssued ticket (sublist.subset member)
  spentIssued := sound.spentIssued

/-- Tickets of a new batch replace those held. -/
theorem Sound.issue (sound : book.Sound) {size : Nat} {kept : List Ticket}
    (sublist : kept.Sublist ((List.range size).map (Ticket.mk book.issued))) :
    (⟨book.issued + 1, kept, book.spent⟩ : Book).Sound := by
  have fresh : ∀ ticket ∈ kept, ticket.batch = book.issued := by
    intro ticket member
    obtain ⟨position, _, rfl⟩ := List.mem_map.mp (sublist.subset member)
    rfl
  have distinct : ((List.range size).map (Ticket.mk book.issued)).Nodup :=
    List.nodup_range.map fun first second same => (Ticket.mk.inj same).2
  exact
    { heldOnce := distinct.sublist sublist
      spentOnce := sound.spentOnce
      apart := by
        intro ticket member spent
        have old := sound.spentIssued ticket spent
        rw [fresh ticket member] at old
        exact lt_irrefl _ old
      heldIssued := fun ticket member =>
        (fresh ticket member).trans_lt (Nat.lt_succ_self _)
      spentIssued := fun ticket spent =>
        Nat.lt_succ_of_lt (sound.spentIssued ticket spent) }

theorem Sound.spend (sound : book.Sound) {index : Nat} {ticket : Ticket}
    (located : book.held[index]? = some ticket) :
    (⟨book.issued, book.held.eraseIdx index, book.spent ++ [ticket]⟩ :
      Book).Sound := by
  have member : ticket ∈ book.held := List.mem_of_getElem? located
  have rest : (book.held.eraseIdx index).Sublist book.held :=
    List.eraseIdx_sublist ..
  have gone : ticket ∉ book.held.eraseIdx index := by
    intro still
    obtain ⟨other, apart, same⟩ := List.mem_eraseIdx_iff_getElem?.mp still
    apply apart
    exact (List.getElem?_inj (List.getElem?_eq_some_iff.mp same).1
      sound.heldOnce).mp (same.trans located.symm)
  exact
    { heldOnce := sound.heldOnce.sublist rest
      spentOnce := by
        rw [List.nodup_append]
        refine ⟨sound.spentOnce, List.nodup_singleton _, ?_⟩
        rintro spent old _ new rfl
        rw [List.mem_singleton.mp new] at old
        exact sound.apart ticket member old
      apart := by
        intro other held spent
        rcases List.mem_append.mp spent with old | new
        · exact sound.apart other (rest.subset held) old
        · rw [List.mem_singleton.mp new] at held
          exact gone held
      heldIssued := fun other held =>
        sound.heldIssued other (rest.subset held)
      spentIssued := by
        intro other spent
        rcases List.mem_append.mp spent with old | new
        · exact sound.spentIssued other old
        · rw [List.mem_singleton.mp new]
          exact sound.heldIssued ticket member }

end Book

end SingleUse
