import Mathlib.Data.Set.Basic

/-!
# Holdings

Each holder holds a tagged set of items or nothing.  Holders with rival tags
must hold disjoint sets.  The lemmas say how that fares when holders let go of
what they hold, and when a single holder takes up a new holding.
-/

abbrev Holdings (Holder Tag Item : Type*) := Holder → Option (Tag × Set Item)

namespace Holdings

variable {Holder Tag Item : Type*}

/-- Two holders with rival tags hold disjoint sets. -/
def Separated (rival : Tag → Tag → Prop)
    (holdings : Holdings Holder Tag Item) : Prop :=
  ∀ left right first second, left ≠ right →
    holdings left = some first → holdings right = some second →
    rival first.1 second.1 → ∀ item ∈ first.2, item ∉ second.2

/-- A holding of the named holder would share no item with a rival holding of
another one. -/
def Fits (rival : Tag → Tag → Prop) (holdings : Holdings Holder Tag Item)
    (holder : Holder) (holding : Tag × Set Item) : Prop :=
  ∀ other held, other ≠ holder → holdings other = some held →
    rival holding.1 held.1 → ∀ item ∈ holding.2, item ∉ held.2

/-- Holders only let go of what they hold. -/
def Narrows (before after : Holdings Holder Tag Item) : Prop :=
  ∀ holder holding, after holder = some holding → before holder = some holding

variable {rival : Tag → Tag → Prop}
  {before after holdings : Holdings Holder Tag Item}

theorem separated_nothing :
    Separated rival (fun _ : Holder => (none : Option (Tag × Set Item))) := by
  intro _ _ _ _ _ held
  cases held

theorem Separated.narrows (separated : Separated rival before)
    (narrows : Narrows before after) :
    Separated rival after := by
  intro left right first second different heldLeft heldRight
  exact separated left right first second different
    (narrows left first heldLeft) (narrows right second heldRight)

variable {holder : Holder} {holding : Tag × Set Item}

theorem Fits.narrows (fits : Fits rival before holder holding)
    (narrows : Narrows before after) :
    Fits rival after holder holding := by
  intro other held different heldAfter
  exact fits other held different (narrows other held heldAfter)

theorem Separated.fits (separated : Separated rival holdings)
    (held : holdings holder = some holding) :
    Fits rival holdings holder holding := by
  intro other heldOther different holdsOther
  exact separated holder other holding heldOther different.symm held holdsOther

theorem fits_union_iff {tag : Tag} {first second : Set Item} :
    Fits rival holdings holder (tag, first ∪ second) ↔
      Fits rival holdings holder (tag, first) ∧
        Fits rival holdings holder (tag, second) := by
  constructor
  · intro fits
    constructor
    · intro other held different holds rivals item member
      exact fits other held different holds rivals item (Or.inl member)
    · intro other held different holds rivals item member
      exact fits other held different holds rivals item (Or.inr member)
  · rintro ⟨fitsFirst, fitsSecond⟩ other held different holds rivals item
      (inFirst | inSecond)
    · exact fitsFirst other held different holds rivals item inFirst
    · exact fitsSecond other held different holds rivals item inSecond

theorem separated_update_iff [DecidableEq Holder]
    (symmetric : ∀ first second, rival first second → rival second first)
    (separated : Separated rival holdings) (holder : Holder)
    (holding : Tag × Set Item) :
    Separated rival (Function.update holdings holder (some holding)) ↔
      Fits rival holdings holder holding := by
  constructor
  · intro apart other held different holds
    exact apart holder other holding held different.symm
      (Function.update_self holder _ holdings)
      ((Function.update_of_ne different _ holdings).trans holds)
  · intro fits left right first second different heldLeft heldRight rivals
    by_cases isLeft : left = holder
    · subst isLeft
      rw [Function.update_self] at heldLeft
      rw [Function.update_of_ne different.symm] at heldRight
      cases heldLeft
      exact fits right second different.symm heldRight rivals
    by_cases isRight : right = holder
    · subst isRight
      rw [Function.update_self] at heldRight
      rw [Function.update_of_ne different] at heldLeft
      cases heldRight
      intro item inLeft inRight
      exact fits left first different heldLeft (symmetric _ _ rivals) item
        inRight inLeft
    · rw [Function.update_of_ne isLeft] at heldLeft
      rw [Function.update_of_ne isRight] at heldRight
      exact separated left right first second different heldLeft heldRight
        rivals

end Holdings
