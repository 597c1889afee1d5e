import SmarTune.Library.OrderedDict
import Mathlib.Order.Interval.Finset.Nat

/-!
# Pools of identifiers

A pool starts with a finite set of free identifiers.  A holder takes a free
one, or, once none is free, one made up from the number of holders; what it
gives back becomes free.  Identifiers made up so are always new.
-/

/-- The free identifiers and who holds the others. -/
structure IdPool (κ : Type*) where
  free : Finset Nat
  held : OrderedDict κ Nat

/-- How a free identifier is chosen. -/
structure IdChoice where
  pick : Finset Nat → Nat
  mem_pick : ∀ free, free.Nonempty → pick free ∈ free

/-- The least free identifier is chosen. -/
def IdChoice.least : IdChoice where
  pick free := if nonempty : free.Nonempty then free.min' nonempty else 0
  mem_pick free nonempty := by
    rw [dif_pos nonempty]
    exact Finset.min'_mem free nonempty

namespace IdPool

variable {κ : Type*}

/-- All identifiers are free. -/
def fresh (initial : Finset Nat) : IdPool κ := ⟨initial, .empty⟩

/-- The identifier the next holder gets. -/
def next (base : Nat) (choice : IdChoice) (pool : IdPool κ) : Nat :=
  if pool.free ≠ ∅ then choice.pick pool.free
  else base + pool.held.entries.length

/-- The initial identifiers and the first ones that are made up. -/
def created (initial : Finset Nat) (base extra : Nat) : Finset Nat :=
  initial ∪ Finset.Ico (base + initial.card) (base + initial.card + extra)

variable [DecidableEq κ]

/-- The identifier is free or held. -/
def Owns (pool : IdPool κ) (id : Nat) : Prop :=
  id ∈ pool.free ∨ ∃ holder, pool.held.get? holder = some id

/-- A holder takes the next identifier. -/
def take (base : Nat) (choice : IdChoice) (pool : IdPool κ)
    (holder : κ) : IdPool κ where
  free := pool.free.erase (pool.next base choice)
  held := pool.held.set holder (pool.next base choice)

def giveBack (pool : IdPool κ) (holder : κ) : IdPool κ where
  free :=
    match pool.held.get? holder with
    | some id => insert id pool.free
    | none => pool.free
  held := pool.held.erase holder

/-- The identifiers created so far are partly free and partly held, each by
one holder. -/
structure Sound (initial : Finset Nat) (base : Nat) (pool : IdPool κ)
    (extra : Nat) : Prop where
  distinct : ∀ left right id, pool.held.get? left = some id →
    pool.held.get? right = some id → left = right
  apart : ∀ holder id, pool.held.get? holder = some id → id ∉ pool.free
  parted : ∀ id, id ∈ created initial base extra ↔ pool.Owns id

variable {initial : Finset Nat} {base extra : Nat} {pool : IdPool κ}

theorem sound_fresh (initial : Finset Nat) (base : Nat) :
    (fresh initial : IdPool κ).Sound initial base 0 where
  distinct _ _ _ absent := nomatch absent
  apart _ _ absent := nomatch absent
  parted id := by simp [fresh, created, Owns]

/-- The initial identifiers lie below those that are made up. -/
def Below (initial : Finset Nat) (base : Nat) : Prop :=
  ∀ id ∈ initial, id < base + initial.card

theorem card_created (below : Below initial base) (extra : Nat) :
    (created initial base extra).card = initial.card + extra := by
  rw [created, Finset.card_union_of_disjoint, Nat.card_Ico]
  · omega
  · rw [Finset.disjoint_left]
    intro id first made
    have bound := below id first
    rw [Finset.mem_Ico] at made
    omega

/-- With nothing free, every created identifier has its holder. -/
theorem Sound.length_held (sound : pool.Sound initial base extra)
    (below : Below initial base) (none : pool.free = ∅) :
    pool.held.entries.length = initial.card + extra := by
  have nodup : (pool.held.entries.map Prod.snd).Nodup := by
    apply List.Nodup.map_on _ (List.Nodup.of_map _ pool.held.nodupKeys)
    rintro ⟨left, id⟩ leftMember ⟨right, other⟩ rightMember same
    simp only at same
    subst same
    have holders := sound.distinct left right id
      ((pool.held.get?_eq_some_iff left id).mpr leftMember)
      ((pool.held.get?_eq_some_iff right id).mpr rightMember)
    rw [holders]
  have all : (pool.held.entries.map Prod.snd).toFinset =
      created initial base extra := by
    ext id
    rw [sound.parted, Owns, none, List.mem_toFinset, List.mem_map]
    simp only [Finset.notMem_empty, false_or, OrderedDict.get?_eq_some_iff]
    constructor
    · rintro ⟨⟨holder, _⟩, member, rfl⟩
      exact ⟨holder, member⟩
    · rintro ⟨holder, member⟩
      exact ⟨(holder, id), member, rfl⟩
  rw [← card_created below, ← all, List.toFinset_card_of_nodup nodup,
    List.length_map]

theorem get?_take (base : Nat) (choice : IdChoice) {holder : κ}
    (new : pool.held.get? holder = none) (other : κ) (id : Nat) :
    (pool.take base choice holder).held.get? other = some id ↔
      pool.held.get? other = some id ∨
        other = holder ∧ id = pool.next base choice := by
  rw [IdPool.take, OrderedDict.get?_set]
  by_cases here : other = holder
  · subst here
    simp [new, eq_comm]
  · simp [here]

theorem get?_giveBack (pool : IdPool κ) (holder other : κ) (id : Nat) :
    (pool.giveBack holder).held.get? other = some id ↔
      other ≠ holder ∧ pool.held.get? other = some id :=
  OrderedDict.get?_erase_eq_some_iff

theorem mem_free_giveBack (pool : IdPool κ) (holder : κ) (id : Nat) :
    id ∈ (pool.giveBack holder).free ↔
      id ∈ pool.free ∨ pool.held.get? holder = some id := by
  rw [IdPool.giveBack]
  cases pool.held.get? holder with
  | none => simp
  | some own => simp [or_comm, eq_comm]

/-- Nothing is lost when an identifier is taken, which is owned then. -/
theorem owns_take (base : Nat) (choice : IdChoice) {holder : κ}
    (new : pool.held.get? holder = none) (id : Nat) :
    (pool.take base choice holder).Owns id ↔
      pool.Owns id ∨ id = pool.next base choice := by
  have free : (pool.take base choice holder).free =
      pool.free.erase (pool.next base choice) := rfl
  simp only [Owns, get?_take base choice new, free, Finset.mem_erase]
  by_cases same : id = pool.next base choice
  · subst same
    exact iff_of_true (.inr ⟨holder, .inr ⟨rfl, rfl⟩⟩) (.inr rfl)
  · simp [same]

/-- Nothing is lost when an identifier is given back. -/
theorem owns_giveBack (pool : IdPool κ) (holder : κ) (id : Nat) :
    (pool.giveBack holder).Owns id ↔ pool.Owns id := by
  simp only [Owns, get?_giveBack, mem_free_giveBack]
  constructor
  · rintro ((isFree | own) | ⟨other, -, holds⟩)
    · exact .inl isFree
    · exact .inr ⟨holder, own⟩
    · exact .inr ⟨other, holds⟩
  · rintro (isFree | ⟨other, holds⟩)
    · exact .inl (.inl isFree)
    · by_cases here : other = holder
      · exact .inl (.inr (here ▸ holds))
      · exact .inr ⟨other, here, holds⟩

theorem Sound.next_new (sound : pool.Sound initial base extra)
    (below : Below initial base) (choice : IdChoice) :
    (∀ other, pool.held.get? other ≠ some (pool.next base choice)) ∧
      ∃ more, ∀ id, id ∈ created initial base more ↔
        id ∈ created initial base extra ∨ id = pool.next base choice := by
  by_cases none : pool.free = ∅
  · have made : pool.next base choice = base + initial.card + extra := by
      rw [next, if_neg (not_not.mpr none), sound.length_held below none]
      omega
    rw [made]
    constructor
    · intro other holds
      have old := (sound.parted _).mpr (.inr ⟨other, holds⟩)
      rw [created, Finset.mem_union, Finset.mem_Ico] at old
      rcases old with first | older
      · have bound := below _ first
        omega
      · omega
    · refine ⟨extra + 1, fun id => ?_⟩
      simp only [created, Finset.mem_union, Finset.mem_Ico]
      by_cases first : id ∈ initial
      · simp [first]
      · simp only [first, false_or]
        omega
  · have taken : pool.next base choice ∈ pool.free := by
      rw [next, if_pos none]
      exact choice.mem_pick _ (Finset.nonempty_iff_ne_empty.mpr none)
    constructor
    · intro other holds
      exact sound.apart other _ holds taken
    · refine ⟨extra, fun id => ?_⟩
      constructor
      · exact .inl
      · rintro (old | rfl)
        · exact old
        · exact (sound.parted _).mpr (.inl taken)

/-- A holder without an identifier takes one that nobody holds. -/
theorem Sound.take (sound : pool.Sound initial base extra)
    (below : Below initial base) (choice : IdChoice) {holder : κ}
    (new : pool.held.get? holder = none) :
    ∃ more, (pool.take base choice holder).Sound initial base more := by
  obtain ⟨unheld, more, created_iff⟩ := sound.next_new below choice
  refine ⟨more, ⟨?_, ?_, fun id => ?_⟩⟩
  · intro left right id leftHolds rightHolds
    rw [get?_take base choice new] at leftHolds rightHolds
    rcases leftHolds with leftHolds | ⟨rfl, rfl⟩ <;>
      rcases rightHolds with rightHolds | ⟨rfl, same⟩
    · exact sound.distinct left right id leftHolds rightHolds
    · exact (unheld left (same ▸ leftHolds)).elim
    · exact (unheld right rightHolds).elim
    · rfl
  · intro other id holds
    rw [get?_take base choice new] at holds
    rw [IdPool.take, Finset.mem_erase, not_and]
    rcases holds with holds | ⟨-, rfl⟩
    · exact fun _ => sound.apart other id holds
    · exact fun different => (different rfl).elim
  · rw [created_iff, sound.parted, owns_take base choice new]

/-- What is given back is free. -/
theorem Sound.giveBack (sound : pool.Sound initial base extra) (holder : κ) :
    (pool.giveBack holder).Sound initial base extra := by
  refine ⟨?_, ?_, fun id => ?_⟩
  · intro left right id leftHolds rightHolds
    rw [get?_giveBack] at leftHolds rightHolds
    exact sound.distinct left right id leftHolds.2 rightHolds.2
  · intro other id holds
    rw [get?_giveBack] at holds
    rw [mem_free_giveBack, not_or]
    refine ⟨sound.apart other id holds.2, fun own => holds.1 ?_⟩
    exact sound.distinct other holder id holds.2 own
  · rw [sound.parted, owns_giveBack]

end IdPool
