import Mathlib.Data.List.Perm.Basic
import Mathlib.Algebra.Order.Ring.Int

/-!
# The queue of suspended apps

`MaxPriorityQueue` is a binary heap of triples: the negated priority, an index
that breaks ties, and the item.
-/

namespace SmarTune

/-- A triple on the heap. -/
structure HeapEntry (Item : Type) where
  priority : ℤ
  index : ℕ
  item : Item
  deriving DecidableEq

/-- The order of the triples; indices are never equal. -/
def HeapEntry.before {Item : Type} (first second : HeapEntry Item) : Bool :=
  first.priority < second.priority ||
    (first.priority == second.priority && first.index < second.index)

/-- The triple at the top of the heap. -/
def HeapEntry.least {Item : Type} :
    List (HeapEntry Item) → Option (HeapEntry Item)
  | [] => none
  | entry :: entries =>
    match least entries with
    | some other => if other.before entry then some other else some entry
    | none => some entry

theorem HeapEntry.before_trans {Item : Type}
    {first second third : HeapEntry Item} (left : first.before second = false)
    (right : second.before third = false) : first.before third = false := by
  simp [before] at left right ⊢
  omega

theorem HeapEntry.not_before_of_before {Item : Type}
    {first second : HeapEntry Item}
    (before : first.before second = true) : second.before first = false := by
  simp [HeapEntry.before] at before ⊢
  omega

theorem HeapEntry.least_spec {Item : Type} {entries : List (HeapEntry Item)}
    {top : HeapEntry Item} (least : HeapEntry.least entries = some top) :
    top ∈ entries ∧ ∀ other ∈ entries, other.before top = false := by
  induction entries generalizing top with
  | nil => cases least
  | cons entry entries ih =>
    simp only [HeapEntry.least] at least
    have irreflexive : ∀ one : HeapEntry Item, one.before one = false := by
      intro one
      simp [before]
    cases rest : HeapEntry.least entries with
    | none =>
      rw [rest] at least
      cases least
      cases entries with
      | nil => simp [irreflexive]
      | cons next later =>
        simp only [HeapEntry.least] at rest
        split at rest
        · split at rest <;> cases rest
        · cases rest
    | some other =>
      obtain ⟨member, first⟩ := ih rest
      rw [rest] at least
      dsimp only at least
      split at least
      · rename_i earlier
        cases least
        refine ⟨List.mem_cons_of_mem _ member, ?_⟩
        intro one among
        rcases List.mem_cons.mp among with rfl | later
        · exact not_before_of_before earlier
        · exact first one later
      · rename_i later
        cases least
        refine ⟨List.mem_cons_self, ?_⟩
        intro one among
        rcases List.mem_cons.mp among with rfl | later'
        · exact irreflexive one
        · exact before_trans (first one later') (by simpa using later)

/-- The triples on the heap, in some order, and `_index`. -/
structure MaxPriorityQueue (Item : Type) where
  entries : List (HeapEntry Item)
  nextIndex : ℕ

namespace MaxPriorityQueue

variable {Item : Type}

/-- `__init__`. -/
def empty : MaxPriorityQueue Item := ⟨[], 0⟩

def items (queue : MaxPriorityQueue Item) : List Item :=
  queue.entries.map HeapEntry.item

/-- `put`. -/
def put (queue : MaxPriorityQueue Item) (item : Item)
    (priority : ℤ) : MaxPriorityQueue Item where
  entries := ⟨-priority, queue.nextIndex, item⟩ :: queue.entries
  nextIndex := queue.nextIndex + 1

/-- `get`; an empty queue raises. -/
def get [DecidableEq Item] (queue : MaxPriorityQueue Item) :
    Option (Item × MaxPriorityQueue Item) :=
  (HeapEntry.least queue.entries).map fun entry =>
    (entry.item, { queue with entries := queue.entries.erase entry })

/-- The list that `remove_if` builds, and the items that it leaves out. -/
def partition (queue : MaxPriorityQueue Item)
    (condition : Item → Bool) : List (HeapEntry Item) × List Item :=
  (queue.entries.filter fun entry => !condition entry.item,
    queue.items.filter condition)

/-- `self._queue.queue = new_queue`. -/
def replace (queue : MaxPriorityQueue Item)
    (entries : List (HeapEntry Item)) : MaxPriorityQueue Item :=
  { queue with entries }

@[simp] theorem items_put (queue : MaxPriorityQueue Item) (item : Item)
    (priority : ℤ) :
    (queue.put item priority).items = item :: queue.items :=
  rfl

theorem perm_of_get [DecidableEq Item] {queue rest : MaxPriorityQueue Item}
    {item : Item} (got : queue.get = some (item, rest)) :
    queue.items.Perm (item :: rest.items) := by
  obtain ⟨entry, least, eq⟩ := Option.map_eq_some_iff.mp got
  cases eq
  have member := (HeapEntry.least_spec least).1
  exact (List.perm_cons_erase member).map HeapEntry.item

/-- `remove_if` keeps what it does not take out. -/
theorem perm_partition (queue : MaxPriorityQueue Item)
    (condition : Item → Bool) :
    queue.items.Perm ((queue.replace (queue.partition condition).1).items ++
        (queue.partition condition).2) := by
  have kept : (queue.replace (queue.partition condition).1).items =
      queue.items.filter fun item => !condition item := by
    simp [items, replace, partition, List.filter_map, Function.comp_def]
  rw [kept]
  exact (List.filter_append_perm (fun item => !condition item)
    queue.items).symm.trans (by simp [partition])

end MaxPriorityQueue

end SmarTune
