import SmarTune.Library.WaitingLine
import SmarTune.Intercept.MaxPriorityQueue

/-!
# Runs of the queue

Whatever calls are made, and however the heap arranges its array between them,
the queue serves its items as a waiting line does: the highest priority first,
the oldest item among equal ones.
-/

namespace SmarTune

open WaitingLine

namespace MaxPriorityQueue

variable {Data : Type}

/-- The triples in the order of their indices, as `put` made them. -/
structure Tickets (queue : MaxPriorityQueue (Data × ℤ))
    (tickets : List (HeapEntry (Data × ℤ))) : Prop where
  heap : queue.entries.Perm tickets
  ordered : tickets.Pairwise fun first second => first.index < second.index
  old : ∀ ticket ∈ tickets, ticket.index < queue.nextIndex
  negated : ∀ ticket ∈ tickets, ticket.priority = -ticket.item.2

variable
  {queue rest : MaxPriorityQueue (Data × ℤ)}
  {tickets : List (HeapEntry (Data × ℤ))}

theorem Tickets.put (valid : queue.Tickets tickets) (item : Data × ℤ) :
    (queue.put item item.2).Tickets
      (tickets ++ [⟨-item.2, queue.nextIndex, item⟩]) where
  heap := (valid.heap.cons _).trans (List.perm_append_singleton _ _).symm
  ordered := by
    rw [List.pairwise_append]
    refine ⟨valid.ordered, List.pairwise_singleton _ _, ?_⟩
    intro ticket member other new
    rw [List.mem_singleton.mp new]
    exact valid.old ticket member
  old := by
    intro ticket member
    rcases List.mem_append.mp member with earlier | new
    · exact Nat.lt_succ_of_lt (valid.old ticket earlier)
    · rw [List.mem_singleton.mp new]
      exact Nat.lt_succ_self _
  negated := by
    intro ticket member
    rcases List.mem_append.mp member with earlier | new
    · exact valid.negated ticket earlier
    · rw [List.mem_singleton.mp new]

/-- Some of the triples leave. -/
theorem Tickets.filter (valid : queue.Tickets tickets)
    (keep : HeapEntry (Data × ℤ) → Bool) :
    (queue.replace (queue.entries.filter keep)).Tickets
      (tickets.filter keep) where
  heap := valid.heap.filter keep
  ordered := valid.ordered.filter keep
  old := fun ticket member =>
    valid.old ticket (List.mem_of_mem_filter member)
  negated := fun ticket member =>
    valid.negated ticket (List.mem_of_mem_filter member)

variable [DecidableEq Data]

/-- The top of the heap is the first of the triples with the highest
priority. -/
theorem Tickets.serves (valid : queue.Tickets tickets)
    {top : HeapEntry (Data × ℤ)}
    (least : HeapEntry.least queue.entries = some top) :
    ∃ before after, tickets = before ++ top :: after ∧
      tickets.erase top = before ++ after ∧
      (∀ other ∈ before, other.item.2 < top.item.2) ∧
      ∀ other ∈ after, other.item.2 ≤ top.item.2 := by
  obtain ⟨member, first⟩ := HeapEntry.least_spec least
  obtain ⟨before, after, rfl⟩ :=
    List.append_of_mem (valid.heap.subset member)
  have ordered := List.pairwise_append.mp valid.ordered
  have topNegated := valid.negated top (by simp)
  refine ⟨before, after, rfl, ?_, ?_, ?_⟩
  · have absent : top ∉ before := fun among =>
      (ordered.2.2 top among top (List.mem_cons_self ..)).false
    rw [List.erase_append_right _ absent, List.erase_cons_head]
  · intro other among
    have earlier := ordered.2.2 other among top (List.mem_cons_self ..)
    have negated := valid.negated other (by simp [among])
    have notBefore := first other (valid.heap.symm.subset (by simp [among]))
    simp only [HeapEntry.before, Bool.or_eq_false_iff, Bool.and_eq_false_iff,
      decide_eq_false_iff_not, beq_eq_false_iff_ne] at notBefore
    omega
  · intro other among
    have negated := valid.negated other (by simp [among])
    have notBefore := first other (valid.heap.symm.subset (by simp [among]))
    simp only [HeapEntry.before, Bool.or_eq_false_iff,
      decide_eq_false_iff_not] at notBefore
    omega

/-- Taking the top out keeps the other triples. -/
theorem Tickets.erase (valid : queue.Tickets tickets)
    (top : HeapEntry (Data × ℤ)) :
    ({ queue with entries := queue.entries.erase top } :
      MaxPriorityQueue (Data × ℤ)).Tickets (tickets.erase top) where
  heap := valid.heap.erase top
  ordered := valid.ordered.sublist List.erase_sublist
  old := fun ticket member => valid.old ticket (List.mem_of_mem_erase member)
  negated := fun ticket member =>
    valid.negated ticket (List.mem_of_mem_erase member)

/-- The top exists unless the heap is empty. -/
theorem entries_eq_nil_of_least {Item : Type} {entries : List (HeapEntry Item)}
    (least : HeapEntry.least entries = none) :
    entries = [] := by
  cases entries with
  | nil => rfl
  | cons entry entries =>
    simp only [HeapEntry.least] at least
    split at least
    · split at least <;> cases least
    · cases least

/-- The runs of a queue of `(data, priority)` pairs from `__init__` on, with the
results of the calls. -/
inductive Run :
    List (Event (Data × ℤ)) → MaxPriorityQueue (Data × ℤ) → Prop
  | init : Run [] .empty
  | put {events queue} (earlier : Run events queue) (item : Data × ℤ) :
      Run (events ++ [.joined item]) (queue.put item item.2)
  | get {events queue item rest} (earlier : Run events queue)
      (got : queue.get = some (item, rest)) :
      Run (events ++ [.served item]) rest
  /-- `get` raises. -/
  | raised {events queue} (earlier : Run events queue)
      (got : queue.get = none) :
      Run (events ++ [.idle]) queue
  | removeIf {events queue} (earlier : Run events queue)
      (condition : Data × ℤ → Bool) :
      Run (events ++ [.left condition (queue.partition condition).2])
        (queue.replace (queue.partition condition).1)
  /-- The heap operations leave their array in any order. -/
  | arranged {events queue entries} (earlier : Run events queue)
      (same : entries.Perm queue.entries) :
      Run events (queue.replace entries)

/-- A run leaves a history of a waiting line, and the queue holds those who wait
after it. -/
theorem Run.history {events : List (Event (Data × ℤ))}
    (run : Run events queue) :
    ∃ tickets, queue.Tickets tickets ∧
      History Prod.snd events (tickets.map HeapEntry.item) := by
  induction run with
  | init =>
    exact ⟨[], ⟨List.Perm.refl _, List.Pairwise.nil, by simp, by simp⟩, .start⟩
  | put _ item hypothesis =>
    obtain ⟨tickets, valid, history⟩ := hypothesis
    refine ⟨_, valid.put item, ?_⟩
    rw [List.map_append]
    exact history.joined item
  | get _ got hypothesis =>
    obtain ⟨tickets, valid, history⟩ := hypothesis
    obtain ⟨top, least, eq⟩ := Option.map_eq_some_iff.mp got
    cases eq
    refine ⟨_, valid.erase top, history.served ?_⟩
    obtain ⟨before, after, split, rest, heavier, atMost⟩ :=
      valid.serves least
    refine ⟨before.map HeapEntry.item, after.map HeapEntry.item, ?_, ?_, ?_, ?_⟩
    · rw [split, List.map_append, List.map_cons]
    · rw [rest, List.map_append]
    · exact List.forall_mem_map.mpr heavier
    · exact List.forall_mem_map.mpr atMost
  | raised _ got hypothesis =>
    obtain ⟨tickets, valid, history⟩ := hypothesis
    have empty := entries_eq_nil_of_least (Option.map_eq_none_iff.mp got)
    have nobody : tickets = [] :=
      List.Perm.nil_eq (empty ▸ valid.heap) |>.symm
    subst nobody
    exact ⟨[], valid, history.idle⟩
  | @removeIf _ queue _ condition hypothesis =>
    obtain ⟨tickets, valid, history⟩ := hypothesis
    refine ⟨_, valid.filter fun entry => !condition entry.item, ?_⟩
    have leaving : (queue.partition condition).2.Perm
        ((tickets.map HeapEntry.item).filter condition) :=
      (valid.heap.map HeapEntry.item).filter condition
    have kept : (tickets.filter fun entry => !condition entry.item).map
        HeapEntry.item =
        (tickets.map HeapEntry.item).filter fun item => !condition item := by
      rw [List.filter_map]
      rfl
    rw [kept]
    exact history.left condition leaving
  | arranged _ same hypothesis =>
    obtain ⟨tickets, valid, history⟩ := hypothesis
    exact ⟨tickets, ⟨same.trans valid.heap, valid.ordered, valid.old,
      valid.negated⟩, history⟩

/-- Every run of the queue serves a waiting line: `get` takes the first of the
items with the highest priority, `remove_if` takes exactly those that meet its
condition, and each item put either was returned once or is still queued. -/
theorem serves_waiting_line {events : List (Event (Data × ℤ))}
    (run : Run events queue) :
    ∃ line, History Prod.snd events line ∧ queue.items.Perm line ∧
      (arrivals events).Perm (departures events ++ queue.items) := by
  obtain ⟨tickets, valid, history⟩ := run.history
  have waiting : queue.items.Perm (tickets.map HeapEntry.item) :=
    valid.heap.map HeapEntry.item
  exact ⟨_, history, waiting, history.perm.trans (waiting.symm.append_left _)⟩

/-- Two items of one priority and one of a higher one are put, two are taken:
the later one of equal priority is left. -/
theorem second_of_equals_waits :
    ∃ line : List (String × ℤ), History Prod.snd
        [.joined ("first", 1), .joined ("second", 1), .joined ("urgent", 2),
          .served ("urgent", 2), .served ("first", 1)] line ∧
      [("second", 1)].Perm line ∧
      [("first", 1), ("second", 1), ("urgent", 2)].Perm
        [("urgent", 2), ("first", 1), ("second", (1 : ℤ))] := by
  have filled := ((Run.init.put ("first", 1)).put ("second", 1)).put
    ("urgent", 2)
  have urgent : Run (_ ++ [.served ("urgent", 2)])
      (⟨[⟨-1, 1, ("second", 1)⟩, ⟨-1, 0, ("first", 1)⟩], 3⟩ :
        MaxPriorityQueue (String × ℤ)) := filled.get rfl
  have first : Run (_ ++ [.served ("first", 1)])
      (⟨[⟨-1, 1, ("second", 1)⟩], 3⟩ : MaxPriorityQueue (String × ℤ)) :=
    urgent.get rfl
  exact serves_waiting_line first

end MaxPriorityQueue

end SmarTune
