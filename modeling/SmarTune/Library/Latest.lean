import SmarTune.Library.OrderedDict

/-!
# The latest value of a key

Events may have a value for a key.  The latest value of a key is the one of the
last event that has any, which is also what a dictionary holds after every
event has written its value.  Sorting the events first changes nothing when the
last event of a key is a greatest one, for the sort is stable.
-/

namespace Latest

section Latest

variable {Event κ ν : Type*} [DecidableEq κ] (reads : Event → Option (κ × ν))

def valueFor (key : κ) (event : Event) : Option ν :=
  (reads event).bind fun entry =>
    if entry.1 = key then some entry.2 else none

/-- The value of the last event that has one for the key. -/
def latest (events : List Event) (key : κ) : Option ν :=
  (events.filterMap (valueFor reads key)).getLast?

/-- The dictionary into which every event writes its value. -/
def book (events : List Event) : OrderedDict κ ν :=
  events.foldl (fun dict event =>
      match reads event with
      | none => dict
      | some (key, value) => dict.set key value)
    .empty

variable {reads} {key : κ}

theorem valueFor_eq_some_iff {event : Event} {value : ν} :
    valueFor reads key event = some value ↔ reads event = some (key, value) := by
  unfold valueFor
  cases reads event with
  | none => simp
  | some entry =>
    obtain ⟨other, found⟩ := entry
    by_cases same : other = key <;> simp [same]

@[simp] theorem latest_nil : latest reads [] key = none := rfl

theorem latest_concat (events : List Event) (event : Event) :
    latest reads (events ++ [event]) key =
      (valueFor reads key event).or (latest reads events key) := by
  unfold latest
  rw [List.filterMap_append]
  cases value : valueFor reads key event with
  | none => simp [value]
  | some found => simp [value]

/-- The dictionary holds the latest values. -/
theorem get?_book (events : List Event) :
    (book reads events).get? key = latest reads events key := by
  induction events using List.reverseRecOn with
  | nil => rfl
  | append_singleton events event ih =>
    rw [latest_concat, ← ih, book, List.foldl_append]
    simp only [List.foldl_cons, List.foldl_nil, valueFor]
    cases read : reads event with
    | none => rfl
    | some entry =>
      obtain ⟨other, value⟩ := entry
      change (OrderedDict.set _ other value).get? key = _
      rw [OrderedDict.get?_set]
      by_cases same : key = other
      · simp [same]
      · simp [same, Ne.symm same, book]

theorem latest_eq_bind (events : List Event) :
    latest reads events key = (events.filter fun event =>
        (valueFor reads key event).isSome).getLast?.bind
          (valueFor reads key) := by
  induction events using List.reverseRecOn with
  | nil => rfl
  | append_singleton events event ih =>
    rw [latest_concat, List.filter_append, ih]
    cases value : valueFor reads key event with
    | none => simp [value]
    | some found => simp [value]

theorem latest_eq_none_iff (events : List Event) :
    latest reads events key = none ↔
      ∀ event ∈ events, valueFor reads key event = none := by
  simp [latest]

theorem exists_of_latest {events : List Event} {value : ν}
    (found : latest reads events key = some value) :
    ∃ event ∈ events, reads event = some (key, value) := by
  obtain ⟨event, member, read⟩ :=
    List.mem_filterMap.mp (List.mem_of_getLast? found)
  exact ⟨event, member, valueFor_eq_some_iff.mp read⟩

end Latest

/-! ## After a stable sort -/

section Chronology

variable {Event Stamp : Type*} [LinearOrder Stamp] (stamp : Event → Stamp)

def NoLater (first second : Event) : Prop := stamp first ≤ stamp second

instance : DecidableRel (NoLater stamp) := fun first second =>
  inferInstanceAs (Decidable (stamp first ≤ stamp second))

instance : Std.Total (NoLater stamp) :=
  ⟨fun first second => le_total (stamp first) (stamp second)⟩

instance : IsTrans Event (NoLater stamp) := ⟨fun _ _ _ => le_trans⟩

/-- The events in the order of their stamps, equal stamps as they came. -/
def chronological (events : List Event) : List Event :=
  events.insertionSort (NoLater stamp)

@[simp] theorem mem_chronological {events : List Event} {event : Event} :
    event ∈ chronological stamp events ↔ event ∈ events :=
  List.mem_insertionSort _

theorem chronological_perm (events : List Event) :
    (chronological stamp events).Perm events :=
  List.perm_insertionSort _ events

variable {stamp} {keeps : Event → Bool} {events : List Event} {last : Event}

theorem noLater_of_getLast?
    (found : ((chronological stamp events).filter keeps).getLast? = some last)
    {event : Event} (member : event ∈ events.filter keeps) :
    NoLater stamp event last := by
  have sorted : ((chronological stamp events).filter keeps).Pairwise
      (NoLater stamp) :=
    (List.pairwise_insertionSort (NoLater stamp) events).filter keeps
  obtain ⟨rest, split⟩ := List.getLast?_eq_some_iff.mp found
  have placed : event ∈ rest ++ [last] := by
    rw [← split, List.mem_filter, mem_chronological]
    exact List.mem_filter.mp member
  rw [split, List.pairwise_append] at sorted
  rcases List.mem_append.mp placed with earlier | same
  · exact sorted.2.2 event earlier last (List.mem_singleton_self last)
  · rw [List.mem_singleton.mp same]
    exact le_refl (stamp last)

theorem noLater_of_head? {first : Event}
    (found : (chronological stamp events).head? = some first) {event : Event}
    (member : event ∈ events) :
    NoLater stamp first event := by
  have sorted : (chronological stamp events).Pairwise (NoLater stamp) :=
    List.pairwise_insertionSort (NoLater stamp) events
  obtain ⟨rest, split⟩ := List.head?_eq_some_iff.mp found
  have placed : event ∈ first :: rest := by
    rw [← split, mem_chronological]
    exact member
  rw [split, List.pairwise_cons] at sorted
  rcases List.mem_cons.mp placed with rfl | later
  · exact le_refl (stamp event)
  · exact sorted.1 event later

theorem getLast?_chronological (distinct : events.Nodup)
    (found : (events.filter keeps).getLast? = some last)
    (latest : ∀ event ∈ events.filter keeps, NoLater stamp event last) :
    ((chronological stamp events).filter keeps).getLast? = some last := by
  obtain ⟨rest, split⟩ := List.getLast?_eq_some_iff.mp found
  have member : last ∈ (chronological stamp events).filter keeps := by
    have kept : last ∈ events.filter keeps := by simp [split]
    simpa [List.mem_filter] using kept
  have sortedDistinct : ((chronological stamp events).filter keeps).Nodup :=
    ((chronological_perm stamp events).nodup_iff.mpr distinct).filter keeps
  cases sorted : ((chronological stamp events).filter keeps).getLast? with
  | none =>
    rw [List.getLast?_eq_none_iff] at sorted
    simp [sorted] at member
  | some final =>
    obtain ⟨front, shape⟩ := List.getLast?_eq_some_iff.mp sorted
    by_contra different
    have other : final ≠ last := fun same => different (same ▸ rfl)
    -- `final` came before `last`, and the sort keeps such a pair in order.
    have earlier : final ∈ rest := by
      have kept : final ∈ events.filter keeps := by
        have placed : final ∈ (chronological stamp events).filter keeps := by
          simp [shape]
        simpa [List.mem_filter] using placed
      rw [split] at kept
      simpa [other] using kept
    have pair : [final, last].Sublist (events.filter keeps) := by
      rw [split]
      exact (List.singleton_sublist.mpr earlier).append (.refl [last])
    have ordered : [final, last].Sublist (chronological stamp events) :=
      List.pair_sublist_insertionSort
        (latest final (pair.subset List.mem_cons_self))
        (pair.trans List.filter_sublist)
    have kept := ordered.filter keeps
    have both : [final, last].filter keeps = [final, last] := by
      apply List.filter_eq_self.mpr
      intro event eventMember
      exact (List.mem_filter.mp (pair.subset eventMember)).2
    rw [both, shape, List.sublist_append_iff] at kept
    obtain ⟨left, right, whole, inFront, atEnd⟩ := kept
    rw [shape] at sortedDistinct
    cases left with
    | nil =>
      have short := atEnd.length_le
      rw [← show [final, last] = right from whole] at short
      simp at short
    | cons head left =>
      have same : final = head := (List.cons.inj whole).1
      have inside : final ∈ front :=
        same ▸ inFront.subset List.mem_cons_self
      have apart := (List.nodup_append.mp sortedDistinct).2.2
      exact apart final inside final (List.mem_singleton_self final) rfl

theorem latest_chronological_iff {κ ν : Type*} [DecidableEq κ]
    {reads : Event → Option (κ × ν)} {key : κ} {value : ν}
    (found : ∃ event ∈ events, reads event = some (key, value))
    (apart : ∀ first ∈ events, ∀ second ∈ events,
      stamp first = stamp second → first = second) :
    latest reads (chronological stamp events) key = some value ↔
      ∀ other ∈ events, ∀ different, reads other = some (key, different) →
        different ≠ value → ∃ event ∈ events, reads event = some (key, value) ∧
            stamp other < stamp event := by
  obtain ⟨witness, present, read⟩ := found
  have decided : ∃ last, ((chronological stamp events).filter fun event =>
      (valueFor reads key event).isSome).getLast? = some last := by
    have kept : witness ∈ (chronological stamp events).filter fun event =>
        (valueFor reads key event).isSome := by
      simp [present, valueFor_eq_some_iff.mpr read]
    exact ⟨_, List.getLast?_eq_some_getLast (List.ne_nil_of_mem kept)⟩
  obtain ⟨last, lastFound⟩ := decided
  have lastKept := List.mem_filter.mp (List.mem_of_getLast? lastFound)
  have lastMember := (mem_chronological stamp).mp lastKept.1
  obtain ⟨lastValue, lastRead⟩ := Option.isSome_iff_exists.mp lastKept.2
  have belowLast : ∀ event ∈ events, ∀ any, reads event = some (key, any) →
      stamp event ≤ stamp last := by
    intro event member any eventRead
    apply noLater_of_getLast? lastFound
    simp [member, valueFor_eq_some_iff.mpr eventRead]
  have latestIsLast : latest reads (chronological stamp events) key =
      some lastValue := by
    rw [latest_eq_bind, lastFound]
    exact lastRead
  have lastReads := valueFor_eq_some_iff.mp lastRead
  rw [latestIsLast, Option.some.injEq]
  constructor
  · rintro rfl other member different otherRead notSame
    refine ⟨last, lastMember, lastReads,
      lt_of_le_of_ne (belowLast other member different otherRead) ?_⟩
    intro sameStamp
    rw [apart other member last lastMember sameStamp, lastReads] at otherRead
    cases otherRead
    exact notSame rfl
  · intro above
    by_contra notSame
    obtain ⟨event, member, eventRead, later⟩ :=
      above last lastMember lastValue lastReads notSame
    exact absurd later (belowLast event member value eventRead).not_gt

end Chronology

end Latest
