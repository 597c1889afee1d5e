import SmarTune.Library.PyValues

/-!
# JSON with sorted keys

Sorting the keys of a JSON text changes neither the members of an object nor the
value that is read back, up to equality.  So the sorted texts of two dictionaries
agree exactly when they have the same keys with values of the same sorted text,
and values with one sorted text are equal.
-/

/-! ## Reading back -/

mutual

/-- What is read back is written the same again. -/
theorem Json.dumps_loads (json : Json) : json.loads.dumps = json := by
  cases json with
  | null | bool | integer | decimal | string => rfl
  | array items => rw [Json.loads, PyValue.dumps, items.dumps_loads]
  | object members => rw [Json.loads, PyValue.dumps, members.dumps_loads]

/-- The items are written the same again. -/
theorem JsonItems.dumps_loads (items : JsonItems) :
    items.loads.dumps = items := by
  cases items with
  | nil => rfl
  | cons item items =>
    rw [JsonItems.loads, PyItems.dumps, item.dumps_loads, items.dumps_loads]

/-- The members are written the same again. -/
theorem JsonMembers.dumps_loads (members : JsonMembers) :
    members.loads.dumps = members := by
  cases members with
  | nil => rfl
  | cons key value members =>
    rw [JsonMembers.loads, PyEntries.dumps, value.dumps_loads,
      members.dumps_loads]

end

/-- What is read back has no tuple. -/
theorem Json.plain_loads (json : Json) : json.loads.Plain :=
  (PyValue.loads_dumps_iff _).mp (by rw [json.dumps_loads])

theorem PyEntries.Plain.get (key : String) : ∀ {entries : PyEntries},
    entries.Plain → (entries.get key).Plain
  | .nil, _ => trivial
  | .cons first value entries, plain => by
      rw [PyEntries.get]
      split_ifs
      · exact plain.1
      · exact PyEntries.Plain.get key plain.2

theorem PyValue.Plain.get {value : PyValue} (plain : value.Plain)
    (key : String) :
    (value.get key).Plain := by
  cases value with
  | dict entries => exact PyEntries.Plain.get key plain
  | none | bool | int | float | str | list | tuple => trivial

theorem PyItems.Plain.of_mem : ∀ {items : PyItems}, items.Plain →
    ∀ item ∈ items.toList, item.Plain
  | .nil, _, _, member => by cases member
  | .cons first items, plain, item, member => by
      rcases List.mem_cons.mp member with rfl | later
      · exact plain.1
      · exact PyItems.Plain.of_mem plain.2 item later

theorem PyItems.plain_ofList {items : List PyValue}
    (plain : ∀ item ∈ items, item.Plain) :
    (ofList items).Plain := by
  induction items with
  | nil => trivial
  | cons item items ih =>
    exact ⟨plain item List.mem_cons_self, ih
      fun later member => plain later (List.mem_cons_of_mem _ member)⟩

theorem PyValue.Plain.of_mem_items {value item : PyValue} (plain : value.Plain)
    (member : item ∈ value.items) :
    item.Plain := by
  cases value with
  | list items => exact PyItems.Plain.of_mem plain item member
  | none | bool | int | float | str | tuple | dict => cases member

theorem PyValue.sortKeys_dumps_eq_null_iff (value : PyValue) :
    value.dumps.sortKeys = .null ↔ value = .none := by
  cases value <;> simp [PyValue.dumps, Json.sortKeys]

/-! ## The members of an object -/

namespace JsonMembers

/-- The value of a key. -/
def get? : JsonMembers → String → Option Json
  | .nil, _ => none
  | .cons key value members, wanted =>
    if key = wanted then some value else members.get? wanted

theorem get?_insert (members : JsonMembers) (key wanted : String)
    (value : Json) :
    (members.insert key value).get? wanted =
      if key = wanted then some value else members.get? wanted := by
  match members with
  | .nil => rfl
  | .cons first firstValue members =>
    have later := members.get?_insert key wanted value
    by_cases before : key ≤ first
    · simp [insert, before, get?]
    · have different : key ≠ first := fun same => before (le_of_eq same)
      by_cases found : first = wanted
      · subst found
        simp [insert, before, get?, different]
      · simp [insert, before, get?, found, later]

theorem get?_sortKeys (members : JsonMembers) (wanted : String) :
    members.sortKeys.get? wanted = (members.get? wanted).map Json.sortKeys := by
  match members with
  | .nil => rfl
  | .cons key value members =>
    rw [sortKeys, get?_insert, members.get?_sortKeys wanted, get?]
    split_ifs <;> rfl

end JsonMembers

namespace PyEntries

variable {entries : List (String × PyValue)} {key : String} {value : PyValue}

theorem get?_dumps_ofList_of_not_mem (missing : key ∉ entries.map Prod.fst) :
    (ofList entries).dumps.get? key = none := by
  induction entries with
  | nil => rfl
  | cons entry entries ih =>
    rw [List.map_cons, List.mem_cons, not_or] at missing
    have different : entry.1 ≠ key := fun same => missing.1 same.symm
    simp [ofList, dumps, JsonMembers.get?, different, ih missing.2]

theorem get?_dumps_ofList_filter (distinct : (entries.map Prod.fst).Nodup)
    (member : (key, value) ∈ entries) :
    (ofList (entries.filter fun entry => entry.2 ≠ .none)).dumps.get? key =
      if value = .none then none else some value.dumps := by
  induction entries with
  | nil => cases member
  | cons entry entries ih =>
    obtain ⟨first, firstValue⟩ := entry
    rw [List.map_cons, List.nodup_cons] at distinct
    rcases List.mem_cons.mp member with same | later
    · obtain ⟨rfl, rfl⟩ := Prod.mk.inj same
      by_cases absent : value = .none
      · have missing : key ∉
            (entries.filter fun entry => entry.2 ≠ .none).map Prod.fst := by
          intro found
          obtain ⟨other, kept, rfl⟩ := List.mem_map.mp found
          exact distinct.1
            (List.mem_map.mpr ⟨other, List.mem_of_mem_filter kept, rfl⟩)
        simpa [absent] using get?_dumps_ofList_of_not_mem missing
      · simp [absent, ofList, dumps, JsonMembers.get?]
    · have different : first ≠ key := by
        rintro rfl
        exact distinct.1 (List.mem_map.mpr ⟨_, later, rfl⟩)
      have found := ih distinct.2 later
      by_cases absent : firstValue = .none
      · simpa [absent] using found
      · simpa [absent, ofList, dumps, JsonMembers.get?, different] using found

end PyEntries

/-! ## Equality of what is read back -/

theorem PyEntries.insert_comm {key later : String} (before : key < later)
    (value laterValue : PyValue) : ∀ entries : PyEntries,
    (entries.insert key value).insert later laterValue =
      (entries.insert later laterValue).insert key value
  | .nil => by
      simp [PyEntries.insert, before.le, not_le.mpr before]
  | .cons first firstValue entries => by
      have rest := entries.insert_comm before value laterValue
      by_cases keyFirst : key ≤ first
      · by_cases laterFirst : later ≤ first
        · simp [PyEntries.insert, keyFirst, laterFirst, before.le,
            not_le.mpr before]
        · simp [PyEntries.insert, keyFirst, laterFirst, not_le.mpr before]
      · have laterLast : ¬later ≤ first := fun laterFirst =>
          keyFirst (before.le.trans laterFirst)
        simp [PyEntries.insert, keyFirst, laterLast, rest]

theorem JsonMembers.canon_loads_insert (key : String)
    (value : Json) : ∀ members : JsonMembers,
    (members.insert key value).loads.canon =
      members.loads.canon.insert key value.loads.canon
  | .nil => rfl
  | .cons first firstValue members => by
      by_cases before : key ≤ first
      · simp [JsonMembers.insert, before, JsonMembers.loads, PyEntries.canon]
      · simp [JsonMembers.insert, before, JsonMembers.loads, PyEntries.canon,
          members.canon_loads_insert key value,
          PyEntries.insert_comm (not_le.mp before)]

mutual

theorem Json.canon_loads_sortKeys (json : Json) :
    json.sortKeys.loads.canon = json.loads.canon := by
  cases json with
  | null | bool | integer | decimal | string => rfl
  | array items =>
    simp [Json.sortKeys, Json.loads, PyValue.canon, items.canon_loads_sortKeys]
  | object members =>
    simp [Json.sortKeys, Json.loads, PyValue.canon,
      members.canon_loads_sortKeys]

theorem JsonItems.canon_loads_sortKeys (items : JsonItems) :
    items.sortKeys.loads.canon = items.loads.canon := by
  cases items with
  | nil => rfl
  | cons item items =>
    simp [JsonItems.sortKeys, JsonItems.loads, PyItems.canon,
      item.canon_loads_sortKeys, items.canon_loads_sortKeys]

theorem JsonMembers.canon_loads_sortKeys (members : JsonMembers) :
    members.sortKeys.loads.canon = members.loads.canon := by
  cases members with
  | nil => rfl
  | cons key value members =>
    simp [JsonMembers.sortKeys, JsonMembers.canon_loads_insert,
      JsonMembers.loads, PyEntries.canon, value.canon_loads_sortKeys,
      members.canon_loads_sortKeys]

end

theorem PyValue.same_of_sortKeys_dumps {first second : PyValue}
    (firstPlain : first.Plain) (secondPlain : second.Plain)
    (text : first.dumps.sortKeys = second.dumps.sortKeys) :
    first.Same second := by
  have firstRead := (PyValue.loads_dumps_iff first).mpr firstPlain
  have secondRead := (PyValue.loads_dumps_iff second).mpr secondPlain
  calc first.canon = first.dumps.loads.canon := by rw [firstRead]
    _ = first.dumps.sortKeys.loads.canon := (Json.canon_loads_sortKeys _).symm
    _ = second.dumps.sortKeys.loads.canon := by rw [text]
    _ = second.dumps.loads.canon := Json.canon_loads_sortKeys _
    _ = second.canon := by rw [secondRead]
