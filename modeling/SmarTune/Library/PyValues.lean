import Mathlib.Algebra.Field.Rat
import Mathlib.Data.String.Basic

/-!
# Plain values and JSON

Values made of numbers, strings, sequences and dictionaries with string keys,
compared the way `==` does: a number by its amount, a dictionary without regard
to the order of its keys.  Writing a value as JSON and reading it back turns
tuples into lists and keeps everything else, so exactly the values without a
tuple survive.
-/

mutual

/-- A value. -/
inductive PyValue
  | none
  | bool (value : Bool)
  | int (value : ℤ)
  | float (value : ℚ)
  | str (value : String)
  | list (items : PyItems)
  | tuple (items : PyItems)
  | dict (entries : PyEntries)
  deriving DecidableEq

/-- The items of a sequence. -/
inductive PyItems
  | nil
  | cons (item : PyValue) (items : PyItems)
  deriving DecidableEq

/-- The entries of a dictionary, in the order of insertion. -/
inductive PyEntries
  | nil
  | cons (key : String) (value : PyValue) (entries : PyEntries)
  deriving DecidableEq

end

/-! ## Dictionaries and lists -/

namespace PyEntries

def ofList : List (String × PyValue) → PyEntries
  | [] => .nil
  | (key, value) :: entries => .cons key value (ofList entries)

/-- The value of a key, `None` when it is missing. -/
def get : PyEntries → String → PyValue
  | .nil, _ => .none
  | .cons key value entries, wanted =>
    if key = wanted then value else entries.get wanted

theorem get_ofList {entries : List (String × PyValue)}
    (distinct : (entries.map Prod.fst).Nodup) {key : String} {value : PyValue}
    (member : (key, value) ∈ entries) :
    (ofList entries).get key = value := by
  induction entries with
  | nil => cases member
  | cons entry entries ih =>
    obtain ⟨first, firstValue⟩ := entry
    rw [List.map_cons, List.nodup_cons] at distinct
    rcases List.mem_cons.mp member with same | later
    · cases same
      simp [ofList, get]
    · have different : first ≠ key := by
        rintro rfl
        exact distinct.1 (List.mem_map.mpr ⟨_, later, rfl⟩)
      simpa [ofList, get, different] using ih distinct.2 later

end PyEntries

namespace PyItems

/-- The items, in order. -/
def toList : PyItems → List PyValue
  | .nil => []
  | .cons item items => item :: items.toList

def ofList : List PyValue → PyItems
  | [] => .nil
  | item :: items => .cons item (ofList items)

end PyItems

namespace PyValue

/-- `(value or {}).get(key)`, of a dictionary or `None`. -/
def get : PyValue → String → PyValue
  | .dict entries, key => entries.get key
  | _, _ => .none

/-- The items of `(value or [])`, of a list or `None`. -/
def items : PyValue → List PyValue
  | .list items => items.toList
  | _ => []

end PyValue

@[simp] theorem PyValue.get_none (key : String) :
    PyValue.none.get key = .none := rfl

@[simp] theorem PyValue.items_none : PyValue.none.items = [] := rfl

/-! ## Equality of values -/

/-- Insert an entry before the first greater key. -/
def PyEntries.insert (key : String) (value : PyValue) : PyEntries → PyEntries
  | .nil => .cons key value .nil
  | .cons first firstValue entries =>
    if key ≤ first then .cons key value (.cons first firstValue entries)
    else .cons first firstValue (entries.insert key value)

mutual

/-- The value with numbers as amounts and dictionaries sorted by key. -/
def PyValue.canon : PyValue → PyValue
  | .none => .none
  | .bool value => .float (if value then 1 else 0)
  | .int value => .float value
  | .float value => .float value
  | .str value => .str value
  | .list items => .list items.canon
  | .tuple items => .tuple items.canon
  | .dict entries => .dict entries.canon

/-- The items in that form. -/
def PyItems.canon : PyItems → PyItems
  | .nil => .nil
  | .cons item items => .cons item.canon items.canon

/-- The entries in that form, sorted by key. -/
def PyEntries.canon : PyEntries → PyEntries
  | .nil => .nil
  | .cons key value entries => entries.canon.insert key value.canon

end

namespace PyValue

/-- `first == second`. -/
def Same (first second : PyValue) : Prop := first.canon = second.canon

instance (first second : PyValue) : Decidable (first.Same second) :=
  inferInstanceAs (Decidable (_ = _))

@[refl, simp] theorem Same.refl (value : PyValue) : value.Same value := rfl

@[symm] theorem Same.symm {first second : PyValue} (same : first.Same second) :
    second.Same first :=
  Eq.symm same

@[trans] theorem Same.trans {first second third : PyValue}
    (same : first.Same second) (sameToo : second.Same third) :
    first.Same third :=
  Eq.trans same sameToo

theorem same_none_iff (value : PyValue) : value.Same .none ↔ value = .none := by
  cases value <;> simp [Same, canon]

end PyValue

/-! ## JSON -/

mutual

/-- What a JSON text says. -/
inductive Json
  | null
  | bool (value : Bool)
  | integer (value : ℤ)
  | decimal (value : ℚ)
  | string (value : String)
  | array (items : JsonItems)
  | object (members : JsonMembers)
  deriving DecidableEq

/-- The items of an array. -/
inductive JsonItems
  | nil
  | cons (item : Json) (items : JsonItems)
  deriving DecidableEq

/-- The members of an object, in order. -/
inductive JsonMembers
  | nil
  | cons (key : String) (value : Json) (members : JsonMembers)
  deriving DecidableEq

end

mutual

/-- `json.dumps`. -/
def PyValue.dumps : PyValue → Json
  | .none => .null
  | .bool value => .bool value
  | .int value => .integer value
  | .float value => .decimal value
  | .str value => .string value
  | .list items => .array items.dumps
  | .tuple items => .array items.dumps
  | .dict entries => .object entries.dumps

def PyItems.dumps : PyItems → JsonItems
  | .nil => .nil
  | .cons item items => .cons item.dumps items.dumps

def PyEntries.dumps : PyEntries → JsonMembers
  | .nil => .nil
  | .cons key value entries => .cons key value.dumps entries.dumps

end

mutual

/-- `json.loads`. -/
def Json.loads : Json → PyValue
  | .null => .none
  | .bool value => .bool value
  | .integer value => .int value
  | .decimal value => .float value
  | .string value => .str value
  | .array items => .list items.loads
  | .object members => .dict members.loads

/-- The items of an array. -/
def JsonItems.loads : JsonItems → PyItems
  | .nil => .nil
  | .cons item items => .cons item.loads items.loads

/-- The entries of an object. -/
def JsonMembers.loads : JsonMembers → PyEntries
  | .nil => .nil
  | .cons key value members => .cons key value.loads members.loads

end

/-- Insert a member before the first greater key. -/
def JsonMembers.insert (key : String) (value : Json) : JsonMembers → JsonMembers
  | .nil => .cons key value .nil
  | .cons first firstValue members =>
    if key ≤ first then .cons key value (.cons first firstValue members)
    else .cons first firstValue (members.insert key value)

mutual

/-- The JSON that `sort_keys` writes. -/
def Json.sortKeys : Json → Json
  | .array items => .array items.sortKeys
  | .object members => .object members.sortKeys
  | .null => .null
  | .bool value => .bool value
  | .integer value => .integer value
  | .decimal value => .decimal value
  | .string value => .string value

/-- The items in that form. -/
def JsonItems.sortKeys : JsonItems → JsonItems
  | .nil => .nil
  | .cons item items => .cons item.sortKeys items.sortKeys

def JsonMembers.sortKeys : JsonMembers → JsonMembers
  | .nil => .nil
  | .cons key value members => members.sortKeys.insert key value.sortKeys

end

/-! ## What survives -/

mutual

/-- There is no tuple in the value. -/
def PyValue.Plain : PyValue → Prop
  | .tuple _ => False
  | .list items => items.Plain
  | .dict entries => entries.Plain
  | .none | .bool _ | .int _ | .float _ | .str _ => True

/-- There is no tuple in the items. -/
def PyItems.Plain : PyItems → Prop
  | .nil => True
  | .cons item items => item.Plain ∧ items.Plain

/-- There is no tuple in the entries. -/
def PyEntries.Plain : PyEntries → Prop
  | .nil => True
  | .cons _ value entries => value.Plain ∧ entries.Plain

end

mutual

/-- A value is read back as it was written exactly when it has no tuple. -/
theorem PyValue.loads_dumps_iff (value : PyValue) :
    value.dumps.loads = value ↔ value.Plain := by
  cases value with
  | none | bool | int | float | str =>
    simp [PyValue.dumps, Json.loads, PyValue.Plain]
  | tuple items => simp [PyValue.dumps, Json.loads, PyValue.Plain]
  | list items =>
    simp [PyValue.dumps, Json.loads, PyValue.Plain, items.loads_dumps_iff]
  | dict entries =>
    simp [PyValue.dumps, Json.loads, PyValue.Plain, entries.loads_dumps_iff]

/-- The items of a sequence are read back as they were written exactly when they
have no tuple. -/
theorem PyItems.loads_dumps_iff (items : PyItems) :
    items.dumps.loads = items ↔ items.Plain := by
  cases items with
  | nil => simp [PyItems.dumps, JsonItems.loads, PyItems.Plain]
  | cons item items =>
    simp [PyItems.dumps, JsonItems.loads, PyItems.Plain, item.loads_dumps_iff,
      items.loads_dumps_iff]

/-- The entries of a dictionary are read back as they were written exactly when
they have no tuple. -/
theorem PyEntries.loads_dumps_iff (entries : PyEntries) :
    entries.dumps.loads = entries ↔ entries.Plain := by
  cases entries with
  | nil => simp [PyEntries.dumps, JsonMembers.loads, PyEntries.Plain]
  | cons key value entries =>
    simp [PyEntries.dumps, JsonMembers.loads, PyEntries.Plain,
      value.loads_dumps_iff, entries.loads_dumps_iff]

end

/-- A key is read back with its own value. -/
theorem PyEntries.get_loads_dumps : ∀ (entries : PyEntries) (key : String),
    entries.dumps.loads.get key = (entries.get key).dumps.loads
  | .nil, _ => rfl
  | .cons first value entries, key => by
      have later := entries.get_loads_dumps key
      by_cases same : first = key
      · simp [PyEntries.dumps, JsonMembers.loads, PyEntries.get, same]
      · simp [PyEntries.dumps, JsonMembers.loads, PyEntries.get, same, later]

theorem PyValue.get_loads_dumps (value : PyValue) (key : String) :
    value.dumps.loads.get key = (value.get key).dumps.loads := by
  cases value with
  | dict entries => exact entries.get_loads_dumps key
  | none | bool | int | float | str | list | tuple => rfl
