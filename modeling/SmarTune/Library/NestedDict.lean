import Mathlib.Data.List.Basic

/-!
# Nested dictionaries

A nested dictionary maps keys to values and to dictionaries, in the order of
insertion.  A value is found by the keys of the dictionaries around it and by
its own key; setting it changes nothing else.
-/

/-- A dictionary of values and dictionaries. -/
inductive NestedDict (κ ν : Type*)
  | empty
  | value (key : κ) (stored : ν) (rest : NestedDict κ ν)
  | dict (key : κ) (inner rest : NestedDict κ ν)
  deriving DecidableEq

namespace NestedDict

variable {κ ν : Type*}

/-- The keys of the outermost dictionary. -/
def keys : NestedDict κ ν → List κ
  | empty => []
  | value key _ rest => key :: rest.keys
  | dict key _ rest => key :: rest.keys

/-- The entries of two dictionaries. -/
def append : NestedDict κ ν → NestedDict κ ν → NestedDict κ ν
  | empty, others => others
  | value key stored rest, others => value key stored (rest.append others)
  | dict key inner rest, others => dict key inner (rest.append others)

theorem append_empty (whole : NestedDict κ ν) : whole.append empty = whole := by
  induction whole with
  | empty => rfl
  | value key stored rest ih => exact congrArg (value key stored) ih
  | dict key inner rest _ ih => exact congrArg (dict key inner) ih

variable [DecidableEq κ]

/-- The entries under other keys. -/
def without (absent : List κ) : NestedDict κ ν → NestedDict κ ν
  | empty => empty
  | value key stored rest =>
    if key ∈ absent then rest.without absent
    else value key stored (rest.without absent)
  | dict key inner rest =>
    if key ∈ absent then rest.without absent
    else dict key inner (rest.without absent)

/-! ## Looking up -/

/-- What is under a key. -/
def get? : NestedDict κ ν → κ → Option (ν ⊕ NestedDict κ ν)
  | empty, _ => none
  | value key stored rest, wanted =>
    if wanted = key then some (.inl stored) else rest.get? wanted
  | dict key inner rest, wanted =>
    if wanted = key then some (.inr inner) else rest.get? wanted

/-- The dictionary at a path. -/
def container? : NestedDict κ ν → List κ → Option (NestedDict κ ν)
  | whole, [] => some whole
  | whole, key :: path =>
    match whole.get? key with
    | some (.inr inner) => inner.container? path
    | _ => none

/-- The value under a key of the dictionary at a path. -/
def getValue? (whole : NestedDict κ ν) (path : List κ) (key : κ) : Option ν :=
  match whole.container? path with
  | none => none
  | some container =>
    match container.get? key with
    | some (.inl stored) => some stored
    | _ => none

variable {whole : NestedDict κ ν} {key known : κ} {stored : ν} {path : List κ}
  {entry : ν ⊕ NestedDict κ ν}

theorem getValue?_nil_eq_some_iff :
    whole.getValue? [] key = some stored ↔
      whole.get? key = some (.inl stored) := by
  simp only [getValue?, container?]
  cases whole.get? key with
  | none => simp
  | some entry => cases entry <;> simp

theorem getValue?_cons_eq_some_iff {first : κ} :
    whole.getValue? (first :: path) key = some stored ↔
      ∃ inner, whole.get? first = some (.inr inner) ∧
        inner.getValue? path key = some stored := by
  simp only [getValue?, container?]
  cases whole.get? first with
  | none => simp
  | some entry => cases entry <;> simp

theorem getValue?_value_of_ne (different : path.headD key ≠ known) (stored : ν)
    (rest : NestedDict κ ν) :
    (value known stored rest).getValue? path key = rest.getValue? path key := by
  cases path with
  | nil =>
    have here : key ≠ known := different
    simp [getValue?, container?, get?, here]
  | cons first path =>
    have here : first ≠ known := different
    simp [getValue?, container?, get?, here]

theorem getValue?_dict_of_ne (different : path.headD key ≠ known)
    (inner rest : NestedDict κ ν) :
    (dict known inner rest).getValue? path key = rest.getValue? path key := by
  cases path with
  | nil =>
    have here : key ≠ known := different
    simp [getValue?, container?, get?, here]
  | cons first path =>
    have here : first ≠ known := different
    simp [getValue?, container?, get?, here]

/-! ## Setting -/

/-- Put a value under a key, in its place or at the end. -/
def set : NestedDict κ ν → κ → ν → NestedDict κ ν
  | empty, wanted, stored => value wanted stored empty
  | value key old rest, wanted, stored =>
    if wanted = key then value key stored rest
    else value key old (rest.set wanted stored)
  | dict key inner rest, wanted, stored =>
    if wanted = key then value key stored rest
    else dict key inner (rest.set wanted stored)

/-- Put a dictionary under a key, in its place or at the end. -/
def setDict :
    NestedDict κ ν → κ → NestedDict κ ν → NestedDict κ ν
  | empty, wanted, inserted => dict wanted inserted empty
  | value key old rest, wanted, inserted =>
    if wanted = key then dict key inserted rest
    else value key old (rest.setDict wanted inserted)
  | dict key inner rest, wanted, inserted =>
    if wanted = key then dict key inserted rest
    else dict key inner (rest.setDict wanted inserted)

/-- Change the dictionary under a key. -/
def mapDict (wanted : κ) (change : NestedDict κ ν → NestedDict κ ν) :
    NestedDict κ ν → NestedDict κ ν
  | empty => empty
  | value key stored rest =>
    if wanted = key then value key stored rest
    else value key stored (rest.mapDict wanted change)
  | dict key inner rest =>
    if wanted = key then dict key (change inner) rest
    else dict key inner (rest.mapDict wanted change)

/-- Change the dictionary at a path. -/
def modifyAt :
    List κ → (NestedDict κ ν → NestedDict κ ν) → NestedDict κ ν → NestedDict κ ν
  | [], change, whole => change whole
  | key :: path, change, whole => whole.mapDict key (modifyAt path change)

/-- Put a value under a key of the dictionary at a path. -/
def setAt (whole : NestedDict κ ν) (path : List κ) (key : κ)
    (stored : ν) : NestedDict κ ν :=
  modifyAt path (fun container => container.set key stored) whole

/-- Setting below another key goes past a value. -/
theorem setAt_value_of_ne (different : path.headD key ≠ known)
    (stored inserted : ν) (rest : NestedDict κ ν) :
    (value known stored rest).setAt path key inserted =
      value known stored (rest.setAt path key inserted) := by
  cases path with
  | nil => exact if_neg different
  | cons first path => exact if_neg different

/-- Setting below another key goes past a dictionary. -/
theorem setAt_dict_of_ne (different : path.headD key ≠ known) (inserted : ν)
    (inner rest : NestedDict κ ν) :
    (dict known inner rest).setAt path key inserted =
      dict known inner (rest.setAt path key inserted) := by
  cases path with
  | nil => exact if_neg different
  | cons first path => exact if_neg different

/-! ## Two dictionaries in one -/

theorem set_append (found : whole.get? key = some entry)
    (others : NestedDict κ ν) (stored : ν) :
    (whole.append others).set key stored =
      (whole.set key stored).append others := by
  induction whole with
  | empty => cases found
  | value first other rest ih =>
    simp only [get?, append, set] at found ⊢
    split at found
    · next same => simp [same, append]
    · next different => simp [different, append, ih found]
  | dict first inner rest _ ih =>
    simp only [get?, append, set] at found ⊢
    split at found
    · next same => simp [same, append]
    · next different => simp [different, append, ih found]

theorem mapDict_append (found : whole.get? key = some entry)
    (others : NestedDict κ ν) (change : NestedDict κ ν → NestedDict κ ν) :
    (whole.append others).mapDict key change =
      (whole.mapDict key change).append others := by
  induction whole with
  | empty => cases found
  | value first other rest ih =>
    simp only [get?, append, mapDict] at found ⊢
    split at found
    · next same => simp [same, append]
    · next different => simp [different, append, ih found]
  | dict first inner rest _ ih =>
    simp only [get?, append, mapDict] at found ⊢
    split at found
    · next same => simp [same, append]
    · next different => simp [different, append, ih found]

theorem setAt_append {old : ν} (found : whole.getValue? path key = some old)
    (others : NestedDict κ ν) (stored : ν) :
    (whole.append others).setAt path key stored =
      (whole.setAt path key stored).append others := by
  cases path with
  | nil => exact set_append (getValue?_nil_eq_some_iff.mp found) others stored
  | cons first path =>
    obtain ⟨inner, under, _⟩ := getValue?_cons_eq_some_iff.mp found
    exact mapDict_append under others _

/-! ## Dictionaries of alike values -/

/-- The same keys in the same order, with alike values. -/
inductive Alike (same : ν → ν → Prop) :
    NestedDict κ ν → NestedDict κ ν → Prop
  | empty : Alike same empty empty
  | value {key : κ} {first second : ν} {rest others : NestedDict κ ν} :
      same first second → Alike same rest others →
        Alike same (value key first rest) (value key second others)
  | dict {key : κ} {inner other rest others : NestedDict κ ν} :
      Alike same inner other → Alike same rest others →
        Alike same (dict key inner rest) (dict key other others)

namespace Alike

variable {same : ν → ν → Prop} {left right : NestedDict κ ν}

omit [DecidableEq κ] in
theorem refl (reflexive : ∀ stored, same stored stored)
    (whole : NestedDict κ ν) : Alike same whole whole := by
  induction whole with
  | empty => exact .empty
  | value key stored rest ih => exact .value (reflexive stored) ih
  | dict key inner rest innerHypothesis ih => exact .dict innerHypothesis ih

theorem get?_cases (alike : Alike same left right) (key : κ) :
    (left.get? key = none ∧ right.get? key = none) ∨
      (∃ first second, left.get? key = some (.inl first) ∧
        right.get? key = some (.inl second) ∧ same first second) ∨
      ∃ inner other, left.get? key = some (.inr inner) ∧
        right.get? key = some (.inr other) ∧ Alike same inner other := by
  induction alike with
  | empty => exact .inl ⟨rfl, rfl⟩
  | value related _ ih =>
    simp only [get?]
    split
    · exact .inr (.inl ⟨_, _, rfl, rfl, related⟩)
    · exact ih
  | dict related _ _ ih =>
    simp only [get?]
    split
    · exact .inr (.inr ⟨_, _, rfl, rfl, related⟩)
    · exact ih

theorem container?_cases (alike : Alike same left right) (path : List κ) :
    (left.container? path = none ∧ right.container? path = none) ∨
      ∃ inner other, left.container? path = some inner ∧
        right.container? path = some other ∧ Alike same inner other := by
  induction path generalizing left right with
  | nil => exact .inr ⟨left, right, rfl, rfl, alike⟩
  | cons key path ih =>
    simp only [NestedDict.container?]
    rcases alike.get?_cases key with ⟨absent, missing⟩ |
      ⟨_, _, here, there, _⟩ | ⟨inner, other, here, there, related⟩
    · rw [absent, missing]
      exact .inl ⟨rfl, rfl⟩
    · rw [here, there]
      exact .inl ⟨rfl, rfl⟩
    · rw [here, there]
      exact ih related

theorem set (alike : Alike same left right) {first second : ν}
    (related : same first second)
    (key : κ) : Alike same (left.set key first) (right.set key second) := by
  induction alike with
  | empty => exact .value related .empty
  | value kept rest ih =>
    simp only [NestedDict.set]
    split
    · exact .value related rest
    · exact .value kept ih
  | dict kept rest _ ih =>
    simp only [NestedDict.set]
    split
    · exact .value related rest
    · exact .dict kept ih

theorem mapDict (alike : Alike same left right)
    {change other : NestedDict κ ν → NestedDict κ ν}
    (changes : ∀ inner others, Alike same inner others →
      Alike same (change inner) (other others))
    (key : κ) :
    Alike same (left.mapDict key change) (right.mapDict key other) := by
  induction alike with
  | empty => exact .empty
  | value kept rest ih =>
    simp only [NestedDict.mapDict]
    split
    · exact .value kept rest
    · exact .value kept ih
  | dict kept rest _ ih =>
    simp only [NestedDict.mapDict]
    split
    · exact .dict (changes _ _ kept) rest
    · exact .dict kept ih

theorem setAt (alike : Alike same left right) {first second : ν}
    (related : same first second) (path : List κ) (key : κ) :
    Alike same (left.setAt path key first) (right.setAt path key second) := by
  induction path generalizing left right with
  | nil => exact alike.set related key
  | cons outer path ih => exact alike.mapDict (fun _ _ inner => ih inner) outer

end Alike

end NestedDict
