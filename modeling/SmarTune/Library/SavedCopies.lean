import Mathlib.Data.List.Basic

/-!
# Saved copies

Several holders save what they find at some keys of a store before they change
it, and write it back when they leave.  Their copies may overlap, so that a
younger copy may hold what an older holder wrote.  The oldest copy of a key, or
its value when there is no copy, is the original value, as long as a holder
that leaves before a younger one leaves an older copy behind.
-/

namespace SavedCopies

variable {κ ν : Type*}

def oldest (copies : List (κ → Option ν)) (key : κ) : Option ν :=
  copies.findSome? fun copy => copy key

/-- The value a key had before it was first saved. -/
def original (copies : List (κ → Option ν)) (store : κ → ν) (key : κ) : ν :=
  (oldest copies key).getD (store key)

@[simp] theorem original_nil (store : κ → ν) : original [] store = store := rfl

theorem oldest_append (first second : List (κ → Option ν)) (key : κ) :
    oldest (first ++ second) key =
      (oldest first key).or (oldest second key) := by
  rw [oldest, List.findSome?_append, oldest, oldest]

theorem oldest_cons (copy : κ → Option ν) (copies : List (κ → Option ν))
    (key : κ) :
    oldest (copy :: copies) key = (copy key).or (oldest copies key) := by
  cases found : copy key <;> simp [oldest, found]

theorem oldest_eq_none_iff (copies : List (κ → Option ν)) (key : κ) :
    oldest copies key = none ↔ ∀ copy ∈ copies, copy key = none :=
  List.findSome?_eq_none_iff

/-- A holder saves what it finds, and changes saved keys only. -/
def Saves (copy : κ → Option ν) (before after : κ → ν) : Prop :=
  ∀ key,
    match copy key with
    | none => after key = before key
    | some value => value = before key

theorem Saves.original_append {copy : κ → Option ν} {before after : κ → ν}
    (saves : Saves copy before after) (copies : List (κ → Option ν)) :
    original (copies ++ [copy]) after = original copies before := by
  funext key
  have own := saves key
  have single : oldest [copy] key = copy key := by
    rw [oldest_cons, oldest, List.findSome?_nil, Option.or_none]
  rw [original, oldest_append, original, single]
  cases oldest copies key with
  | some value => rfl
  | none =>
    cases saved : copy key with
    | none =>
      rw [saved] at own
      exact own
    | some value =>
      rw [saved] at own
      exact own

theorem original_leave {older younger : List (κ → Option ν)}
    {copy : κ → Option ν} {before after : κ → ν}
    (unsaved : ∀ key, copy key = none → after key = before key)
    (saved : ∀ key value, copy key = some value →
      (oldest older key).isSome ∨ oldest younger key = none ∧
        after key = value) :
    original (older ++ younger) after =
      original (older ++ copy :: younger) before := by
  funext key
  simp only [original, oldest_append, oldest_cons]
  cases first : oldest older key with
  | some value => rfl
  | none =>
    cases own : copy key with
    | none =>
      rw [unsaved key own]
      rfl
    | some value =>
      rcases saved key value own with found | ⟨alone, restored⟩
      · rw [first] at found
        cases found
      · rw [alone, restored]
        rfl

end SavedCopies
