import Mathlib.Data.List.Basic

/-!
# The committed versions of a value

A value is replaced by committed writes, each numbered by a counter that is
moved before the commit.  A copy taken under a reading of the counter reflects
the writes counted in it if every write committed after the copied version has
a greater number.
-/

namespace Versions

variable {Value : Type*}

/-- The versions of a value, oldest first, each with its number. -/
abbrev History (Value : Type*) := List (ℕ × Value)

/-- The version that is there. -/
def latest (history : History Value) : Option Value :=
  history.getLast?.map Prod.snd

/-- The copy is a version after which no write counted in the reading was
committed. -/
def Reflects (history : History Value) (reading : ℕ) (copy : Value) : Prop :=
  ∃ earlier later, history = earlier ++ later ∧ latest earlier = some copy ∧
    ∀ version ∈ later, reading < version.1

@[simp] theorem latest_append (history : History Value) (number : ℕ)
    (value : Value) :
    latest (history ++ [(number, value)]) = some value := by
  simp [latest]

variable {history : History Value} {reading : ℕ} {copy : Value}

/-- The version that is there reflects every write. -/
theorem reflects_latest {value : Value} (here : latest history = some value)
    (reading : ℕ) :
    Reflects history reading value :=
  ⟨history, [], by simp, here, by simp⟩

/-- A write that the reading does not count leaves a copy as it was. -/
theorem Reflects.append {number : ℕ} (reflects : Reflects history reading copy)
    (uncounted : reading < number) (value : Value) :
    Reflects (history ++ [(number, value)]) reading copy := by
  obtain ⟨earlier, later, split, copied, newer⟩ := reflects
  refine ⟨earlier, later ++ [(number, value)], by simp [split], copied, ?_⟩
  intro version member
  rcases List.mem_append.mp member with before | last
  · exact newer version before
  · rw [List.mem_singleton.mp last]
    exact uncounted

theorem Reflects.latest_eq (reflects : Reflects history reading copy)
    (counted : ∀ version ∈ history, version.1 ≤ reading) :
    latest history = some copy := by
  obtain ⟨earlier, later, split, copied, newer⟩ := reflects
  cases later with
  | nil => simpa [split] using copied
  | cons version later =>
    have old := counted version (by simp [split])
    have new := newer version (by simp)
    omega

end Versions
