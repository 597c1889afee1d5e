import Mathlib.Data.Char
import Mathlib.Data.List.Lex
import Mathlib.Order.Fin.Basic
import Mathlib.Tactic.IntervalCases

/-!
# Texts of fixed width

Two texts of one width are compared before anything that follows them.  Numbers
written with the same number of digits are ordered as the numbers, and so is a
text put together from such parts, the most significant one first.
-/

namespace FixedWidth

/-! ## Comparing what begins alike -/

section Append

variable {α : Type*} [LinearOrder α]

theorem append_lt_append_iff {first second : List α}
    (sameLength : first.length = second.length) (rest tail : List α) :
    first ++ rest < second ++ tail ↔
      first < second ∨ first = second ∧ rest < tail := by
  induction first generalizing second with
  | nil =>
    cases second with
    | nil => simp
    | cons head second => simp at sameLength
  | cons head first ih =>
    cases second with
    | nil => simp at sameLength
    | cons other second =>
      simp only [List.length_cons, Nat.add_right_cancel_iff] at sameLength
      simp only [List.cons_append, List.cons_lt_cons_iff,
        ih sameLength, List.cons.injEq]
      tauto

end Append

/-! ## Digits -/

/-- The last decimal digits of a number, the most significant first. -/
def digits : ℕ → ℕ → List Char
  | 0, _ => []
  | width + 1, number => digits width (number / 10) ++ [(number % 10).digitChar]

@[simp] theorem length_digits (width number : ℕ) :
    (digits width number).length = width := by
  induction width generalizing number with
  | zero => rfl
  | succ width ih => simp [digits, ih]

theorem digitChar_lt_digitChar_iff {first second : ℕ} (firstBelow : first < 10)
    (secondBelow : second < 10) :
    first.digitChar < second.digitChar ↔ first < second := by
  have table : ∀ first second : Fin 10,
      first.val.digitChar < second.val.digitChar ↔ first.val < second.val := by
    decide
  exact table ⟨first, firstBelow⟩ ⟨second, secondBelow⟩

theorem digits_lt_digits_iff {width first second : ℕ}
    (firstFits : first < 10 ^ width) (secondFits : second < 10 ^ width) :
    digits width first < digits width second ↔ first < second := by
  induction width generalizing first second with
  | zero =>
    have firstZero : first = 0 := by simpa using firstFits
    have secondZero : second = 0 := by simpa using secondFits
    simp [firstZero, secondZero]
  | succ width ih =>
    have firstPrefix : first / 10 < 10 ^ width := by
      rw [Nat.pow_succ] at firstFits
      omega
    have secondPrefix : second / 10 < 10 ^ width := by
      rw [Nat.pow_succ] at secondFits
      omega
    have prefixes := ih firstPrefix secondPrefix
    have reversed := ih secondPrefix firstPrefix
    have lastDigits := digitChar_lt_digitChar_iff
      (Nat.mod_lt first (by omega)) (Nat.mod_lt second (by omega))
    rw [digits, digits, append_lt_append_iff (by simp), prefixes,
      List.cons_lt_cons_iff, lastDigits]
    simp only [List.not_lt_nil, and_false, or_false]
    constructor
    · rintro (earlier | ⟨same, earlier⟩)
      · omega
      · have quotients : first / 10 = second / 10 := by
          have notBelow := mt prefixes.mpr (same ▸ lt_irrefl _)
          have notAbove := mt reversed.mpr (same ▸ lt_irrefl _)
          omega
        omega
    · intro below
      rcases Nat.lt_or_ge (first / 10) (second / 10) with earlier | notEarlier
      · exact Or.inl earlier
      · have same : first / 10 = second / 10 := by omega
        exact Or.inr ⟨by rw [same], by omega⟩

/-! ## Texts that follow a number -/

/-- The texts have one width and are ordered as the numbers. -/
structure Tracks {α : Type*} (text : α → List Char) (value : α → ℕ) : Prop where
  length_eq : ∀ first second, (text first).length = (text second).length
  lt_iff : ∀ first second, text first < text second ↔ value first < value second

namespace Tracks

variable {α : Type*} {text tail : α → List Char} {value rest : α → ℕ}

theorem eq_iff (tracks : Tracks text value) (first second : α) :
    text first = text second ↔ value first = value second := by
  have below := tracks.lt_iff first second
  have above := tracks.lt_iff second first
  constructor
  · intro same
    rw [same] at below above
    have notBelow := mt below.mpr (lt_irrefl _)
    have notAbove := mt above.mpr (lt_irrefl _)
    omega
  · intro same
    have notBelow : ¬text first < text second :=
      mt below.mp (same ▸ lt_irrefl _)
    have notAbove : ¬text second < text first :=
      mt above.mp (same ▸ lt_irrefl _)
    exact le_antisymm (not_lt.mp notAbove) (not_lt.mp notBelow)

/-- Digits follow the number that they write. -/
theorem of_digits {width : ℕ} (fits : ∀ item, value item < 10 ^ width) :
    Tracks (fun item => digits width (value item)) value where
  length_eq first second := by simp
  lt_iff first second := digits_lt_digits_iff (fits first) (fits second)

/-- What follows a text is compared among equal numbers only. -/
theorem append_lt_iff (tracks : Tracks text value) (first second : α)
    (firstTail secondTail : List Char) :
    text first ++ firstTail < text second ++ secondTail ↔
      value first < value second ∨
        value first = value second ∧ firstTail < secondTail := by
  rw [append_lt_append_iff (tracks.length_eq first second), tracks.lt_iff,
    tracks.eq_iff]

theorem separator (tracks : Tracks text value) (mark : Char) :
    Tracks (fun item => text item ++ [mark]) value where
  length_eq first second := by simp [tracks.length_eq first second]
  lt_iff first second := by simp [tracks.append_lt_iff]

/-- A text is followed by a less significant one. -/
theorem append {base : ℕ} (tracks : Tracks text value)
    (lower : Tracks tail rest) (fits : ∀ item, rest item < base) :
    Tracks (fun item => text item ++ tail item)
      (fun item => value item * base + rest item) where
  length_eq first second := by
    simp [tracks.length_eq first second, lower.length_eq first second]
  lt_iff first second := by
    rw [tracks.append_lt_iff, lower.lt_iff]
    have firstFits := fits first
    have secondFits := fits second
    constructor
    · rintro (earlier | ⟨same, earlier⟩)
      · have step := Nat.mul_le_mul_right base (Nat.succ_le_iff.mpr earlier)
        rw [Nat.succ_mul] at step
        omega
      · rw [same]
        omega
    · intro below
      rcases lt_trichotomy (value first) (value second) with
        earlier | same | later
      · exact Or.inl earlier
      · rw [same] at below
        exact Or.inr ⟨same, by omega⟩
      · have step := Nat.mul_le_mul_right base (Nat.succ_le_iff.mpr later)
        rw [Nat.succ_mul] at step
        omega

theorem congr {other : α → ℕ} (tracks : Tracks text value)
    (sameOrder : ∀ first second,
      value first < value second ↔ other first < other second) :
    Tracks text other where
  length_eq := tracks.length_eq
  lt_iff first second := (tracks.lt_iff first second).trans
    (sameOrder first second)

end Tracks

end FixedWidth
