import SmarTune.Balancer.Apply
import Mathlib.Data.List.DropRight

/-!
# Names as they are compared

Names are compared without regard to case, after blanks are trimmed off their
ends, and by the last component of a path.
-/

namespace SmarTune

/-! ## Case and blanks -/

/-- Only letters change their case. -/
theorem toLower_eq_iff {char other : Char} (plain : other.isAlpha = false) :
    char.toLower = other ↔ char = other := by
  delta Char.isAlpha Char.isUpper Char.isLower at plain
  simp only [Bool.or_eq_false_iff, Bool.and_eq_false_imp, decide_eq_true_eq, decide_eq_false_iff_not,
    not_and, ge_iff_le, UInt32.le_iff_toNat_le] at plain
  delta Char.toLower
  split
  · next capital =>
      simp only [ge_iff_le, UInt32.le_iff_toNat_le] at capital
      have shifted : (char.val + ('a'.val - 'A'.val)).toNat =
          char.val.toNat + 32 := by
        rw [UInt32.toNat_add]
        refine Nat.mod_eq_of_lt ?_
        simp only [Char.reduceVal, UInt32.reduceSub,
          UInt32.reduceToNat] at capital ⊢
        omega
      constructor
      · rintro rfl
        have above : 97 ≤ (char.val + ('a'.val - 'A'.val)).toNat →
            ¬ (char.val + ('a'.val - 'A'.val)).toNat ≤ 122 := plain.2
        rw [shifted] at above
        simp only [Char.reduceVal, UInt32.reduceToNat] at capital
        omega
      · rintro rfl
        simp only [Char.reduceVal, UInt32.reduceToNat] at plain capital
        omega
  · rfl

theorem toLower_toLower (char : Char) :
    char.toLower.toLower = char.toLower := by
  delta Char.toLower
  grind

@[simp] theorem isWhitespace_toLower (char : Char) :
    char.toLower.isWhitespace = char.isWhitespace := by
  simp only [Char.isWhitespace]
  rw [decide_eq_decide.mpr (toLower_eq_iff (by decide : ' '.isAlpha = false)),
    decide_eq_decide.mpr (toLower_eq_iff (by decide : '\t'.isAlpha = false)),
    decide_eq_decide.mpr (toLower_eq_iff (by decide : '\r'.isAlpha = false)),
    decide_eq_decide.mpr (toLower_eq_iff (by decide : '\n'.isAlpha = false))]

@[simp] theorem toList_lowerCase (text : String) :
    (lowerCase text).toList = text.toList.map Char.toLower :=
  String.toList_ofList

@[simp] theorem lowerCase_lowerCase (text : String) :
    lowerCase (lowerCase text) = lowerCase text := by
  rw [← String.toList_inj]
  simp [Function.comp_def, toLower_toLower]

theorem toList_strip (text : String) :
    (strip text).toList = (text.toList.dropWhile Char.isWhitespace).rdropWhile
        Char.isWhitespace :=
  String.toList_ofList

theorem strip_lowerCase (text : String) :
    strip (lowerCase text) = lowerCase (strip text) := by
  have same : Char.isWhitespace ∘ Char.toLower = Char.isWhitespace :=
    funext isWhitespace_toLower
  rw [← String.toList_inj, toList_strip, toList_lowerCase, toList_lowerCase,
    toList_strip, List.dropWhile_map, same]
  simp only [List.rdropWhile, ← List.map_reverse, List.dropWhile_map, same]

/-- A name that is lowered like its trimmed self has no blank at an end. -/
theorem strip_eq_of_lowerCase_eq {text : String}
    (same : lowerCase text = lowerCase (strip text)) : strip text = text := by
  have lengths := congrArg (fun name : String => name.toList.length) same
  simp only [toList_lowerCase, List.length_map] at lengths
  rw [← String.toList_inj]
  refine List.Sublist.eq_of_length ?_ lengths.symm
  rw [toList_strip]
  exact ((List.rdropWhile_prefix _ _).sublist).trans (List.dropWhile_sublist _)

/-! ## Last components -/

theorem toList_basename (path : String) :
    (basename path).toList = path.toList.rtakeWhile (· ≠ '/') :=
  String.toList_ofList

theorem basename_eq_self {path : String}
    (single : '/' ∉ path.toList) : basename path = path := by
  rw [← String.toList_inj, toList_basename]
  exact List.rtakeWhile_eq_self_iff.mpr fun char member =>
    decide_eq_true fun slash => single (slash ▸ member)

/-- A path is its last component, or ends in a slash before it. -/
theorem path_cases (path : String) :
    path.toList = (basename path).toList ∨
      ∃ front, path.toList = front ++ '/' :: (basename path).toList := by
  have whole : path.toList.rdropWhile (· ≠ '/') ++
      path.toList.rtakeWhile (· ≠ '/') = path.toList :=
    List.rdropWhile_append_rtakeWhile
  rw [← toList_basename] at whole
  rcases List.eq_nil_or_concat (path.toList.rdropWhile (· ≠ '/')) with
    none | ⟨front, last, split⟩
  · rw [none, List.nil_append] at whole
    exact .inl whole.symm
  · have slash : last = '/' := by
      have ends := List.rdropWhile_last_not (· ≠ '/') path.toList
      simp only [split] at ends
      simpa using ends (by simp)
    refine .inr ⟨front, ?_⟩
    rw [← whole, split, slash]
    simp

theorem slash_notMem_basename (path : String) :
    '/' ∉ (basename path).toList := by
  rw [toList_basename]
  intro member
  simpa using List.mem_rtakeWhile_imp member

theorem toList_basename_of_append {path : String} {front base : List Char}
    (split : path.toList = front ++ '/' :: base)
    (single : '/' ∉ base) : (basename path).toList = base := by
  have plain : ∀ char ∈ base.reverse, decide (char ≠ '/') = true := by
    intro char member
    refine decide_eq_true fun slash => single ?_
    rw [← slash]
    exact List.mem_reverse.mp member
  rw [toList_basename, split, List.rtakeWhile, List.reverse_append,
    List.reverse_cons, List.append_assoc,
    List.takeWhile_append_of_pos plain]
  simp

/-- Nothing is dropped before a tail that keeps its own end. -/
theorem rdropWhile_append_cons {α : Type*} {stops : α → Bool} {stop : α}
    {base : List α} (front : List α) (kept : ¬ stops stop)
    (ends : base.rdropWhile stops = base) :
    (front ++ stop :: base).rdropWhile stops = front ++ stop :: base := by
  rcases List.eq_nil_or_concat base with rfl | ⟨rest, last, rfl⟩
  · exact List.rdropWhile_concat_neg _ _ _ kept
  · have final : ¬ stops last := by
      have last_kept := List.rdropWhile_eq_self_iff.mp ends
      simpa using last_kept (by simp)
    have apart : front ++ stop :: (rest ++ [last]) =
        (front ++ stop :: rest) ++ [last] := by simp
    rw [List.concat_eq_append, apart]
    exact List.rdropWhile_concat_neg _ _ _ final

/-- Trimming a path leaves a last component that needs no trimming. -/
theorem basename_strip {path : String}
    (trimmed : strip (basename path) = basename path) :
    basename (strip path) = basename path := by
  rcases path_cases path with single | ⟨front, split⟩
  · have self : basename path = path := String.toList_inj.mp single.symm
    rw [self] at trimmed
    rw [trimmed]
  · have ends : (basename path).toList.rdropWhile Char.isWhitespace =
        (basename path).toList := by
      rw [← trimmed, toList_strip, List.rdropWhile_idempotent]
    have front_kept : (front ++ '/' :: (basename path).toList).dropWhile
        Char.isWhitespace =
        front.dropWhile Char.isWhitespace ++ '/' :: (basename path).toList := by
      rw [List.dropWhile_append]
      split
      · next empty =>
          rw [List.isEmpty_iff.mp empty]
          exact List.dropWhile_cons_of_neg (by decide)
      · rfl
    rw [← String.toList_inj]
    have stripped : (strip path).toList = front.dropWhile Char.isWhitespace ++
          '/' :: (basename path).toList := by
      rw [toList_strip, split, front_kept]
      exact rdropWhile_append_cons _ (by decide) ends
    exact toList_basename_of_append stripped (slash_notMem_basename path)

end SmarTune
