import Mathlib.Data.List.Basic

/-!
# Whitespace and decimal digits

The characters that count as whitespace and as decimal digits in Unicode 15,
and the numbers that lists of digits spell.  Every script has ten digits in a
row, so a digit is known by the zero of its script.
-/

namespace UnicodeText

/-- The whitespace characters. -/
def spaces : List Nat :=
  [0x0009, 0x000A, 0x000B, 0x000C, 0x000D, 0x001C, 0x001D, 0x001E, 0x001F,
    0x0020, 0x0085, 0x00A0, 0x1680, 0x2000, 0x2001, 0x2002, 0x2003, 0x2004,
    0x2005, 0x2006, 0x2007, 0x2008, 0x2009, 0x200A, 0x2028, 0x2029, 0x202F,
    0x205F, 0x3000]

/-- A whitespace character. -/
def isSpace (character : Char) : Bool := spaces.contains character.toNat

/-- The zeros of the decimal digits. -/
def zeros : List Nat :=
  [0x0030, 0x0660, 0x06F0, 0x07C0, 0x0966, 0x09E6, 0x0A66, 0x0AE6, 0x0B66,
    0x0BE6, 0x0C66, 0x0CE6, 0x0D66, 0x0DE6, 0x0E50, 0x0ED0, 0x0F20, 0x1040,
    0x1090, 0x17E0, 0x1810, 0x1946, 0x19D0, 0x1A80, 0x1A90, 0x1B50, 0x1BB0,
    0x1C40, 0x1C50, 0xA620, 0xA8D0, 0xA900, 0xA9D0, 0xA9F0, 0xAA50, 0xABF0,
    0xFF10, 0x104A0, 0x10D30, 0x11066, 0x110F0, 0x11136, 0x111D0, 0x112F0,
    0x11450, 0x114D0, 0x11650, 0x116C0, 0x11730, 0x118E0, 0x11950, 0x11C50,
    0x11D50, 0x11DA0, 0x11F50, 0x16A60, 0x16AC0, 0x16B50, 0x1D7CE, 0x1D7D8,
    0x1D7E2, 0x1D7EC, 0x1D7F6, 0x1E140, 0x1E2F0, 0x1E4F0, 0x1E950, 0x1FBF0]

/-- The zero of the script a digit belongs to. -/
def zeroOf (character : Char) : Option Nat :=
  zeros.find? fun base => base ≤ character.toNat && character.toNat < base + 10

/-- A decimal digit. -/
def isDecimal (character : Char) : Bool := (zeroOf character).isSome

/-- The value of a decimal digit. -/
def decimal (character : Char) : Nat :=
  character.toNat - (zeroOf character).getD 0

/-- The number that digits spell. -/
def numeral (digits : List Char) : Nat :=
  digits.foldl (fun value digit => 10 * value + decimal digit) 0

variable {character : Char} {digits : List Char}

theorem zeroOf_of_isDigit (digit : character.isDigit = true) :
    zeroOf character = some 0x30 := by
  have bounds : 0x30 ≤ character.toNat ∧ character.toNat < 0x30 + 10 := by
    delta Char.isDigit at digit
    simp only [Bool.and_eq_true, decide_eq_true_eq, ge_iff_le,
      UInt32.le_iff_toNat_le] at digit
    exact ⟨digit.1, Nat.lt_succ_of_le digit.2⟩
  rw [zeroOf, zeros, List.find?_cons_of_pos]
  simp [bounds]

theorem isDecimal_of_isDigit (digit : character.isDigit = true) :
    isDecimal character = true := by
  rw [isDecimal, zeroOf_of_isDigit digit]
  rfl

theorem numeral_eq_ofDigitChars
    (ascii : ∀ digit ∈ digits, digit.isDigit = true) :
    numeral digits = Nat.ofDigitChars 10 digits 0 := by
  rw [numeral, Nat.ofDigitChars_eq_foldl]
  apply List.foldl_ext
  intro value digit member
  rw [decimal, zeroOf_of_isDigit (ascii digit member)]
  rfl

/-- A printed number reads back. -/
theorem numeral_toDigits (number : Nat) :
    numeral (Nat.toDigits 10 number) = number := by
  rw [numeral_eq_ofDigitChars fun _ member =>
    Nat.isDigit_of_mem_toDigits (by decide) (by decide) member]
  exact Nat.ofDigitChars_toDigits (by decide) (by decide)

/-- A leading zero does not change a number. -/
theorem numeral_zero_cons (digits : List Char) :
    numeral ('0' :: digits) = numeral digits := by
  rfl

theorem isDecimal_of_mem_toDigits {number : Nat}
    (member : character ∈ Nat.toDigits 10 number) :
    isDecimal character = true :=
  isDecimal_of_isDigit
    (Nat.isDigit_of_mem_toDigits (by decide) (by decide) member)

theorem not_isSpace_of_isDecimal (digit : isDecimal character = true) :
    isSpace character = false := by
  have apart : ∀ space ∈ spaces, ∀ base ∈ zeros,
      ¬ (base ≤ space ∧ space < base + 10) := by decide
  obtain ⟨base, found⟩ := Option.isSome_iff_exists.mp digit
  have bounds := List.find?_some found
  simp only [Bool.and_eq_true, decide_eq_true_eq] at bounds
  rw [Bool.eq_false_iff]
  intro space
  exact apart _ (List.contains_iff_mem.mp space) base
    (List.mem_of_find?_eq_some found) bounds

theorem takeWhile_digits_append {rest : List Char}
    (decimal : ∀ digit ∈ digits, isDecimal digit = true)
    (stops : ∀ character ∈ rest.head?, isDecimal character = false) :
    (digits ++ rest).takeWhile isDecimal = digits ∧
      (digits ++ rest).dropWhile isDecimal = rest := by
  rw [List.takeWhile_append_of_pos decimal, List.dropWhile_append_of_pos decimal]
  cases rest with
  | nil => simp
  | cons character rest =>
    have stop := stops character rfl
    simp [stop]

end UnicodeText
