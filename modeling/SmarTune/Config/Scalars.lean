import SmarTune.Balancer.Registry
import Mathlib.Data.Int.Log
import Mathlib.Data.List.DropRight

/-!
# Scalars of the configuration

The values of single settings as Python holds them, the conversions that the
setters apply to what they are given, and the text that is written for a value.
-/

namespace SmarTune

/-- A value of a single setting. -/
inductive Scalar
  | null
  | bool (value : Bool)
  | int (value : ℤ)
  | float (value : ℚ)
  | text (value : String)
  deriving DecidableEq

namespace Scalar

/-- What Python compares two scalars by: numbers of any type by their value. -/
def norm : Scalar → Option (ℚ ⊕ String)
  | null => none
  | bool value => some (.inl (if value then 1 else 0))
  | int value => some (.inl value)
  | float value => some (.inl value)
  | text value => some (.inr value)

/-- Python's `==`. -/
def Same (first second : Scalar) : Prop := first.norm = second.norm

instance : DecidableRel Same := fun first second =>
  inferInstanceAs (Decidable (first.norm = second.norm))

/-! ## Conversions -/

/-- The number of the digits at the front, how many they are, and what is
left. -/
def readDigits : List Char → ℕ → ℕ → ℕ × ℕ × List Char
  | [], number, count => (number, count, [])
  | char :: chars, number, count =>
    if char.isDigit then
      readDigits chars (10 * number + (char.toNat - '0'.toNat)) (count + 1)
    else (number, count, char :: chars)

/-- A sign and what is left. -/
def readSign : List Char → ℤ × List Char
  | '-' :: chars => (-1, chars)
  | '+' :: chars => (1, chars)
  | chars => (1, chars)

/-- The exponent of a numeral. -/
def readExponent : List Char → Option ℤ
  | [] => some 0
  | mark :: chars =>
    let (sign, chars) := readSign chars
    match readDigits chars 0 0 with
    | (number, count, rest) =>
      if (mark = 'e' ∨ mark = 'E') ∧ 0 < count ∧ rest = [] then
        some (sign * number)
      else none

/-- The fraction of a numeral: its digits, how many they are, and what is
left. -/
def readFraction : List Char → ℕ × ℕ × List Char
  | '.' :: chars => readDigits chars 0 0
  | chars => (0, 0, chars)

/-- Python's `float` on a decimal numeral. -/
def parseFloat (numeral : String) : Option ℚ :=
  let (sign, chars) := readSign (strip numeral).toList
  match readDigits chars 0 0 with
  | (whole, count, rest) =>
    match readFraction rest with
    | (fraction, places, rest) =>
      if count + places = 0 then none
      else (readExponent rest).map fun exponent =>
        sign * (whole + fraction / 10 ^ places) * (10 : ℚ) ^ exponent

/-- Python's `int` on a decimal numeral. -/
def parseInt (numeral : String) : Option ℤ :=
  let (sign, chars) := readSign (strip numeral).toList
  match readDigits chars 0 0 with
  | (number, count, rest) =>
    if 0 < count ∧ rest = [] then some (sign * number) else none

/-- Python's `bool`. -/
def toBool : Scalar → Bool
  | null => false
  | bool value => value
  | int value => value ≠ 0
  | float value => value ≠ 0
  | text value => value ≠ ""

/-- Python's `float`, `none` where it raises. -/
def toFloat? : Scalar → Option ℚ
  | null => none
  | bool value => some (if value then 1 else 0)
  | int value => some value
  | float value => some value
  | text value => parseFloat value

/-- Python's `int`, `none` where it raises. -/
def toInt? : Scalar → Option ℤ
  | null => none
  | bool value => some (if value then 1 else 0)
  | int value => some value
  | float value => some (pyInt value)
  | text value => parseInt value

/-! ## The text of a value -/

/-- The digits before and after a point that is left out before none. -/
def pointed (whole fraction : List Char) : List Char :=
  match fraction.rdropWhile (· = '0') with
  | [] => whole
  | digits => whole ++ '.' :: digits

/-- The significant digits of a positive number and its decimal exponent; ties
go to the even digit. -/
def significant (places : ℕ) (value : ℚ) : ℕ × ℤ :=
  let exponent := Int.log 10 value
  let scaled := value * (10 : ℚ) ^ (places - 1 - exponent)
  let below := ⌊scaled⌋.toNat
  let rest := scaled - below
  let digits :=
    if rest < 1 / 2 ∨ (rest = 1 / 2 ∧ below % 2 = 0) then below
    else below + 1
  if digits = 10 ^ places then (10 ^ (places - 1), exponent + 1)
  else (digits, exponent)

/-- The text of a positive number with at most so many significant digits, and
with an exponent from a limit on. -/
def formatPositive (places : ℕ) (limit : ℤ) (value : ℚ) : List Char :=
  let (number, exponent) := significant places value
  let digits := (toString number).toList
  if exponent < -4 ∨ limit ≤ exponent then
    let size := (toString exponent.natAbs).toList
    pointed (digits.take 1) (digits.drop 1) ++ 'e' ::
      (if exponent < 0 then '-' else '+') ::
        (if size.length < 2 then '0' :: size else size)
  else if exponent < 0 then
    pointed ['0'] (List.replicate (exponent.natAbs - 1) '0' ++ digits)
  else
    pointed (digits.take (exponent.toNat + 1))
      (digits.drop (exponent.toNat + 1))

/-- The text of a number, of which a positive one has the given text. -/
def formatSigned (format : ℚ → List Char) (value : ℚ) : List Char :=
  if value = 0 then ['0']
  else if value < 0 then '-' :: format (-value)
  else format value

/-- Python's `str`. -/
def str : Scalar → String
  | null => "None"
  | bool value => if value then "True" else "False"
  | int value => toString value
  | float value =>
    let digits := formatSigned (formatPositive 17 16) value
    String.ofList
      (if '.' ∈ digits ∨ 'e' ∈ digits then digits else digits ++ ['.', '0'])
  | text value => value

/-- `_format_yaml_scalar`. -/
def formatYamlScalar : Scalar → List Char
  | bool value => if value then "true".toList else "false".toList
  | int value => (toString value).toList
  | float value => formatSigned (formatPositive 6 6) value
  | value => value.str.toList

example :
    formatYamlScalar (.float (1234567 / 10000000)) = "0.123457".toList := by
  decide +kernel

end Scalar

end SmarTune
