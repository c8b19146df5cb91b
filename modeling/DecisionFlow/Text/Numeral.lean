import DecisionFlow.Decimal.Nearest
import DecisionFlow.Decimal.Shortest

/-!
# Numerals

The forms of numbers that formats of text have in common.

- `Text.digitsIn?`: digits in a base.
- `Text.whole?`, `Text.whole64?`: decimal digits, which may have a sign; of any size, and of 64
  bits.
- `Text.decimal?`: decimal digits with an optional point and an optional exponent.
- `Text.float?`: the float nearest to a decimal that may have a sign, or an infinity or not-a-number
  by its name.
-/

namespace DecisionFlow.Text

/-- The value of a digit or letter, counting letters on from nine. -/
def digit? (c : Char) : Option Nat :=
  if '0' ≤ c ∧ c ≤ '9' then some (c.toNat - '0'.toNat)
  else if 'a' ≤ c ∧ c ≤ 'z' then some (c.toNat - 'a'.toNat + 10)
  else if 'A' ≤ c ∧ c ≤ 'Z' then some (c.toNat - 'A'.toNat + 10)
  else none

/-- The value of digits in a base; none if there is none or one of them is no digit. -/
def digitsIn? (base : Nat) (digits : List Char) : Option Nat :=
  if digits.isEmpty then none
  else digits.foldlM (fun n c => ((digit? c).filter (· < base)).map (base * n + ·)) 0

/-- The sign in front of a numeral, whether it is a minus, and what follows it. -/
def splitSign : List Char → Bool × List Char
  | '-' :: rest => (true, rest)
  | '+' :: rest => (false, rest)
  | chars => (false, chars)

/-- The whole number that decimal digits, which may have a sign, stand for. -/
def whole? (chars : List Char) : Option Int :=
  let (negative, digits) := splitSign chars
  (digitsIn? 10 digits).map fun n => if negative then -(n : Int) else n

/-- Whether a whole number fits into 64 bits together with its sign. -/
def fits64 (n : Int) : Bool := -0x8000000000000000 ≤ n && n < 0x8000000000000000

/-- The whole number of 64 bits in the digits of a base, which may have a sign. -/
def whole64In? (base : Nat) (chars : List Char) : Option Int :=
  let (negative, digits) := splitSign chars
  ((digitsIn? base digits).map fun n => if negative then -(n : Int) else n).filter fits64

/-- The whole number of 64 bits that decimal digits, which may have a sign, stand for. -/
def whole64? (chars : List Char) : Option Int := whole64In? 10 chars

/-- The decimal that the characters are a form of: digits with an optional point, and an optional
exponent. -/
def decimal? (chars : List Char) : Option Decimal := do
  let wholePart := chars.takeWhile Char.isDigit
  let rest := chars.dropWhile Char.isDigit
  let (fraction, rest) := match rest with
    | '.' :: rest => (rest.takeWhile Char.isDigit, rest.dropWhile Char.isDigit)
    | _ => ([], rest)
  let coefficient ← digitsIn? 10 (wholePart ++ fraction)
  let exponent ← match rest with
    | [] => some 0
    | c :: rest => if c == 'e' || c == 'E' then whole? rest else none
  return ⟨coefficient, exponent - fraction.length⟩

/-- The float that the characters are a form of: the one nearest to a decimal, infinity if it is
beyond all floats, or an infinity or not-a-number by its name. -/
def float? (chars : List Char) : Option Float :=
  let (negative, size) := splitSign chars
  let name := String.ofList (size.map Char.toLower)
  let size? :=
    if name == "inf" || name == "infinity" then some (1.0 / 0.0)
    else if name == "nan" then some (0.0 / 0.0)
    else (decimal? size).map fun d => (Decimal.nearest? d.coefficient d.exponent).getD (1.0 / 0.0)
  if negative then size?.map (-·) else size?

end DecisionFlow.Text
