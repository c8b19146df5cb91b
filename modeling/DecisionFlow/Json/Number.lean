import DecisionFlow.Number

/-!
# Numbers in JSON text

A whole number that fits 64 bits is kept exactly. Any other number becomes a float: its first digits
as a whole number of 64 bits, scaled by a power of ten.

- `Json.readNumber`: reads a number without its minus sign.
- `Json.scaled?`: the scaling, which refuses numbers beyond the largest float.
-/

namespace DecisionFlow.Json

/-- Why a text is no JSON. -/
inductive SyntaxError where
  | unexpectedEnd
  | unexpectedCharacter (c : Char)
  /-- A control character stands in a string. -/
  | controlCharacter (c : Char)
  /-- A backslash begins no escape sequence. -/
  | badEscape
  /-- Half of a surrogate pair stands alone. -/
  | loneSurrogate
  | badNumber
  | numberTooLarge
  /-- Arrays and objects nest too deeply. -/
  | tooDeep
  /-- Something follows the value. -/
  | trailing
deriving DecidableEq, Repr

/-- A reader of a prefix of the characters, which yields what it read and the rest. -/
abbrev Reader (α : Type) := List Char → Except SyntaxError (α × List Char)

/-- The value of a decimal digit. -/
def digit? (c : Char) : Option Nat :=
  if '0' ≤ c ∧ c ≤ '9' then some (c.toNat - '0'.toNat) else none

/-- Whether a character is a decimal digit. -/
def isDigit (c : Char) : Bool := (digit? c).isSome

/-- The digits of a number so far: a coefficient below `2 ^ 64` and a power of ten. -/
structure Digits where
  coefficient : Nat
  exponent : Int
deriving DecidableEq, Repr

/-- The power of ten as a float, for exponents up to 308. -/
def powerOfTen (n : Nat) : Float := Float.ofScientific 1 false n

/-- Scales a float by a power of ten, dividing by `1e308` up to `fuel` times for very small
numbers. -/
def scaleBy? (x : Float) (exponent : Int) : Nat → Option Float
  | 0 => some x
  | fuel + 1 =>
    if exponent.natAbs ≤ 308 then
      if 0 ≤ exponent then
        let y := x * powerOfTen exponent.natAbs
        if y.isInf then none else some y
      else some (x / powerOfTen exponent.natAbs)
    else if x == 0.0 then some x
    else if 0 ≤ exponent then none
    else scaleBy? (x / powerOfTen 308) (exponent + 308) fuel

/-- The float of a coefficient and a power of ten; none if it is too large. -/
def scaled? (digits : Digits) : Option Float :=
  scaleBy? (UInt64.ofNat digits.coefficient).toFloat digits.exponent 5

/-- Takes digits into the coefficient while it stays below `2 ^ 64`. -/
def takeDigits (coefficient : Nat) : List Char → Nat × List Char
  | [] => (coefficient, [])
  | c :: rest =>
    match digit? c with
    | none => (coefficient, c :: rest)
    | some d =>
      let next := 10 * coefficient + d
      if next < 0x10000000000000000 then takeDigits next rest else (coefficient, c :: rest)

/-- The float of the digits, with its sign, once nothing of the number is left. -/
def finishFloat (negative : Bool) (digits : Digits) : Reader Number := fun chars =>
  match scaled? digits with
  | some x => .ok (.float (if negative then -x else x), chars)
  | none => .error .numberTooLarge

/-- Reads the digits of an exponent, whose sign has been read; `down` if it is a minus. -/
def readPower (negative : Bool) (digits : Digits) (down : Bool) : Reader Number := fun chars =>
  match chars with
  | [] => .error .unexpectedEnd
  | c :: _ =>
    if !isDigit c then .error .badNumber
    else
      let rest := chars.dropWhile isDigit
      let power := (chars.takeWhile isDigit).foldl (fun n c => 10 * n + (digit? c).getD 0) 0
      if power < 0x80000000 then
        let exponent := digits.exponent + if down then -(power : Int) else power
        finishFloat negative
          { digits with exponent := max (-0x80000000) (min 0x7fffffff exponent) } rest
      -- beyond every float: only zero and vanishing numbers remain
      else if digits.coefficient ≠ 0 ∧ !down then .error .numberTooLarge
      else .ok (.float (if negative then -0.0 else 0.0), rest)

/-- Reads an exponent, which may have a sign. -/
def readSignedPower (negative : Bool) (digits : Digits) : Reader Number
  | '+' :: rest => readPower negative digits false rest
  | '-' :: rest => readPower negative digits true rest
  | rest => readPower negative digits false rest

/-- The float that the digits so far and the exponent part, if there is one, stand for. -/
def readExponent (negative : Bool) (digits : Digits) : Reader Number
  | [] => finishFloat negative digits []
  | c :: rest =>
    if c == 'e' || c == 'E' then readSignedPower negative digits rest
    else finishFloat negative digits (c :: rest)

/-- Reads the digits after a decimal point, then the exponent part. Digits that no longer fit the
coefficient are passed over. -/
def readFraction (negative : Bool) (digits : Digits) : Reader Number := fun chars =>
  match chars with
  | [] => .error .unexpectedEnd
  | c :: _ =>
    if !isDigit c then .error .badNumber
    else
      let (coefficient, rest) := takeDigits digits.coefficient chars
      let taken := chars.length - rest.length
      readExponent negative ⟨coefficient, digits.exponent - taken⟩ (rest.dropWhile isDigit)

/-- The whole number of the coefficient, with its sign, once nothing of the number is left; a float
if it does not fit 64 bits. -/
def finishWhole (negative : Bool) (coefficient : Nat) : Reader Number := fun chars =>
  let value : Int := if negative then -coefficient else coefficient
  match Number.ofInt? value with
  | some n => if negative ∧ coefficient = 0 then .ok (.float (-0.0), chars) else .ok (n, chars)
  | none =>
    let size := (UInt64.ofNat coefficient).toFloat
    .ok (.float (if negative then -size else size), chars)

/-- Reads what follows the whole part, which is kept as a whole number if nothing does. -/
def readTail (negative : Bool) (coefficient : Nat) : Reader Number
  | [] => finishWhole negative coefficient []
  | c :: rest =>
    if c == '.' then readFraction negative ⟨coefficient, 0⟩ rest
    else if c == 'e' || c == 'E' then readExponent negative ⟨coefficient, 0⟩ (c :: rest)
    else finishWhole negative coefficient (c :: rest)

/-- Whether a digit comes next. -/
def digitNext : List Char → Bool
  | [] => false
  | c :: _ => isDigit c

/-- Reads a point with the digits after it, or an exponent, if one of them comes next. -/
def readScale (negative : Bool) (digits : Digits) : Reader Number
  | [] => readExponent negative digits []
  | c :: rest =>
    if c == '.' then readFraction negative digits rest else readExponent negative digits (c :: rest)

/-- Reads the digits of the whole part that no longer fit the coefficient and only count, and what
follows them. -/
def readBeyond (negative : Bool) (coefficient : Nat) : Reader Number := fun chars =>
  readScale negative ⟨coefficient, (chars.takeWhile isDigit).length⟩ (chars.dropWhile isDigit)

/-- Reads a number, whose minus sign has been read if it is negative. -/
def readNumber (negative : Bool) : Reader Number
  | [] => .error .unexpectedEnd
  | c :: rest =>
    if c == '0' then
      if digitNext rest then .error .badNumber else readTail negative 0 rest
    else if isDigit c then
      let (coefficient, rest) := takeDigits 0 (c :: rest)
      if digitNext rest then readBeyond negative coefficient rest
      else readTail negative coefficient rest
    else .error .badNumber

end DecisionFlow.Json
