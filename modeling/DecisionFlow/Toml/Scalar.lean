import DecisionFlow.Text.Numeral
import DecisionFlow.Toml.Text
import DecisionFlow.Toml.Value

/-!
# Numbers and times in TOML text

- `Toml.whole?`: a whole number of 64 bits, in decimal or behind the mark of a base. Underscores may
  stand between digits.
- `Toml.float?`: a decimal with a point or an exponent, an infinity or not-a-number.
- `Toml.time?`: a date, a time, or both. It is kept in the form that the standard gives.
- `Toml.scalar`: reads the words of a value that has no quotes or brackets.
-/

namespace DecisionFlow.Toml

/-! ## Numbers -/

/-- The digits without the underscores, if each of these stands between two of them. -/
def ungrouped? (chars : List Char) : Option (List Char) :=
  let lonely := fun (c d : Char) => c == '_' && d == '_'
  if chars.head? == some '_' || chars.getLast? == some '_'
    || (chars.zip chars.tail).any (fun (c, d) => lonely c d) then none
  else some (chars.filter (· != '_'))

/-- The value of digits in a base, with underscores between them. -/
def digitsIn? (base : Nat) (chars : List Char) : Option Nat :=
  (ungrouped? chars).bind (Text.digitsIn? base)

/-- The digits of a decimal number, which begin with zero only if that is all. -/
def decimalDigits? (chars : List Char) : Option (List Char) := do
  let digits ← ungrouped? chars
  guard (digits.all Char.isDigit && !digits.isEmpty)
  guard (digits.length == 1 || digits.head? != some '0')
  return digits

/-- The whole number of 64 bits that a word stands for. -/
def whole? (word : List Char) : Option Int := do
  let n : Int ← match word with
    | '0' :: 'x' :: digits => (digitsIn? 16 digits).map Int.ofNat
    | '0' :: 'o' :: digits => (digitsIn? 8 digits).map Int.ofNat
    | '0' :: 'b' :: digits => (digitsIn? 2 digits).map Int.ofNat
    | _ => do
      let (negative, digits) := Text.splitSign word
      let n ← Text.digitsIn? 10 (← decimalDigits? digits)
      return if negative then -(n : Int) else n
  guard (Text.fits64 n)
  return n

/-- The float that a word stands for. Positive numbers beyond all floats are none. -/
def float? (word : List Char) : Option Float := do
  let (negative, size) := Text.splitSign word
  let signed := fun (x : Float) => if negative then -x else x
  if size == "inf".toList then return signed (1.0 / 0.0)
  if size == "nan".toList then return signed (0.0 / 0.0)
  let inDigits := fun (c : Char) => c.isDigit || c == '_'
  let wholePart ← decimalDigits? (size.takeWhile inDigits)
  let rest := size.dropWhile inDigits
  guard !rest.isEmpty
  let (fraction, rest) ← match rest with
    | '.' :: rest => do
      let fraction ← ungrouped? (rest.takeWhile inDigits)
      guard !fraction.isEmpty
      pure (fraction, rest.dropWhile inDigits)
    | _ => pure ([], rest)
  let exponent : Int ← match rest with
    | [] => some 0
    | c :: rest => do
      guard (c == 'e' || c == 'E')
      let (down, digits) := Text.splitSign rest
      let n ← digitsIn? 10 digits
      pure (if down then -(n : Int) else n)
  let coefficient ← Text.digitsIn? 10 (wholePart ++ fraction)
  match Decimal.nearest? coefficient (exponent - fraction.length) with
  | some x => return signed x
  | none =>
    guard negative
    return -1.0 / 0.0

/-! ## Times -/

/-- The number of exactly `length` digits at the front that lies between two bounds,
and the rest. -/
def field (length low high : Nat) : Reader Nat := do
  let chars ← get
  let digits := chars.take length
  guard (digits.length == length && digits.all Char.isDigit)
  let n ← Text.digitsIn? 10 digits
  guard (low ≤ n ∧ n ≤ high)
  set (chars.drop length)
  return n

/-- A number with zeros in front, so that it has at least `length` digits. -/
def padded (length n : Nat) : String :=
  let digits := Nat.toDigits 10 n
  String.ofList (List.replicate (length - digits.length) '0' ++ digits)

/-- How many days a month has. -/
def daysOf (year month : Nat) : Nat :=
  match month with
  | 2 => if year % 4 == 0 && (year % 100 != 0 || year % 400 == 0) then 29 else 28
  | 4 | 6 | 9 | 11 => 30
  | _ => 31

/-- Reads a date. -/
def date : Reader String := do
  let year ← field 4 0 9999
  exactly ['-']
  let month ← field 2 1 12
  exactly ['-']
  let day ← field 2 1 (daysOf year month)
  return padded 4 year ++ "-" ++ padded 2 month ++ "-" ++ padded 2 day

/-- Reads a time of day. Nine digits of a fraction of a second count. -/
def clock : Reader String := do
  let hour ← field 2 0 23
  exactly [':']
  let minute ← field 2 0 59
  exactly [':']
  let second ← field 2 0 60
  let whole := padded 2 hour ++ ":" ++ padded 2 minute ++ ":" ++ padded 2 second
  match ← get with
  | '.' :: rest =>
    let digits := rest.takeWhile Char.isDigit
    guard !digits.isEmpty
    set (rest.drop digits.length)
    let fraction := ((digits.take 9).reverse.dropWhile (· == '0')).reverse
    return if fraction.isEmpty then whole else whole ++ "." ++ String.ofList fraction
  | _ => return whole

/-- Reads the distance from universal time. -/
def offset : Reader String := do
  match ← get with
  | c :: rest =>
    set rest
    if c == 'Z' || c == 'z' then return "Z"
    else
      guard (c == '+' || c == '-')
      let hours ← field 2 0 23
      exactly [':']
      let minutes ← field 2 0 59
      let sign := if c == '-' && hours + minutes != 0 then "-" else "+"
      return sign ++ padded 2 hours ++ ":" ++ padded 2 minutes
  | [] => failure

/-- The standard form of a word that is a date, a time, or both. -/
def time? (word : List Char) : Option String := do
  let dated : Reader String := do
    let date ← date
    match ← get with
    | [] => return date
    | c :: rest =>
      guard (c == 'T' || c == 't' || c == ' ')
      set rest
      let clock ← clock
      let offset ← if (← get).isEmpty then pure "" else offset
      return date ++ "T" ++ clock ++ offset
  let (text, rest) ← (dated <|> clock).run word
  guard rest.isEmpty
  return text

/-! ## Words -/

/-- Whether a character may stand in a word. -/
def isWord (c : Char) : Bool := c.isAlphanum || ['_', '+', '-', '.', ':'].contains c

/-- The word at the front. A date and a time with one space between them make one word. -/
def wordOf (chars : List Char) : List Char :=
  let word := chars.takeWhile isWord
  match chars.drop word.length with
  | ' ' :: c :: rest =>
    if word.length == 10 && (word.drop 4).head? == some '-' && c.isDigit then
      word ++ ' ' :: (c :: rest).takeWhile isWord
    else word
  | _ => word

/-- Reads a number, a time or a boolean. -/
def scalar : Reader Value := do
  let chars ← get
  let word := wordOf chars
  set (chars.drop word.length)
  if word == "true".toList then return .bool true
  else if word == "false".toList then return .bool false
  else if let some text := time? word then return .time text
  else if let some n := whole? word then return .whole n
  else if let some x := float? word then return .float x
  else failure

end DecisionFlow.Toml
