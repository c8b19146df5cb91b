import DecisionFlow.Text.Numeral
import DecisionFlow.Value

/-!
# Scalars of YAML

What an unquoted scalar stands for: null, a boolean, a number, or else its own text.

- `Yaml.Scalar`, `Yaml.Scalar.ofPlain`: the meaning of an unquoted scalar.
- `Yaml.Scalar.boolean?`, `Yaml.Scalar.whole?`, `Yaml.Scalar.float?`: the forms of booleans and
  numbers.
-/

namespace DecisionFlow.Yaml

/-- The meaning of a scalar. -/
inductive Scalar where
  | null
  | boolean (b : Bool)
  /-- A whole number of at most 128 bits. -/
  | whole (n : Int)
  | float (x : Float)
  | text (s : String)

namespace Scalar

/-- The forms of null, apart from the empty text. -/
def isNull (s : String) : Bool := s == "null" || s == "Null" || s == "NULL" || s == "~"

/-- The boolean that a text is a form of. -/
def boolean? : String → Option Bool
  | "true" | "True" | "TRUE" => some true
  | "false" | "False" | "FALSE" => some false
  | _ => none

/-- Whether a scalar has only digits after its sign and begins with a superfluous zero: it stands
for its text. -/
def hasLeadingZero (chars : List Char) : Bool :=
  let digits := match chars with
    | '-' :: rest | '+' :: rest => rest
    | _ => chars
  match digits with
  | '0' :: c :: rest => (c :: rest).all Char.isDigit
  | _ => false

/-- The absolute value of a whole number: digits with the mark of their base, or decimal digits. -/
def magnitude? : List Char → Option Nat
  | '0' :: 'x' :: digits => Text.digitsIn? 16 digits
  | '0' :: 'o' :: digits => Text.digitsIn? 8 digits
  | '0' :: 'b' :: digits => Text.digitsIn? 2 digits
  | digits => Text.digitsIn? 10 digits

/-- The whole number that a scalar is a form of, up to 128 bits. -/
def whole? (s : String) : Option Int :=
  let chars := s.toList
  let decimal := !hasLeadingZero chars
  let unsigned := fun (chars : List Char) =>
    if decimal then (magnitude? chars).filter (· < 0x100000000000000000000000000000000) else none
  match chars with
  | '+' :: rest => (unsigned rest).map Int.ofNat
  | '-' :: rest =>
    if decimal then
      ((magnitude? rest).filter (· ≤ 0x80000000000000000000000000000000)).map fun n => -(n : Int)
    else none
  | _ => (unsigned chars).map Int.ofNat

/-- The float that a scalar is a form of. Numbers beyond all floats are none. -/
def float? (s : String) : Option Float :=
  if [".inf", ".Inf", ".INF", "+.inf", "+.Inf", "+.INF"].contains s then some (1.0 / 0.0)
  else if ["-.inf", "-.Inf", "-.INF"].contains s then some (-1.0 / 0.0)
  else if [".nan", ".NaN", ".NAN"].contains s then some (0.0 / 0.0)
  else
    let (negative, size) := Text.splitSign s.toList
    let size? := (Text.decimal? size).bind fun d => Decimal.nearest? d.coefficient d.exponent
    if negative then size?.map (-·) else size?

/-- The meaning of an unquoted scalar. -/
def ofPlain (s : String) : Scalar :=
  if s.isEmpty || isNull s then .null
  else if let some b := boolean? s then .boolean b
  else if let some n := whole? s then .whole n
  else if hasLeadingZero s.toList then .text s
  else if let some x := float? s then .float x
  else .text s

/-- The value of a scalar. Infinities and not-a-number are null; a whole number beyond 64 bits has
no value. -/
def value? : Scalar → Option Value
  | null => some .null
  | boolean b => some (.bool b)
  | whole n => (Number.ofInt? n).map .number
  | float x => some (if x.isFinite then .number (.float x) else .null)
  | text s => some (.text s)

end Scalar

end DecisionFlow.Yaml
