import DecisionFlow.Decimal.Layout
import DecisionFlow.Value

/-!
# Writing JSON

- `Json.compact`: a value on one line, without spaces.
- `Json.pretty`: a value over several lines, each level indented by two spaces. Empty arrays and
  objects stay on their line.
-/

namespace DecisionFlow.Json

/-- Floats in JSON: an exponent has its sign written. -/
def floatLayout : Decimal.Layout := ⟨"+"⟩

/-- A number as JSON text. -/
def numberText : Number → String
  | .int n _ => toString n
  | .float x => floatLayout.write x

/-- The digit of a value below 16, in lower case. -/
def hexChar (n : Nat) : Char := Nat.digitChar n

/-- A character within a JSON string. Quotes, backslashes and control characters are escaped. -/
def escaped (c : Char) : List Char :=
  match c with
  | '"' => ['\\', '"']
  | '\\' => ['\\', '\\']
  | '\n' => ['\\', 'n']
  | '\r' => ['\\', 'r']
  | '\t' => ['\\', 't']
  | '\x08' => ['\\', 'b']
  | '\x0c' => ['\\', 'f']
  | c =>
    if c.toNat < 0x20 then ['\\', 'u', '0', '0', hexChar (c.toNat / 16), hexChar (c.toNat % 16)]
    else [c]

/-- A text as a JSON string. -/
def stringChars (s : String) : List Char := '"' :: s.toList.flatMap escaped ++ ['"']

/-- A scalar as JSON text. Arrays and objects have no such text. -/
def scalarChars : Value → List Char
  | .null => "null".toList
  | .bool true => "true".toList
  | .bool false => "false".toList
  | .number n => (numberText n).toList
  | .text s => stringChars s
  | .array _ | .object _ => []

/-! ## On one line -/

mutual

/-- The characters of a value on one line. -/
def compactChars : Value → List Char
  | .array items => '[' :: compactItems items ++ [']']
  | .object fields => '{' :: compactFields fields ++ ['}']
  | scalar => scalarChars scalar

/-- Items, with commas between them. -/
def compactItems : List Value → List Char
  | [] => []
  | [item] => compactChars item
  | item :: rest => compactChars item ++ ',' :: compactItems rest

/-- Fields, with commas between them. -/
def compactFields : List (String × Value) → List Char
  | [] => []
  | [(name, value)] => stringChars name ++ ':' :: compactChars value
  | (name, value) :: rest =>
    stringChars name ++ ':' :: compactChars value ++ ',' :: compactFields rest

end

/-- A value as JSON text on one line. -/
def compact (value : Value) : String := String.ofList (compactChars value)

/-! ## Over several lines -/

/-- The start of a line at a level of nesting. -/
def newline (level : Nat) : List Char := '\n' :: List.replicate (2 * level) ' '

mutual

/-- The characters of a value over several lines, the value being at `level`. -/
def prettyChars (level : Nat) : Value → List Char
  | .array [] => ['[', ']']
  | .array items => '[' :: prettyItems (level + 1) items ++ newline level ++ [']']
  | .object [] => ['{', '}']
  | .object fields => '{' :: prettyFields (level + 1) fields ++ newline level ++ ['}']
  | scalar => scalarChars scalar

/-- Items, each on a line of its own. -/
def prettyItems (level : Nat) : List Value → List Char
  | [] => []
  | [item] => newline level ++ prettyChars level item
  | item :: rest => newline level ++ prettyChars level item ++ ',' :: prettyItems level rest

/-- Fields, each on a line of its own. -/
def prettyFields (level : Nat) : List (String × Value) → List Char
  | [] => []
  | [(name, value)] =>
    newline level ++ stringChars name ++ [':', ' '] ++ prettyChars level value
  | (name, value) :: rest =>
    newline level ++ stringChars name ++ [':', ' '] ++ prettyChars level value
      ++ ',' :: prettyFields level rest

end

/-- A value as JSON text over several lines. -/
def pretty (value : Value) : String := String.ofList (prettyChars 0 value)

end DecisionFlow.Json
