import DecisionFlow.Json.Number
import DecisionFlow.Value

/-!
# Reading JSON

- `Json.parse`: reads a text into a value. Objects keep every occurrence of a repeated field.
- `Json.depthLimit`: how deep arrays and objects may nest.
- `Value.mergeRepeats`: of a repeated field, only the last value is kept, in the first place.
- `Value.splitRepeats`: an object with a repeated field becomes an array of objects of one field
  each.
- `Json.parseMerged`: reads a text and merges repeated fields.
-/

namespace DecisionFlow.Json

/-- Whether a character is white space between the tokens of JSON. -/
def isSpace (c : Char) : Bool := c == ' ' || c == '\n' || c == '\t' || c == '\r'

/-- The characters after white space. -/
def skipSpace (chars : List Char) : List Char := chars.dropWhile isSpace

/-- The value of a hexadecimal digit. -/
def hexDigit? (c : Char) : Option Nat :=
  if '0' ≤ c ∧ c ≤ '9' then some (c.toNat - '0'.toNat)
  else if 'a' ≤ c ∧ c ≤ 'f' then some (c.toNat - 'a'.toNat + 10)
  else if 'A' ≤ c ∧ c ≤ 'F' then some (c.toNat - 'A'.toNat + 10)
  else none

/-- Reads the four digits of a Unicode escape. -/
def hexEscape : Reader Nat
  | a :: b :: c :: d :: rest =>
    match hexDigit? a, hexDigit? b, hexDigit? c, hexDigit? d with
    | some a, some b, some c, some d => .ok (((a * 16 + b) * 16 + c) * 16 + d, rest)
    | _, _, _, _ => .error .badEscape
  | _ => .error .unexpectedEnd

/-- Reads a Unicode escape after its `u`: one code, or two that make a surrogate pair. -/
def unicodeEscape : Reader Char := fun chars => do
  let (code, rest) ← hexEscape chars
  if 0xDC00 ≤ code ∧ code ≤ 0xDFFF then throw .loneSurrogate
  if code < 0xD800 ∨ 0xDBFF < code then return (Char.ofNat code, rest)
  match rest with
  | '\\' :: 'u' :: rest =>
    let (low, rest) ← hexEscape rest
    if low < 0xDC00 ∨ 0xDFFF < low then throw .loneSurrogate
    return (Char.ofNat (0x10000 + (code - 0xD800) * 0x400 + (low - 0xDC00)), rest)
  | _ => throw .loneSurrogate

/-- Reads an escape sequence after its backslash. -/
def escape : Reader Char
  | '"' :: rest => .ok ('"', rest)
  | '\\' :: rest => .ok ('\\', rest)
  | '/' :: rest => .ok ('/', rest)
  | 'b' :: rest => .ok ('\x08', rest)
  | 'f' :: rest => .ok ('\x0c', rest)
  | 'n' :: rest => .ok ('\n', rest)
  | 'r' :: rest => .ok ('\r', rest)
  | 't' :: rest => .ok ('\t', rest)
  | 'u' :: rest => unicodeEscape rest
  | _ :: _ => .error .badEscape
  | [] => .error .unexpectedEnd

/-- Reads the characters of a string after its opening quote, at most `fuel` of them. -/
def stringBody : Nat → Reader (List Char)
  | 0, _ => .error .unexpectedEnd
  | fuel + 1, chars =>
    match chars with
    | [] => .error .unexpectedEnd
    | '"' :: rest => .ok ([], rest)
    | '\\' :: rest => do
      let (c, rest) ← escape rest
      let (cs, rest) ← stringBody fuel rest
      return (c :: cs, rest)
    | c :: rest =>
      if c.toNat < 0x20 then .error (.controlCharacter c)
      else do
        let (cs, rest) ← stringBody fuel rest
        return (c :: cs, rest)

/-- Reads a string after its opening quote. -/
def string : Reader String := fun chars => do
  let (cs, rest) ← stringBody (chars.length + 1) chars
  return (String.ofList cs, rest)

/-- Reads exactly the characters of a word. -/
def word (expected : List Char) (value : Value) : Reader Value := fun chars =>
  match expected, chars with
  | [], rest => .ok (value, rest)
  | e :: expected, c :: rest =>
    if e = c then word expected value rest else .error (.unexpectedCharacter c)
  | _ :: _, [] => .error .unexpectedEnd

/-- Reads elements with commas between them up to the bracket `close`, at most `fuel` of them.
The first element has not been read yet. -/
def elements {α : Type} (close : Char) (element : Reader α) : Nat → Reader (List α)
  | 0, _ => .error .unexpectedEnd
  | fuel + 1, chars => do
    let (first, rest) ← element chars
    match skipSpace rest with
    | [] => throw .unexpectedEnd
    | ',' :: rest =>
      let (more, rest) ← elements close element fuel rest
      return (first :: more, rest)
    | c :: rest => if c = close then return ([first], rest) else throw (.unexpectedCharacter c)

/-- Reads what stands between brackets, the opening one having been read. -/
def bracketed {α : Type} (close : Char) (element : Reader α) : Reader (List α) := fun chars =>
  match skipSpace chars with
  | [] => .error .unexpectedEnd
  | c :: rest =>
    if c = close then .ok ([], rest) else elements close element (chars.length + 1) (c :: rest)

/-- Reads a name, a colon and a value. -/
def field (value : Reader Value) : Reader (String × Value) := fun chars =>
  match skipSpace chars with
  | '"' :: rest => do
    let (name, rest) ← string rest
    match skipSpace rest with
    | ':' :: rest =>
      let (value, rest) ← value rest
      return ((name, value), rest)
    | c :: _ => throw (.unexpectedCharacter c)
    | [] => throw .unexpectedEnd
  | c :: _ => .error (.unexpectedCharacter c)
  | [] => .error .unexpectedEnd

/-- Reads a value in which arrays and objects nest at most `depth` deep. -/
def value : Nat → Reader Value
  | depth, chars =>
    match skipSpace chars with
    | [] => .error .unexpectedEnd
    | 'n' :: rest => word "ull".toList .null rest
    | 't' :: rest => word "rue".toList (.bool true) rest
    | 'f' :: rest => word "alse".toList (.bool false) rest
    | '"' :: rest => do
      let (s, rest) ← string rest
      return (.text s, rest)
    | '[' :: rest =>
      match depth with
      | 0 => .error .tooDeep
      | depth + 1 => do
        let (items, rest) ← bracketed ']' (value depth) rest
        return (.array items, rest)
    | '{' :: rest =>
      match depth with
      | 0 => .error .tooDeep
      | depth + 1 => do
        let (fields, rest) ← bracketed '}' (field (value depth)) rest
        return (.object fields, rest)
    | '-' :: rest => do
      let (n, rest) ← readNumber true rest
      return (.number n, rest)
    | c :: rest =>
      if isDigit c then do
        let (n, rest) ← readNumber false (c :: rest)
        return (.number n, rest)
      else .error (.unexpectedCharacter c)

/-- How deep arrays and objects may nest. -/
def depthLimit : Nat := 127

/-- Reads a whole text. Objects keep every occurrence of a repeated field. -/
def parse (text : String) : Except SyntaxError Value := do
  let (value, rest) ← value depthLimit text.toList
  if (skipSpace rest).isEmpty then return value else throw .trailing

end DecisionFlow.Json

namespace DecisionFlow.Value

mutual

/-- The value with repeated fields merged: the last value in the place of the first. -/
def mergeRepeats : Value → Value
  | .array items => .array (mergeItems items)
  | .object fields => .object (Fields.ofList (mergeFields fields))
  | scalar => scalar

/-- Merges the repeated fields inside items. -/
def mergeItems : List Value → List Value
  | [] => []
  | item :: rest => item.mergeRepeats :: mergeItems rest

/-- Merges the repeated fields inside the values of fields. -/
def mergeFields : List (String × Value) → List (String × Value)
  | [] => []
  | (name, value) :: rest => (name, value.mergeRepeats) :: mergeFields rest

end

/-- The fields as an object, or as an array of objects of one field each if a name repeats. -/
def ofFields (fields : Fields) : Value :=
  if Fields.repeats fields then .array (fields.map fun (name, value) => single name value)
  else .object fields

mutual

/-- The value with no occurrence of a repeated field lost: an object that repeats a field becomes
the array of its fields as objects of one field each. -/
def splitRepeats : Value → Value
  | .array items => .array (splitItems items)
  | .object fields => ofFields (splitFields fields)
  | scalar => scalar

/-- Splits the repeated fields inside items. -/
def splitItems : List Value → List Value
  | [] => []
  | item :: rest => item.splitRepeats :: splitItems rest

/-- Splits the repeated fields inside the values of fields. -/
def splitFields : List (String × Value) → List (String × Value)
  | [] => []
  | (name, value) :: rest => (name, value.splitRepeats) :: splitFields rest

end

end DecisionFlow.Value

namespace DecisionFlow.Json

/-- Reads a whole text, keeping the last value of a repeated field. -/
def parseMerged (text : String) : Except SyntaxError Value := return (← parse text).mergeRepeats

end DecisionFlow.Json
