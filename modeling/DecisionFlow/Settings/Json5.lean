import DecisionFlow.Settings.Layer
import DecisionFlow.Text.Reader
import DecisionFlow.Unicode.Property

/-!
# Settings in JSON5

JSON with comments, names without quotes, strings in single quotes, and commas behind the last item.

- `Json5.number?`: the setting that a number stands for. Numbers with a point or an exponent are
  floats.
- `Json5.parse?`: the setting that a text stands for.
-/

namespace DecisionFlow.Json5

open Text Text.Reader Unicode

/-! ## Space -/

/-- Whether a character ends a line. -/
def isBreak (c : Char) : Bool := c == '\n' || c == '\r' || c == '\u2028' || c == '\u2029'

/-- Whether a character is white space between tokens. -/
def isSpace (c : Char) : Bool :=
  c == '\t' || c == '\x0b' || c == '\x0c' || c == '\uFEFF' || isBreak c
    || GeneralCategory.spaceSeparator.contains c

/-- The characters behind the end of a comment of several lines. -/
def afterComment? : List Char → Option (List Char)
  | '*' :: '/' :: rest => some rest
  | _ :: rest => afterComment? rest
  | [] => none

/-- The characters behind white space and comments; `fuel` bounds the number of comments. -/
def skipSpace : Nat → List Char → List Char
  | 0, chars => chars
  | fuel + 1, chars =>
    match chars.dropWhile isSpace with
    | '/' :: '/' :: rest => skipSpace fuel (rest.dropWhile (!isBreak ·))
    | '/' :: '*' :: rest =>
      match afterComment? rest with
      | some rest => skipSpace fuel rest
      | none => '/' :: '*' :: rest
    | chars => chars

/-- Passes over white space and comments. -/
def space : Reader Unit := modify fun chars => skipSpace (chars.length + 1) chars

/-! ## Numbers -/

/-- Reads an exponent, if one comes next. -/
def exponent : Reader (List Char) := do
  let here ← get
  match here with
  | c :: rest =>
    if c != 'e' && c != 'E' then return []
    let (sign, rest) := match rest with
      | '+' :: rest => (['+'], rest)
      | '-' :: rest => (['-'], rest)
      | _ => ([], rest)
    let digits := rest.takeWhile Char.isDigit
    if digits.isEmpty then return []
    set (rest.drop digits.length)
    return 'e' :: sign ++ digits
  | [] => return []

/-- The setting that the size of a decimal number and its sign stand for. -/
def ofDecimal? (sign wholePart : List Char) (fraction : Option (List Char)) (exponent : List Char) :
    Option Setting :=
  let form := sign ++ wholePart ++ (fraction.map ('.' :: ·)).getD [] ++ exponent
  if fraction.isNone && exponent.isEmpty then (whole64? form).map .whole
  else (float? form).bind fun x => if x.isFinite then some (.float x) else none

/-- Reads a number. Hexadecimal ones have 32 bits and no sign, and infinity has no plus sign. -/
def number? : Reader Setting := do
  let sign ← do
    if ← skips '+' then pure ['+'] else if ← skips '-' then pure ['-'] else pure []
  match ← get with
  | '0' :: x :: c :: rest =>
    if (x == 'x' || x == 'X') && isHexDigit c then
      set (c :: rest)
      let n ← digitsIn? 16 (← taking isHexDigit)
      guard (sign.isEmpty && n < 0x100000000)
      return .whole n
  | _ => pure ()
  if ← skipsWord "Infinity" then
    guard (sign != ['+'])
    return .float (if sign.isEmpty then 1.0 / 0.0 else -1.0 / 0.0)
  if ← skipsWord "NaN" then
    guard (sign != ['+'])
    return .float (0.0 / 0.0)
  let wholePart ← do
    if ← skips '0' then pure ['0'] else taking Char.isDigit
  let fraction ← do
    if ← skips '.' then pure (some (← taking Char.isDigit)) else pure none
  guard (!(wholePart ++ fraction.getD []).isEmpty)
  ofDecimal? sign wholePart fraction (← exponent)

/-! ## Strings and names -/

/-- Reads a Unicode escape after its `u`: one code, or two that make a surrogate pair. -/
def unicodeEscape : Reader Char := do
  let code ← hexCode 4
  guard !(0xDC00 ≤ code && code ≤ 0xDFFF)
  if code < 0xD800 || 0xDBFF < code then return Char.ofNat code
  guard (← skipsWord "\\u")
  let low ← hexCode 4
  guard (0xDC00 ≤ low && low ≤ 0xDFFF)
  return Char.ofNat (0x10000 + (code - 0xD800) * 0x400 + (low - 0xDC00))

/-- Reads an escape after its backslash. An escaped line break stands for nothing. -/
def escape : Reader (List Char) := do
  match ← next with
  | 'b' => return ['\x08']
  | 'f' => return ['\x0c']
  | 'n' => return ['\n']
  | 'r' => return ['\r']
  | 't' => return ['\t']
  | 'v' => return ['\x0b']
  | '0' => return ['\x00']
  | 'x' => return [Char.ofNat (← hexCode 2)]
  | 'u' => return [← unicodeEscape]
  | '\r' =>
    let _ ← skips '\n'
    return []
  | c =>
    if isBreak c then return []
    guard !c.isDigit
    return [c]

/-- Reads the characters of a string, after its opening quote, up to its closing one. -/
def stringBody (quote : Char) : Nat → Reader (List Char)
  | 0 => failure
  | fuel + 1 => do
    let c ← next
    if c == quote then return []
    else if c == '\\' then
      let chars ← escape
      return chars ++ (← stringBody quote fuel)
    else
      guard !(c == '\n' || c == '\r')
      return c :: (← stringBody quote fuel)

/-- Whether a name may begin with a character. -/
def beginsName (c : Char) : Bool :=
  c == '$' || c == '_' || GeneralCategory.letter.contains c
    || GeneralCategory.letterNumber.contains c

/-- Whether a name may go on with a character. -/
def continuesName (c : Char) : Bool :=
  beginsName c || GeneralCategory.nonspacingMark.contains c || diacritic.contains c
    || GeneralCategory.decimalNumber.contains c || GeneralCategory.connectorPunctuation.contains c
    || c == '\u200C' || c == '\u200D'

/-- Reads the characters of a name without quotes. -/
def nameBody (first : Bool) : Nat → Reader (List Char)
  | 0 => failure
  | fuel + 1 => do
    match ← get with
    | '\\' :: 'u' :: rest =>
      set rest
      let c ← unicodeEscape
      return c :: (← nameBody false fuel)
    | c :: rest =>
      if if first then beginsName c else continuesName c then
        set rest
        return c :: (← nameBody false fuel)
      else return []
    | [] => return []

/-- Reads the key of an entry. -/
def key : Reader String := do
  let chars ← get
  let fuel := chars.length + 1
  if ← skips '"' then return String.ofList (← stringBody '"' fuel)
  else if ← skips '\'' then return String.ofList (← stringBody '\'' fuel)
  else
    let name ← nameBody true fuel
    guard (!name.isEmpty)
    return String.ofList name

/-! ## Values -/

mutual

/-- Reads a value. -/
def value : Nat → Reader Setting
  | 0 => failure
  | fuel + 1 => do
    let chars ← get
    if ← skipsWord "null" then return .nothing
    else if ← skipsWord "true" then return .flag true
    else if ← skipsWord "false" then return .flag false
    else if ← skips '"' then return .text (String.ofList (← stringBody '"' (chars.length + 1)))
    else if ← skips '\'' then
      return .text (String.ofList (← stringBody '\'' (chars.length + 1)))
    else if ← skips '[' then
      space
      return .list (← items fuel)
    else if ← skips '{' then
      space
      return .table (← entries fuel [])
    else number?

/-- Reads the items of an array up to its closing bracket. -/
def items : Nat → Reader (List Setting)
  | 0 => failure
  | fuel + 1 => do
    if ← skips ']' then return []
    let item ← value fuel
    space
    if ← skips ',' then
      space
      return item :: (← items fuel)
    else
      expect ']'
      return [item]

/-- Reads the entries of an object up to its closing brace. The last value of a key counts. -/
def entries : Nat → Layer → Reader Layer
  | 0, _ => failure
  | fuel + 1, found => do
    if ← skips '}' then return found
    let name ← key
    space
    expect ':'
    space
    let setting ← value fuel
    let found := found.put name setting
    space
    if ← skips ',' then
      space
      entries fuel found
    else
      expect '}'
      return found

end

/-- The setting that a text stands for; none if it is malformed. -/
def parse? (text : String) : Option Setting := do
  let chars := text.toList
  let whole : Reader Setting := do
    space
    let setting ← value (chars.length + 1)
    space
    return setting
  let (setting, rest) ← whole.run chars
  guard rest.isEmpty
  return setting

end DecisionFlow.Json5
