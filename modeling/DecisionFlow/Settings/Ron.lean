import DecisionFlow.Settings.Layer
import DecisionFlow.Text.Reader

/-!
# Settings in object notation

Values are structs `Name(field: value)`, tuples `(value, …)`, lists, maps, options, numbers,
characters and strings. The name of a struct does not count, and a name alone stands for nothing.

- `Ron.number`: the setting that a number stands for. Numbers that need more than 64 bits are
  floats.
- `Ron.parse?`: the setting that a text stands for.
-/

namespace DecisionFlow.Ron

open Text Text.Reader

/-! ## Space -/

/-- Whether a character is white space between tokens. -/
def isSpace (c : Char) : Bool :=
  c == ' ' || ('\t' ≤ c && c ≤ '\r') || c == '\x85' || c == '\u200E' || c == '\u200F' ||
    c == '\u2028'
    || c == '\u2029'

/-- The characters behind the end of as many comments in one another. -/
def afterComment? : Nat → List Char → Option (List Char)
  | 0, chars => some chars
  | depth + 1, '/' :: '*' :: rest => afterComment? (depth + 2) rest
  | depth + 1, '*' :: '/' :: rest => afterComment? depth rest
  | depth + 1, _ :: rest => afterComment? (depth + 1) rest
  | _ + 1, [] => none

/-- The characters behind white space and comments; `fuel` bounds the number of comments. -/
def skipSpace : Nat → List Char → Option (List Char)
  | 0, chars => some chars
  | fuel + 1, chars =>
    match chars.dropWhile isSpace with
    | '/' :: '/' :: rest => skipSpace fuel (rest.dropWhile (· != '\n'))
    | '/' :: '*' :: rest => (afterComment? 1 rest).bind (skipSpace fuel)
    | chars => some chars

/-- Passes over white space and comments. -/
def space : Reader Unit := do
  let chars ← get
  set (← skipSpace (chars.length + 1) chars : List Char)

/-- Passes over a comma with space around it, and says whether there was one. -/
def comma : Reader Bool := do
  space
  let found ← skips ','
  if found then space
  return found

/-! ## Names -/

/-- Whether a name may begin with a character. -/
def beginsName (c : Char) : Bool := c.isAlpha || c == '_'

/-- Whether a name may go on with a character. -/
def continuesName (c : Char) : Bool := c.isAlphanum || c == '_'

/-- Whether a character may stand in a raw name. -/
def isRawNameChar (c : Char) : Bool := continuesName c || c == '.' || c == '+' || c == '-'

/-- The name at the front, and what follows it; none if no name comes next. Raw names stand behind
`r#`. -/
def name? : List Char → Option (String × List Char)
  | 'r' :: '"' :: _ => none
  | 'r' :: '#' :: chars =>
    match chars.takeWhile isRawNameChar with
    | [] => none
    | name => some (String.ofList name, chars.dropWhile isRawNameChar)
  | chars =>
    let name := chars.takeWhile isRawNameChar
    if chars.head?.any beginsName && name.all continuesName then
      some (String.ofList name, chars.dropWhile isRawNameChar)
    else none

/-- Reads a name. -/
def name : Reader String := fun chars => name? chars

/-- Passes over a word if it comes next and does not go on as a name, and says whether it did. -/
def skipsName (word : String) : Reader Bool := do
  let chars ← get
  if (chars.drop word.length).head?.any continuesName then return false
  skipsWord word

/-! ## Numbers -/

/-- Whether a character may stand in a float. -/
def isFloatChar (c : Char) : Bool :=
  c.isDigit || c == 'e' || c == 'E' || c == '.' || c == '+' || c == '-' || c == '_'

/-- Whether a character may stand in a whole number, in whatever base. -/
def isWholeChar (c : Char) : Bool := isHexDigit c || c == '_'

/-- Reads a whole number without its sign. Underscores may stand between and behind its digits. -/
def wholeSize : Reader Nat := do
  let base ← do
    if ← skipsWord "0x" then pure 16
    else if ← skipsWord "0b" then pure 2
    else if ← skipsWord "0o" then pure 8
    else pure 10
  let digits ← taking isWholeChar
  guard (digits.head? != some '_')
  digitsIn? base (digits.filter (· != '_'))

/-- Reads a whole number: one of 64 bits together with its sign, or a larger one of 64 bits that has
no sign. -/
def whole : Reader Setting := do
  if ← skips '-' then
    let n ← wholeSize
    guard (fits64 (-n))
    return .whole (-n)
  let signed ← skips '+'
  let n ← wholeSize
  if fits64 n then return .whole n
  guard (!signed && n < 0x10000000000000000)
  return .float (Decimal.nearest? n 0 |>.getD (1.0 / 0.0))

/-- Reads a float. -/
def float : Reader Setting := do
  let x ← float? (← taking isFloatChar)
  return .float x

/-- Reads a number. What cannot be read as a whole number is a float. -/
def number : Reader Setting := do
  let (_, size) := splitSign (← get)
  if (size.takeWhile isWholeChar).length < (size.takeWhile isFloatChar).length then float
  else whole <|> float

/-! ## Strings -/

/-- Reads the code of an escaped character, behind its opening brace: up to six digits and the
closing brace. -/
def bracedCode : Reader Nat := do
  let digits ← taking (· != '\x7d')
  guard (digits.length ≤ 6)
  expect '\x7d'
  digitsIn? 16 digits

/-- Reads an escape after its backslash. -/
def escape : Reader Char := do
  match ← next with
  | '\'' => return '\''
  | '"' => return '"'
  | '\\' => return '\\'
  | 'n' => return '\n'
  | 'r' => return '\r'
  | 't' => return '\t'
  | 'x' => return Char.ofNat (← hexCode 2)
  | 'u' =>
    expect '\x7b'
    let code ← bracedCode
    guard code.isValidChar
    return Char.ofNat code
  | _ => failure

/-- Reads the characters of a string, after its opening quote, up to its closing one. -/
def stringBody : Nat → Reader (List Char)
  | 0 => failure
  | fuel + 1 => do
    match ← next with
    | '"' => return []
    | '\\' =>
      let c ← escape
      return c :: (← stringBody fuel)
    | c => return c :: (← stringBody fuel)

/-- The characters up to an ending, and what follows it. -/
def splitAtEnding? (ending : List Char) : List Char → Option (List Char × List Char)
  | [] => if ending.isEmpty then some ([], []) else none
  | c :: rest =>
    if ending.isPrefixOf (c :: rest) then some ([], (c :: rest).drop ending.length)
    else (splitAtEnding? ending rest).map fun (found, rest) => (c :: found, rest)

/-- Reads a string, or a raw string that ends at a quote and as many `#` as it begins with. -/
def string : Reader String := do
  if ← skips 'r' then
    let hashes ← taking (· == '#')
    expect '"'
    let (found, rest) ← splitAtEnding? ('"' :: hashes) (← get)
    set rest
    return String.ofList found
  else
    expect '"'
    return String.ofList (← stringBody ((← get).length + 1))

/-- Reads a character after its opening quote. -/
def character : Reader Char := do
  let c ← next
  guard (c != '\'')
  let c ← if c == '\\' then escape else pure c
  expect '\''
  return c

/-! ## Values -/

/-- The text that the key of a map is. -/
def keyText? : Setting → Option String
  | .text s => some s
  | _ => none

/-- Whether the characters behind an opening bracket are those of a field: a name and a colon. -/
def beginsField (chars : List Char) : Bool :=
  ((name? chars).bind fun (_, rest) => skipSpace (rest.length + 1) rest).any (·.head? == some ':')

/-- How many levels a value may have: a list, struct, map or option takes one, and so does what
stands in a list, struct or map. -/
def levelLimit : Nat := 128

mutual

/-- Reads a value of at most `levels` levels. With `implicit`, an option may stand without its
brackets. -/
def value (implicit : Bool) (levels : Nat) : Nat → Reader Setting
  | 0 => failure
  | fuel + 1 => do
    let chars ← get
    if ← skipsName "true" then return .flag true
    else if ← skipsName "false" then return .flag false
    else if ← skipsName "Some" then
      guard (0 < levels)
      space
      if ← skips '(' then
        space
        let setting ← value implicit (levels - 1) fuel
        let _ ← comma
        expect ')'
        return setting
      else
        guard implicit
        value implicit (levels - 1) fuel
    else if ← skipsName "None" then return .nothing
    else if ← skipsWord "()" then return .nothing
    else if ← skipsName "inf" then return .float (1.0 / 0.0)
    else if ← skipsName "-inf" then return .float (-1.0 / 0.0)
    else if ← skipsName "NaN" then return .float (0.0 / 0.0)
    else if let some (_, rest) := name? chars then
      set rest
      space
      if ← skips '(' then members implicit levels fuel else return .nothing
    else if ← skips '(' then members implicit levels fuel
    else if ← skips '[' then
      guard (0 < levels)
      return .list (← items implicit (levels - 1) ']' fuel)
    else if ← skips '\x7b' then
      guard (0 < levels)
      return .table (← entries implicit (levels - 1) [] fuel)
    else if ← skips '\'' then return .text (String.ofList [← character])
    else if chars.head?.any fun c => c == '"' || c == 'r' then return .text (← string)
    else if chars.head? == some '.' then float
    else number
termination_by structural fuel => fuel

/-- Reads the fields of a struct or the items of a tuple, behind the opening bracket. -/
def members (implicit : Bool) (levels : Nat) : Nat → Reader Setting
  | 0 => failure
  | fuel + 1 => do
    guard (0 < levels)
    space
    if beginsField (← get) then return .table (← fields implicit (levels - 1) [] fuel)
    else return .list (← items implicit (levels - 1) ')' fuel)
termination_by structural fuel => fuel

/-- Reads items up to their closing bracket. -/
def items (implicit : Bool) (levels : Nat) (close : Char) : Nat → Reader (List Setting)
  | 0 => failure
  | fuel + 1 => do
    space
    if ← skips close then return []
    guard (0 < levels)
    let item ← value implicit (levels - 1) fuel
    if ← comma then return item :: (← items implicit levels close fuel)
    expect close
    return [item]
termination_by structural fuel => fuel

/-- Reads the fields of a struct up to its closing bracket. The last value of a field counts. -/
def fields (implicit : Bool) (levels : Nat) (found : Layer) : Nat → Reader Layer
  | 0 => failure
  | fuel + 1 => do
    space
    if ← skips ')' then return found
    guard (0 < levels)
    let name ← name
    space
    expect ':'
    space
    let found := found.put name (← value implicit (levels - 1) fuel)
    if ← comma then return ← fields implicit levels found fuel
    expect ')'
    return found
termination_by structural fuel => fuel

/-- Reads the entries of a map up to its closing brace. The last value of a key counts. -/
def entries (implicit : Bool) (levels : Nat) (found : Layer) : Nat → Reader Layer
  | 0 => failure
  | fuel + 1 => do
    space
    if ← skips '\x7d' then return found
    guard (0 < levels)
    let key ← keyText? (← value implicit (levels - 1) fuel)
    space
    expect ':'
    space
    let found := found.put key (← value implicit (levels - 1) fuel)
    if ← comma then return ← entries implicit levels found fuel
    expect '\x7d'
    return found
termination_by structural fuel => fuel

end

/-! ## Texts -/

/-- The names of extensions to the notation. Only the second one changes what a text stands for. -/
def extensions : List String := ["unwrap_newtypes", "implicit_some", "unwrap_variant_newtypes"]

/-- Reads the names of extensions in a header up to its closing brackets, and says whether options
may stand without their brackets. -/
def extensionNames : Nat → Reader Bool
  | 0 => failure
  | fuel + 1 => do
    let name ← name
    guard (extensions.contains name)
    if (← comma) && (← get).head?.any continuesName then
      return (← extensionNames fuel) || name == "implicit_some"
    expect ')'
    space
    expect ']'
    return name == "implicit_some"

/-- Reads the headers in front of the value, and says whether options may stand without their
brackets. -/
def headers : Nat → Reader Bool
  | 0 => return false
  | fuel + 1 => do
    space
    if (← get).head? != some '#' then return false
    for word in ["#", "!", "[", "enable", "("] do
      guard (← skipsWord word)
      space
    return (← extensionNames fuel) || (← headers fuel)

/-- The setting that a text stands for; none if it is malformed. -/
def parse? (text : String) : Option Setting := do
  let chars := text.toList
  let read : Reader Setting := do
    let implicit ← headers (chars.length + 1)
    let setting ← value implicit levelLimit (2 * chars.length + 2)
    space
    return setting
  let (setting, rest) ← read.run chars
  guard rest.isEmpty
  return setting

end DecisionFlow.Ron
