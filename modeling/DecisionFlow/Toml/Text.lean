import DecisionFlow.Unicode.RangeSet

/-!
# Strings and keys in TOML text

- `Toml.Reader`: reads a prefix of the characters; none if they are malformed.
- `Toml.string`: a string in one of its four forms.
- `Toml.key`: names with dots between them.
-/

namespace DecisionFlow.Toml

/-- A reader of a prefix of the characters. It yields what it read, and leaves the rest. -/
abbrev Reader := StateT (List Char) Option

/-- Whether a character may stand in comments and strings. -/
def isText (c : Char) : Bool := c == '\t' || (' ' ≤ c && c != '\x7f')

/-- Whether a character is a blank. -/
def isBlank (c : Char) : Bool := c == ' ' || c == '\t'

/-- Passes over blanks. -/
def blanks : Reader Unit := modify (·.dropWhile isBlank)

/-- The rest of the characters if these begin with a line break. -/
def afterBreak? : List Char → Option (List Char)
  | '\n' :: rest => some rest
  | '\r' :: '\n' :: rest => some rest
  | _ => none

/-- Passes over exactly these characters. -/
def exactly (expected : List Char) : Reader Unit := do
  let chars ← get
  guard (expected.isPrefixOf chars)
  set (chars.drop expected.length)

/-! ## Strings -/

/-- The character of an escape by code, and the rest. -/
def escapedCode? (length : Nat) (chars : List Char) : Option (Char × List Char) :=
  let digits := chars.take length
  let code := Unicode.hexValue digits
  if digits.length < length || !digits.all fun c => (Unicode.hexDigit? c).isSome then none
  else if h : code.isValidChar then some (Char.ofNatAux code h, chars.drop length)
  else none

/-- The character of an escape, after its backslash, and the rest. -/
def escaped? : List Char → Option (Char × List Char)
  | 'b' :: rest => some ('\x08', rest)
  | 'f' :: rest => some ('\x0c', rest)
  | 'n' :: rest => some ('\n', rest)
  | 'r' :: rest => some ('\r', rest)
  | 't' :: rest => some ('\t', rest)
  | '\\' :: rest => some ('\\', rest)
  | '"' :: rest => some ('"', rest)
  | 'u' :: rest => escapedCode? 4 rest
  | 'U' :: rest => escapedCode? 8 rest
  | _ => none

/-- The rest behind a line break that a backslash takes away, with the blanks around it and the
empty lines behind it. -/
def afterContinuation? (chars : List Char) : Option (List Char) := do
  let rest ← afterBreak? (chars.dropWhile isBlank)
  return passSpace rest.length rest
where
  /-- Passes over blanks and line breaks, at most `fuel` of them. -/
  passSpace : Nat → List Char → List Char
  | 0, chars => chars
  | fuel + 1, chars =>
    match chars with
    | c :: rest =>
      if isBlank c then passSpace fuel rest
      else
        match afterBreak? chars with
        | some rest => passSpace fuel rest
        | none => chars
    | [] => []

/-- Reads a string of one line after its opening quote, at most `fuel` characters. -/
def lineBody (quote : Char) : Nat → Reader (List Char)
  | 0 => failure
  | fuel + 1 => do
    match ← get with
    | [] => failure
    | c :: rest =>
      if c == quote then
        set rest
        return []
      else if c == '\\' && quote == '"' then
        let (c, rest) ← escaped? rest
        set rest
        return c :: (← lineBody quote fuel)
      else
        guard (isText c)
        set rest
        return c :: (← lineBody quote fuel)

/-- Reads a string of several lines after its opening quotes. At the end up to two more quotes
belong to the string. -/
def linesBody (quote : Char) : Nat → Reader (List Char)
  | 0 => failure
  | fuel + 1 => do
    let chars ← get
    let quotes := (chars.takeWhile (· == quote)).length
    if 3 ≤ quotes then
      let inside := min (quotes - 3) 2
      set (chars.drop (inside + 3))
      return List.replicate inside quote
    else
      match chars with
      | [] => failure
      | c :: rest =>
        if let some rest := afterBreak? chars then
          set rest
          return '\n' :: (← linesBody quote fuel)
        else if c == '\\' && quote == '"' then
          if let some rest := afterContinuation? rest then
            set rest
            linesBody quote fuel
          else
            let (c, rest) ← escaped? rest
            set rest
            return c :: (← linesBody quote fuel)
        else
          guard (isText c)
          set rest
          return c :: (← linesBody quote fuel)

/-- Reads a string that stands between one quote of a kind and the next. -/
def lineString (quote : Char) : Reader String := do
  exactly [quote]
  return String.ofList (← lineBody quote ((← get).length + 1))

/-- Reads a string in any of its forms. A line break directly behind three opening quotes does not
count. -/
def string (quote : Char) : Reader String := do
  if [quote, quote, quote].isPrefixOf (← get) then
    exactly [quote, quote, quote]
    let chars ← get
    set ((afterBreak? chars).getD chars)
    return String.ofList (← linesBody quote (chars.length + 1))
  else lineString quote

/-! ## Keys -/

/-- Whether a character may stand in a name without quotes. -/
def isBare (c : Char) : Bool := c.isAlphanum || c == '_' || c == '-'

/-- Reads a name, in quotes or without. -/
def name : Reader String := do
  match ← get with
  | '"' :: _ => lineString '"'
  | '\'' :: _ => lineString '\''
  | chars =>
    let bare := chars.takeWhile isBare
    guard !bare.isEmpty
    set (chars.drop bare.length)
    return String.ofList bare

/-- How many names a key may have. -/
def keyLimit : Nat := 79

/-- Reads names with dots between them, at most `fuel`. Blanks may stand around each name. -/
def names : Nat → Reader (List String)
  | 0 => failure
  | fuel + 1 => do
    blanks
    let first ← name
    blanks
    match ← get with
    | '.' :: rest =>
      set rest
      return first :: (← names fuel)
    | _ => return [first]

/-- Reads a key: the names before the last one, and the last one. -/
def key : Reader (List String × String) := do
  let all ← names keyLimit
  return (all.dropLast, ← all.getLast?)

end DecisionFlow.Toml
