import DecisionFlow.Yaml.Scalar
import DecisionFlow.Yaml.Token

/-!
# Scanning YAML text

- `Yaml.Scanner.directive`, `Yaml.Scanner.tag`, `Yaml.Scanner.named`: the tokens with names.
- `Yaml.Scanner.step`: the next token.
- `Yaml.tokens?`: the tokens of a text.
-/

namespace DecisionFlow.Yaml

namespace Scanner

/-! ## Tags and directives -/

/-- Whether a character may stand in a tag. Between angle brackets commas and brackets may, too. -/
def isTagChar (verbatim : Bool) (c : Char) : Bool :=
  isNameChar c || ";/?:@&=+$.!~*'()".toList.contains c || verbatim && [',', '[', ']'].contains c

/-- The bytes that are written as a percent sign and two hexadecimal digits, at the front. -/
def percentBytes : Nat → List Char → List UInt8
  | fuel + 1, '%' :: high :: low :: rest =>
    match Unicode.hexDigit? high, Unicode.hexDigit? low with
    | some h, some l => UInt8.ofNat (16 * h + l) :: percentBytes fuel rest
    | _, _ => []
  | _, _ => []

/-- How many bytes the character takes whose first byte is given. -/
def byteCount? (first : UInt8) : Option Nat :=
  if first < 0x80 then some 1
  else if first &&& 0xe0 == 0xc0 then some 2
  else if first &&& 0xf0 == 0xe0 then some 3
  else if first &&& 0xf8 == 0xf0 then some 4
  else none

/-- Reads the characters of a tag. -/
def tagChars (verbatim : Bool) : Nat → Scan (List Char)
  | 0 => failure
  | fuel + 1 => do
    let p := (← get).cursor
    match p.rest with
    | '%' :: _ =>
      let bytes := percentBytes 4 p.rest
      let count ← bytes.head?.bind byteCount?
      guard (count ≤ bytes.length)
      let text ← String.fromUTF8? (bytes.take count).toByteArray
      skip (3 * count)
      return text.toList ++ (← tagChars verbatim fuel)
    | c :: _ =>
      if isTagChar verbatim c then
        skip 1
        return c :: (← tagChars verbatim fuel)
      else return []
    | [] => return []

/-- Reads the characters of a tag up to its end. -/
def tagRest (verbatim : Bool) : Scan String := do
  return String.ofList (← tagChars verbatim ((← get).cursor.rest.length + 1))

/-- Reads a handle, after its exclamation mark: a name and perhaps another mark. -/
def handle : Scan String := do
  let name ← taking isNameChar
  if (← get).cursor.rest.head? == some '!' then
    skip 1
    return "!" ++ name ++ "!"
  else return "!" ++ name

/-- Reads a tag, after its exclamation mark: a name in angle brackets, or a handle and a suffix. -/
def tag : Scan Unit := do
  if (← get).cursor.rest.head? == some '<' then
    skip 1
    let suffix ← tagRest true
    guard (!suffix.isEmpty)
    expect '>'
    emit (.tag "" suffix)
  else
    let handle ← handle
    if 1 < handle.length && handle.endsWith "!" then
      let suffix ← tagRest false
      guard (!suffix.isEmpty)
      emit (.tag handle suffix)
    else
      let suffix := (handle.drop 1).toString ++ (← tagRest false)
      emit (if suffix.isEmpty then .tag "" "!" else .tag "!" suffix)
  let s ← get
  unless s.inBrackets && s.cursor.rest.head? == some ',' do expectSpacing

/-- Reads a number of at most nine digits. -/
def versionNumber : Scan Nat := do
  let digits ← taking Char.isDigit
  guard (digits.length ≤ 9)
  Text.digitsIn? 10 digits.toList

/-- Reads a directive, after its percent sign, up to the end of its line. -/
def directive : Scan Unit := do
  let name ← taking isNameChar
  expectSpacing
  let _ ← taking isBlank
  match name with
  | "YAML" =>
    let major ← versionNumber
    expect '.'
    emit (.version major (← versionNumber))
  | "TAG" =>
    expect '!'
    let handle ← handle
    guard (handle == "!" || handle.endsWith "!")
    guard ((← get).cursor.rest.head?.any isBlank)
    let _ ← taking isBlank
    let meaning ← tagRest true
    guard (!meaning.isEmpty)
    expectSpacing
    emit (.tagHandle handle meaning)
  | _ => failure
  let _ ← taking isBlank
  if (← get).cursor.rest.head? == some '#' then
    let _ ← taking (!isBreak ·)
  guard ((← get).cursor.rest.head?.all isBreak)
  skip 1

/-! ## Names and scalars -/

/-- Reads the name of an anchor or alias, after its sign. -/
def named (make : String → Token) : Scan Unit := do
  let name ← taking isNameChar
  guard (!name.isEmpty)
  let rest := (← get).cursor.rest
  guard (spacingNext rest || rest.head?.any ['?', ':', ',', ']', '}', '%', '@', '`'].contains)
  emit (make name)

/-- Reads a scalar in quotes. -/
def quotedScalar (single : Bool) : Scan Unit := do
  markKey
  allowKey false
  skip 1
  let p := (← get).cursor
  let (text, p) ← quoted? single (p.rest.length + 1) [] p
  goTo p
  emit (.scalar text false)

/-- Reads a plain scalar. -/
def plainScalar : Scan Unit := do
  markKey
  allowKey false
  let s ← get
  let (text, p, broken) ←
    plain? s.inBrackets (s.indent + 1).toNat (s.cursor.rest.length + 1) [] [] s.cursor
  goTo p
  emit (.scalar text true)
  if broken then allowKey true

/-- Reads a block scalar. -/
def blockScalar (literal : Bool) : Scan Unit := do
  dropKey
  allowKey true
  skip 1
  let s ← get
  let (text, p) ← block? literal s.indent s.cursor
  goTo p
  emit (.scalar text false)

/-! ## The next token -/

/-- Passes over white space, comments and line breaks in front of a token. Tabs count as white space
where no key may begin. -/
def toNextToken : Nat → Scan Unit
  | 0 => failure
  | fuel + 1 => do
    let s ← get
    if s.cursor.column == 0 && s.cursor.rest.head? == some '\uFEFF' then skip 1
    let tabs := s.inBrackets || !s.keyAllowed
    let _ ← taking fun c => c == ' ' || tabs && c == '\t'
    if (← get).cursor.rest.head? == some '#' then
      let _ ← taking (!isBreak ·)
    if (← get).cursor.rest.head?.any isBreak then
      skip 1
      if !s.inBrackets then allowKey true
      toNextToken fuel

/-- Whether a plain scalar may begin with a character, given what follows it. -/
def beginsPlain (inBrackets : Bool) (c : Char) (rest : List Char) : Bool :=
  !isSpacing c && !"-?:,[]{}#&*!|>'\"%@`".toList.contains c
    || c == '-' && !rest.head?.any isBlank
    || !inBrackets && (c == '?' || c == ':') && !spacingNext rest

/-- Reads the next token. -/
def step : Scan Unit := do
  toNextToken ((← get).cursor.rest.length + 1)
  dropStaleKeys
  unindent (← get).cursor.column
  let s ← get
  let p := s.cursor
  match p.rest with
  | [] => streamEnd
  | c :: rest =>
    if p.column == 0 && c == '%' then
      unindent (-1)
      dropKey
      allowKey false
      skip 1
      directive
    else if p.atDocumentMark ['-', '-', '-'] then documentMark .documentStart
    else if p.atDocumentMark ['.', '.', '.'] then documentMark .documentEnd
    else if c == '[' then openBrackets .flowSequenceStart
    else if c == '{' then openBrackets .flowMappingStart
    else if c == ']' then closeBrackets .flowSequenceEnd
    else if c == '}' then closeBrackets .flowMappingEnd
    else if c == ',' then flowEntry
    else if c == '-' && spacingNext rest then blockEntry
    else if c == '?' && (s.inBrackets || spacingNext rest) then explicitKey
    else if c == ':' && (s.inBrackets || spacingNext rest) then value
    else if c == '*' || c == '&' then
      markKey
      allowKey false
      skip 1
      named (if c == '*' then .alias else .anchor)
    else if c == '!' then
      markKey
      allowKey false
      skip 1
      tag
    else if c == '|' && !s.inBrackets then blockScalar true
    else if c == '>' && !s.inBrackets then blockScalar false
    else if c == '\'' then quotedScalar true
    else if c == '"' then quotedScalar false
    else if beginsPlain s.inBrackets c rest then plainScalar
    else failure

/-- Reads all tokens. -/
def toEnd : Nat → Scan Unit
  | 0 => failure
  | fuel + 1 => do
    step
    match (← get).entries with
    | .token .streamEnd :: _ => return
    | _ => toEnd fuel

/-- The tokens, in order: the places where keys began become tokens. -/
def tokens (s : Scanner) : List Token :=
  s.entries.reverse.flatMap fun entry =>
    match entry with
    | .token t => [t]
    | .place number =>
      match s.found.lookup number with
      | some true => [.blockMappingStart, .key]
      | some false => [.key]
      | none => []

end Scanner

/-- The tokens of a text; none if it is malformed. -/
def tokens? (text : String) : Option (List Token) := do
  guard (text.toList.all allowed)
  let chars := unifyBreaks text.toList
  let (_, s) ← (Scanner.toEnd (chars.length + 1)).run { cursor := { rest := chars } }
  return s.tokens

end DecisionFlow.Yaml
