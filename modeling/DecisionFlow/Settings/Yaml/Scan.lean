import DecisionFlow.Settings.Yaml.Scalar
import DecisionFlow.Text.Numeral

/-!
# Scanning YAML settings

- `SettingsYaml.closeColumns`, `SettingsYaml.openBlock`, `SettingsYaml.pushColumn`: indentation.
- `SettingsYaml.markKey`, `SettingsYaml.value`: the places where keys began.
- `SettingsYaml.step`: the next token.
- `SettingsYaml.tokens?`: the tokens of a text.
-/

namespace DecisionFlow.SettingsYaml

open Yaml (Token isBlank)

/-! ## Indentation -/

/-- Closes the columns right of a column, innermost first. -/
def closeColumns (column : Int) : List Indent → Reader → Reader
  | [], s => s
  | innermost :: others, s =>
    if column < s.indent then
      let entries := if innermost.isBlock then .token .blockEnd false :: s.entries else s.entries
      closeColumns column others { s with entries, indent := innermost.outer, indents := others }
    else s

/-- Closes the blocks right of a column, outside brackets. -/
def unindent (column : Int) : Read Unit := modify fun s =>
  if s.inBrackets then s else closeColumns column s.indents s

/-- Drops the innermost columns that are not those of blocks. -/
def dropColumns : List Indent → Reader → Reader
  | [], s => s
  | innermost :: others, s =>
    if innermost.isBlock then s
    else dropColumns others { s with indent := innermost.outer, indents := others }

/-- Keeps what follows right of the innermost block, outside brackets. -/
def pushColumn : Read Unit := modify fun s =>
  if !s.inBrackets && s.indents.head?.any (·.isBlock) then
    { s with indent := s.indent + 1, indents := ⟨s.indent, false⟩ :: s.indents }
  else s

/-- Goes into a block at a column, outside brackets, and says whether the block opens there. -/
def indentTo (column : Nat) : Read Bool := do
  let s ← get
  if s.inBrackets then return false
  let s := match s.indents with
    | innermost :: others =>
      if s.indent ≤ (column : Int) && !innermost.isBlock then
        { s with indent := innermost.outer, indents := others }
      else s
    | [] => s
  if s.indent < (column : Int) then
    set { s with indent := (column : Int), indents := ⟨s.indent, true⟩ :: s.indents }
    return true
  else
    set s
    return false

/-- Goes into a block at a column, with a token in front if the block opens there. -/
def openBlock (column : Nat) (t : Token) : Read Unit := do
  if ← indentTo column then emit t

/-! ## Keys -/

/-- Gives up a place where a key may have begun, unless nothing else may stand there. -/
def giveUp : Option KeyPlace → Option (Option KeyPlace)
  | some key => if key.required then none else some none
  | none => some none

/-- Gives up the places that are too far back: outside brackets a key stays on its line and is no
longer than 1024 characters. -/
def dropStaleKeys : Read Unit := do
  let s ← get
  let keys ← s.keys.mapM fun key =>
    match key with
    | some k =>
      if !s.inBrackets &&
        (k.start.line < s.cursor.line || k.start.index + 1024 < s.cursor.index) then
        giveUp key
      else some key
    | none => some none
  set { s with keys }

/-- Gives up the place at the innermost level. -/
def dropKey : Read Unit := do
  let s ← get
  match s.keys with
  | [] => return
  | key :: outer => set { s with keys := (← giveUp key) :: outer }

/-- Marks the place, if a key may begin here. -/
def markKey : Read Unit := modify fun s =>
  if s.keyAllowed then
    let required := !s.inBrackets && s.indent == (s.cursor.column : Int)
      && s.indents.head?.any (·.isBlock)
    { s with
      entries := .place s.places :: s.entries
      keys := some ⟨s.places, required, s.cursor⟩ :: s.keys.drop 1
      places := s.places + 1 }
  else s

/-! ## Collections -/

/-- Ends a mapping that is a single pair between brackets. -/
def endSinglePair : Read Unit := do
  if (← get).inSinglePair then
    modify fun s => { s with inSinglePair := false, inFlowMapping := false }
    emit .flowMappingEnd

/-- Opens brackets. -/
def openBrackets (t : Token) : Read Unit := do
  markKey
  pushColumn
  modify fun s =>
    { s with
      keys := none :: s.keys
      keyAllowed := true
      inFlowMapping := s.inFlowMapping || t == .flowMappingStart }
  guard ((← get).keys.length ≤ 256)
  skip 1
  toLineEnd
  emit t

/-- Closes brackets. -/
def closeBrackets (t : Token) : Read Unit := do
  dropKey
  modify fun s =>
    { s with keys := if s.inBrackets then s.keys.drop 1 else s.keys, keyAllowed := false }
  endSinglePair
  skip 1
  toLineEnd
  modify fun s => if s.inBrackets then { s with colonPlace := s.cursor.index } else s
  emit t

/-- A comma between brackets. -/
def flowEntry : Read Unit := do
  dropKey
  allowKey true
  endSinglePair
  skip 1
  toLineEnd
  emit .flowEntry

/-- Whether the last token is an anchor or a tag that begins a line. -/
def followsMargin (s : Reader) : Bool :=
  match s.entries with
  | .token _ beginsLine :: _ => beginsLine
  | _ => false

/-- The hyphen in front of an item. -/
def blockEntry : Read Unit := do
  let s ← get
  guard (!s.inBrackets && s.keyAllowed)
  guard !(followsMargin s && s.cursor.column == 0 && -1 < s.indent)
  skip 1
  openBlock s.cursor.column .blockSequenceStart
  let (p, tabbed, _) ← (← get).cursor.toLineEnd? true
  goTo p
  guard !(tabbed && p.rest.head? == some '-' && spacingNext (p.rest.drop 1))
  if p.rest.head?.any fun c => c == '\n' || isFlowMark c then pushColumn
  dropKey
  allowKey true
  emit .blockEntry

/-- Passes over spaces, line breaks and comments, of which there has to be one, up to something else
than a tab. -/
def spaced (needed : Bool) : Nat → Read Unit
  | 0 => failure
  | fuel + 1 => do
    let s ← get
    match s.cursor.rest with
    | ' ' :: _ =>
      skip 1
      spaced false fuel
    | '\n' :: _ =>
      skip 1
      if !s.inBrackets then allowKey true
      spaced false fuel
    | '#' :: _ =>
      goTo (s.cursor.dropWhile (· != '\n'))
      spaced needed fuel
    | '\t' :: _ => failure
    | _ => guard !needed

/-- The question mark in front of a key. -/
def explicitKey : Read Unit := do
  let s ← get
  if s.inBrackets then set { s with inFlowMapping := true }
  else
    guard s.keyAllowed
    openBlock s.cursor.column .blockMappingStart
  dropKey
  allowKey !s.inBrackets
  skip 1
  spaced true ((← get).cursor.rest.length + 1)
  emit .key

/-- The colon behind a key. Between brackets that hold no entries of a mapping, the pair is a
mapping of its own. -/
def value : Read Unit := do
  let s ← get
  let single := s.inBrackets && !s.inFlowMapping
  if single then set { s with inSinglePair := true }
  skip 1
  if (← get).cursor.rest.head? == some '\t' then
    let (p, _, spaced) ← (← get).cursor.toLineEnd? true
    goTo p
    guard (spaced || !p.rest.head?.any fun c => c == '-' || Yaml.isNameChar c)
  match s.keys with
  | some key :: outer =>
    guard !(single && key.start.line < s.cursor.line)
    let opens ← indentTo key.start.column
    let tokens :=
      if opens then [Token.blockMappingStart] else if single then [.flowMappingStart] else []
    modify fun s => { s with found := (key.number, tokens) :: s.found, keys := none :: outer }
    pushColumn
    allowKey false
  | _ =>
    if single then emit .flowMappingStart
    if !s.inBrackets then
      guard s.keyAllowed
      openBlock s.cursor.column .blockMappingStart
    pushColumn
    allowKey !s.inBrackets
  emit .value

/-! ## Tags and directives -/

/-- Whether a character may stand in a tag between angle brackets. -/
def isAddressChar (c : Char) : Bool :=
  c.isAlphanum || c == '-' || "#;/?:@&=+$,_.!~*'()[]%".toList.contains c

/-- Whether a character may stand in a tag. -/
def isTagChar (c : Char) : Bool := isAddressChar c && !isFlowMark c && c != '!'

/-- The byte that is written as a percent sign and two hexadecimal digits at the front. -/
def percentByte? : List Char → Option Nat
  | '%' :: high :: low :: _ => do
    return 16 * (← Unicode.hexDigit? high) + (← Unicode.hexDigit? low)
  | _ => none

/-- Reads a character that is written as percent signs with its bytes. Its code is that of the bytes
put together as they are. -/
def percentChar : Read Char := do
  let p := (← get).cursor
  let first ← percentByte? p.rest
  let count ←
    if first < 0x80 then pure 1
    else if first / 0x20 = 6 then pure 2
    else if first / 0x10 = 14 then pure 3
    else if first / 8 = 30 then pure 4
    else failure
  let others ← (List.range (count - 1)).mapM fun n => percentByte? (p.rest.drop (3 * (n + 1)))
  guard (others.all fun byte => byte / 0x40 = 2)
  let code := others.foldl (fun code byte => 256 * code + byte) first
  skip (3 * count)
  if h : code.isValidChar then return Char.ofNatAux code h else failure

/-- Reads the characters of a tag that pass a test. -/
def tagChars (test : Char → Bool) : Nat → Read (List Char)
  | 0 => failure
  | fuel + 1 => do
    match (← get).cursor.rest with
    | c :: _ =>
      if !test c then return []
      else if c == '%' then
        let c ← percentChar
        return c :: (← tagChars test fuel)
      else
        skip 1
        return c :: (← tagChars test fuel)
    | [] => return []

/-- Reads the part of a tag whose characters pass a test. -/
def tagText (test : Char → Bool) : Read String := do
  return String.ofList (← tagChars test ((← get).cursor.rest.length + 1))

/-- Takes the characters that pass a test. -/
def taking (test : Char → Bool) : Read String := do
  let p := (← get).cursor
  goTo (p.dropWhile test)
  return String.ofList (p.takeWhile test)

/-- Skips a given character. -/
def expect (c : Char) : Read Unit := do
  guard ((← get).cursor.rest.head? == some c)
  skip 1

/-- Reads the handle of a tag: a name behind an exclamation mark, and perhaps another mark. -/
def handle : Read String := do
  expect '!'
  let name ← taking Yaml.isNameChar
  if (← get).cursor.rest.head? == some '!' then
    skip 1
    return "!" ++ name ++ "!"
  else return "!" ++ name

/-- Reads a tag. -/
def tag : Read Unit := do
  let start := (← get).cursor
  if start.rest.drop 1 |>.head? |>.any (· == '<') then
    skip 2
    let suffix ← tagText isAddressChar
    expect '>'
    emitProperty start (.tag "" suffix)
  else
    let handle ← handle
    if 1 < handle.length && handle.endsWith "!" then
      let suffix ← tagText isTagChar
      guard (!suffix.isEmpty)
      emitProperty start (.tag handle suffix)
    else
      let suffix := (handle.drop 1).toString ++ (← tagText isTagChar)
      emitProperty start (if suffix.isEmpty then .tag "" "!" else .tag "!" suffix)
  let s ← get
  guard (spacingNext s.cursor.rest || s.inBrackets && s.cursor.rest.head?.any isFlowMark)

/-- Reads a number of at most nine digits. -/
def versionNumber : Read Nat := do
  let digits ← taking Char.isDigit
  guard (digits.length ≤ 9)
  Text.digitsIn? 10 digits.toList

/-- Reads a directive up to the end of its line. Unknown ones count as the meaning of an empty
handle. -/
def directive : Read Unit := do
  skip 1
  let name ← taking Yaml.isNameChar
  guard (!name.isEmpty && spacingNext (← get).cursor.rest)
  match name with
  | "YAML" =>
    let _ ← taking isBlank
    let major ← versionNumber
    expect '.'
    emit (.version major (← versionNumber))
  | "TAG" =>
    let _ ← taking isBlank
    let handle ← handle
    guard (handle == "!" || handle.endsWith "!")
    let _ ← taking isBlank
    guard ((← get).cursor.rest.head?.any fun c => c == '!' || isTagChar c)
    let meaning ← tagText isAddressChar
    guard (spacingNext (← get).cursor.rest)
    emit (.tagHandle handle meaning)
  | _ =>
    let _ ← taking (· != '\n')
    emit (.tagHandle "" "")
  toLineEnd
  guard (lineOver (← get).cursor.rest)
  skip 1

/-! ## Names and scalars -/

/-- Whether a character may stand in the name of an anchor. -/
def isNameChar (c : Char) : Bool := !(isSpacing c || isFlowMark c || c == '\uFEFF')

/-- Reads the name of an anchor or alias, after its sign. -/
def named (start : Cursor) (make : String → Token) : Read Unit := do
  let name ← taking isNameChar
  guard (!name.isEmpty)
  emitProperty start (make name)

/-- Reads a scalar in quotes. -/
def quotedScalar (single : Bool) : Read Unit := do
  markKey
  allowKey false
  let s ← get
  let (text, p) ← quoted? single s.inBrackets s.indent s.cursor.next
  goTo p
  toNextToken (p.rest.length + 1)
  modify fun s => { s with colonPlace := s.cursor.index }
  emit (.scalar text false)

/-- Reads a plain scalar. -/
def plainScalar : Read Unit := do
  markKey
  allowKey false
  modify fun s => dropColumns s.indents s
  let s ← get
  guard !(s.inBrackets && (s.cursor.column : Int) < s.indent + 1)
  let (text, p, broken) ←
    plain? s.inBrackets (s.indent + 1) (s.cursor.rest.length + 1) [] [] s.cursor
  guard (!text.isEmpty)
  goTo p
  emit (.scalar text true)
  if broken then allowKey true

/-- Reads a block scalar. -/
def blockScalar (literal : Bool) : Read Unit := do
  markKey
  allowKey true
  modify fun s => dropColumns s.indents s
  let s ← get
  let (text, p) ← block? literal s.indent s.cursor.next
  goTo p
  emit (.scalar text false)

/-! ## Documents -/

/-- A line that parts documents. -/
def documentMark (t : Token) : Read Unit := do
  unindent (-1)
  dropKey
  allowKey false
  skip 3
  emit t

/-- The line that ends a document. Nothing else stands on it. -/
def documentEnd : Read Unit := do
  documentMark .documentEnd
  toLineEnd
  guard (lineOver (← get).cursor.rest)

/-- The end of the text. -/
def streamEnd : Read Unit := do
  let keys : List (Option KeyPlace) ← ((← get).keys.mapM giveUp : Option _)
  modify fun s => { s with keys }
  unindent (-1)
  allowKey false
  emit .streamEnd

/-! ## The next token -/

/-- Reads the next token. -/
def step : Read Unit := do
  toNextToken ((← get).cursor.rest.length + 1)
  dropStaleKeys
  unindent (← get).cursor.column
  let s ← get
  let p := s.cursor
  match p.rest with
  | [] => streamEnd
  | c :: rest =>
    if p.column == 0 && c == '%' then
      unindent (-1)
      dropKey
      allowKey false
      directive
    else if p.atMark ['-', '-', '-'] then documentMark .documentStart
    else if p.atMark ['.', '.', '.'] then documentEnd
    else if (p.column : Int) < s.indent then failure
    else if c == '[' then openBrackets .flowSequenceStart
    else if c == '{' then openBrackets .flowMappingStart
    else if c == ']' then closeBrackets .flowSequenceEnd
    else if c == '}' then closeBrackets .flowMappingEnd
    else if c == ',' then flowEntry
    else if c == '-' && spacingNext rest then blockEntry
    else if c == '?' && spacingNext rest then explicitKey
    else if c == ':' && (spacingNext rest
        || s.inBrackets && (rest.head?.any isFlowMark || p.index == s.colonPlace)) then value
    else if c == '*' || c == '&' then
      markKey
      allowKey false
      skip 1
      named p (if c == '*' then .alias else .anchor)
    else if c == '!' then
      markKey
      allowKey false
      tag
    else if c == '|' && !s.inBrackets then blockScalar true
    else if c == '>' && !s.inBrackets then blockScalar false
    else if c == '\'' then quotedScalar true
    else if c == '"' then quotedScalar false
    else if "%@`".toList.contains c then failure
    else plainScalar

/-- Reads all tokens. -/
def toEnd : Nat → Read Unit
  | 0 => failure
  | fuel + 1 => do
    step
    match (← get).entries with
    | .token .streamEnd _ :: _ => return
    | _ => toEnd fuel

/-- The tokens, in order: the places where keys began become tokens. -/
def Reader.tokens (s : Reader) : List Token :=
  s.entries.reverse.flatMap fun entry =>
    match entry with
    | .token t _ => [t]
    | .place number =>
      match s.found.lookup number with
      | some tokens => tokens ++ [.key]
      | none => []

/-- The tokens of a text; none if it is malformed. -/
def tokens? (text : String) : Option (List Token) := do
  let chars := unifyBreaks text.toList
  let (_, s) ← (toEnd (chars.length + 2)).run { cursor := { rest := chars } }
  return s.tokens

end DecisionFlow.SettingsYaml
