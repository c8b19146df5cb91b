import DecisionFlow.Yaml.Token

/-!
# Reading YAML settings

The YAML of settings files is laxer than that of documents: any character may stand in a text, lines
end at carriage returns and line feeds only, and tabs may stand where they do not indent a block.

- `SettingsYaml.Cursor`: a place in a text, with what follows.
- `SettingsYaml.Reader`: a text whose tokens have been read up to some place.
- `SettingsYaml.toNextToken`, `SettingsYaml.toLineEnd`: passing over what is no token.
-/

namespace DecisionFlow.SettingsYaml

open Yaml (Token isBlank)

/-- Whether the next character is a space or a tab, or the line ends. -/
def spacingNext : List Char → Bool
  | [] => true
  | c :: _ => isBlank c || c == '\n'

/-- Whether the line ends here. -/
def lineOver (chars : List Char) : Bool := chars.isEmpty || chars.head? == some '\n'

/-- Whether a character separates or closes what stands between brackets. -/
def isFlowMark (c : Char) : Bool := [',', '[', ']', '{', '}'].contains c

/-- The characters up to the first null character, with line feeds in the place of carriage returns
and of pairs of both. -/
def unifyBreaks : List Char → List Char
  | [] | '\x00' :: _ => []
  | '\r' :: '\n' :: rest => '\n' :: unifyBreaks rest
  | c :: rest => (if c == '\r' then '\n' else c) :: unifyBreaks rest

/-- A place in a text. -/
structure Cursor where
  /-- What follows. -/
  rest : List Char
  line : Nat := 0
  column : Nat := 0
  /-- How many characters come before. -/
  index : Nat := 0
  /-- Whether only blanks stand in front of it on its line. -/
  inMargin : Bool := true

namespace Cursor

/-- Behind the next character. -/
def next (p : Cursor) : Cursor :=
  match p.rest with
  | [] => p
  | c :: rest =>
    if c == '\n' then ⟨rest, p.line + 1, 0, p.index + 1, true⟩
    else ⟨rest, p.line, p.column + 1, p.index + 1, p.inMargin && isBlank c⟩

/-- Behind the next `n` characters. -/
def skip : Nat → Cursor → Cursor
  | 0, p => p
  | n + 1, p => skip n p.next

/-- The characters up to the first that fails a test. -/
def takeWhile (p : Cursor) (test : Char → Bool) : List Char := p.rest.takeWhile test

/-- Behind the characters up to the first that fails a test. -/
def dropWhile (p : Cursor) (test : Char → Bool) : Cursor := p.skip (p.takeWhile test).length

/-- Whether a line begins here with a mark of three characters as a word of its own. -/
def atMark (p : Cursor) (mark : List Char) : Bool :=
  p.column == 0 && mark.isPrefixOf p.rest && spacingNext (p.rest.drop 3)

/-- Whether a line begins here that parts documents. -/
def atDocumentMark (p : Cursor) : Bool := p.atMark ['-', '-', '-'] || p.atMark ['.', '.', '.']

/-- Behind the blanks, and perhaps a comment, up to the end of the line. A comment needs a blank in
front of it. Besides the place, it tells whether a tab was passed and whether a space was. -/
def toLineEnd? (p : Cursor) (tabs : Bool) : Option (Cursor × Bool × Bool) :=
  let blanks := p.takeWhile fun c => c == ' ' || tabs && c == '\t'
  let p := p.skip blanks.length
  if p.rest.head? == some '#' then
    if blanks.isEmpty then none
    else some (p.dropWhile (· != '\n'), blanks.contains '\t', blanks.contains ' ')
  else some (p, blanks.contains '\t', blanks.contains ' ')

end Cursor

/-- A place where a key may begin. -/
structure KeyPlace where
  /-- The number of the place. -/
  number : Nat
  /-- Whether nothing else but a key may stand here. -/
  required : Bool
  start : Cursor

/-- A token, or a numbered place in front of the next one. -/
inductive Entry where
  /-- Of an anchor or a tag it counts whether it begins a line. -/
  | token (t : Token) (beginsLine : Bool)
  | place (number : Nat)

/-- A column that text is indented by. -/
structure Indent where
  /-- The column around it. -/
  outer : Int
  /-- Whether a block stands at the column. Otherwise text is only kept right of it. -/
  isBlock : Bool

/-- A text whose tokens have been read up to a place. -/
structure Reader where
  cursor : Cursor
  /-- What has been found, latest first. -/
  entries : List Entry := []
  /-- The places where the key at hand may have begun, for each level of brackets, innermost first;
  the last one is for the text outside brackets. -/
  keys : List (Option KeyPlace) := [none]
  /-- How many places have been marked. -/
  places : Nat := 0
  /-- The places where keys began, with the tokens in front of the key. -/
  found : List (Nat × List Token) := []
  /-- The innermost column of indentation, and those around it. -/
  indent : Int := -1
  indents : List Indent := []
  /-- Whether a key may begin here. -/
  keyAllowed : Bool := true
  /-- The place behind a quoted key or a closed bracket, where a colon needs no blank behind it. -/
  colonPlace : Nat := 0
  /-- Whether entries of a mapping between brackets have begun. -/
  inFlowMapping : Bool := false
  /-- Whether an item between brackets is the only entry of a mapping that has no
  brackets itself. -/
  inSinglePair : Bool := false

/-- A step of the reader; none for a malformed text. -/
abbrev Read := StateT Reader Option

/-- Whether the place is between brackets. -/
def Reader.inBrackets (s : Reader) : Bool := 1 < s.keys.length

/-- Goes to a place further on. -/
def goTo (p : Cursor) : Read Unit := modify fun s => { s with cursor := p }

/-- Passes over characters. -/
def skip (n : Nat) : Read Unit := modify fun s => { s with cursor := s.cursor.skip n }

/-- Sets whether a key may begin at the next token. -/
def allowKey (allowed : Bool) : Read Unit := modify fun s => { s with keyAllowed := allowed }

/-- Adds a token. -/
def emit (t : Token) : Read Unit :=
  modify fun s => { s with entries := .token t false :: s.entries }

/-- Adds an anchor or a tag that begins at a place. -/
def emitProperty (start : Cursor) (t : Token) : Read Unit :=
  modify fun s => { s with entries := .token t (start.column == 0) :: s.entries }

/-- Passes over the rest of the line, which holds nothing but blanks and a comment. -/
def toLineEnd : Read Unit := do
  let (p, _) ← (← get).cursor.toLineEnd? true
  goTo p

/-- Passes over blanks, comments and line breaks in front of a token. A tab left of a block stands
on a line without a token. -/
def toNextToken : Nat → Read Unit
  | 0 => failure
  | fuel + 1 => do
    let s ← get
    match s.cursor.rest with
    | '\t' :: _ =>
      if !s.indents.isEmpty && s.cursor.inMargin && (s.cursor.column : Int) < s.indent then
        toLineEnd
        guard (lineOver (← get).cursor.rest)
      else skip 1
      toNextToken fuel
    | ' ' :: _ =>
      skip 1
      toNextToken fuel
    | '\n' :: _ =>
      skip 1
      if !s.inBrackets then allowKey true
      toNextToken fuel
    | '#' :: _ =>
      goTo (s.cursor.dropWhile (· != '\n'))
      toNextToken fuel
    | _ => return

end DecisionFlow.SettingsYaml
