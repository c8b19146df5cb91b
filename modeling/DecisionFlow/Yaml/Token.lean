import DecisionFlow.Yaml.Text

/-!
# Tokens of YAML

The text of a document as tokens. Indentation becomes tokens that open and close blocks. That a
scalar or a bracket was a key shows only when the colon behind it is met, so the scanner marks the
places where a key may begin and puts the tokens of keys in at the end.

- `Yaml.Token`.
- `Yaml.Scanner`: a text that has been scanned up to some place, and the tokens that need no reading
  of their own: marks, brackets, indentation and keys.
-/

namespace DecisionFlow.Yaml

/-- A token of a document. -/
inductive Token where
  /-- The version that a document is written for. -/
  | version (major minor : Nat)
  /-- The meaning of the handle of a tag. -/
  | tagHandle (handle meaning : String)
  | documentStart
  | documentEnd
  | streamEnd
  | blockSequenceStart
  | blockMappingStart
  | blockEnd
  | flowSequenceStart
  | flowSequenceEnd
  | flowMappingStart
  | flowMappingEnd
  | blockEntry
  | flowEntry
  | key
  | value
  | alias (name : String)
  | anchor (name : String)
  | tag (handle suffix : String)
  | scalar (text : String) (plain : Bool)
deriving DecidableEq, Repr

/-- A place where a key may begin. -/
structure KeyPlace where
  /-- The number of the place. -/
  number : Nat
  /-- Whether nothing else but a key may stand here. -/
  required : Bool
  start : Cursor

/-- A token, or a numbered place in front of the next one. -/
inductive Entry where
  | token (t : Token)
  | place (number : Nat)

/-- A text that has been scanned up to a place. -/
structure Scanner where
  cursor : Cursor
  /-- What has been found, latest first. -/
  entries : List Entry := []
  /-- The places where the key at hand may have begun, for each level of brackets, innermost first;
  the last one is for the text outside brackets. -/
  keys : List (Option KeyPlace) := [none]
  /-- How many places have been marked. -/
  places : Nat := 0
  /-- The places where keys began, and whether the key opened a block. -/
  found : List (Nat × Bool) := []
  /-- The column of the innermost block, and those of the blocks around it. -/
  indent : Int := -1
  indents : List Int := []
  /-- Whether a key may begin here. -/
  keyAllowed : Bool := true

/-- A step of the scanner; none for a malformed text. -/
abbrev Scan := StateT Scanner Option

namespace Scanner

/-- Whether the place is inside brackets. -/
def inBrackets (s : Scanner) : Bool := 1 < s.keys.length

/-- Adds a token. -/
def emit (t : Token) : Scan Unit := modify fun s => { s with entries := .token t :: s.entries }

/-- Passes over characters. -/
def skip (n : Nat) : Scan Unit := modify fun s => { s with cursor := s.cursor.skip n }

/-- Goes to a place further on. -/
def goTo (p : Cursor) : Scan Unit := modify fun s => { s with cursor := p }

/-- Sets whether a key may begin at the next token. -/
def allowKey (allowed : Bool) : Scan Unit := modify fun s => { s with keyAllowed := allowed }

/-! ## Indentation -/

/-- Closes the blocks right of a column. -/
def closeBlocks (column : Int) : List Int → Scanner → Scanner
  | [], s => s
  | outer :: others, s =>
    if column < s.indent then
      closeBlocks column others
        { s with entries := .token .blockEnd :: s.entries, indent := outer, indents := others }
    else s

/-- Closes the blocks right of a column, outside brackets. -/
def unindent (column : Int) : Scan Unit := modify fun s =>
  if s.inBrackets then s else closeBlocks column s.indents s

/-- Whether a block opens at a column. -/
def opensBlock (s : Scanner) (column : Nat) : Bool := !s.inBrackets && s.indent < column

/-- Goes into a block at a column, if one opens there. -/
def indentTo (column : Nat) : Scan Unit := modify fun s =>
  if s.opensBlock column then { s with indent := column, indents := s.indent :: s.indents } else s

/-- Opens a block at a column if needed, with a token in front. -/
def openBlock (t : Token) : Scan Unit := do
  let s ← get
  if s.opensBlock s.cursor.column then emit t
  indentTo s.cursor.column

/-! ## Keys -/

/-- Gives up a place where a key may have begun, unless nothing else may stand there. -/
def giveUp : Option KeyPlace → Option (Option KeyPlace)
  | some key => if key.required then none else some none
  | none => some none

/-- Gives up the places that are too far back: a key stays on its line and is no longer than 1024
bytes. -/
def dropStaleKeys : Scan Unit := do
  let s ← get
  let keys ← s.keys.mapM fun key =>
    match key with
    | some k =>
      if k.start.line < s.cursor.line || k.start.index + 1024 < s.cursor.index then giveUp key
      else some key
    | none => some none
  set { s with keys }

/-- Gives up the place at the innermost level. -/
def dropKey : Scan Unit := do
  let s ← get
  match s.keys with
  | [] => return
  | key :: outer => set { s with keys := (← giveUp key) :: outer }

/-- Marks the place, if a key may begin here. -/
def markKey : Scan Unit := do
  if (← get).keyAllowed then
    dropKey
    modify fun s =>
      let required := !s.inBrackets && s.indent == (s.cursor.column : Int)
      { s with
        entries := .place s.places :: s.entries
        keys := some ⟨s.places, required, s.cursor⟩ :: s.keys.drop 1
        places := s.places + 1 }

/-! ## Collections -/

/-- Opens brackets. -/
def openBrackets (t : Token) : Scan Unit := do
  markKey
  modify fun s => { s with keys := none :: s.keys, keyAllowed := true }
  skip 1
  emit t

/-- Closes brackets. -/
def closeBrackets (t : Token) : Scan Unit := do
  dropKey
  modify fun s =>
    { s with keys := if s.inBrackets then s.keys.drop 1 else s.keys, keyAllowed := false }
  skip 1
  emit t

/-- A comma between brackets. -/
def flowEntry : Scan Unit := do
  dropKey
  allowKey true
  skip 1
  emit .flowEntry

/-- The hyphen in front of an item. -/
def blockEntry : Scan Unit := do
  let s ← get
  if !s.inBrackets then
    guard s.keyAllowed
    openBlock .blockSequenceStart
  dropKey
  allowKey true
  skip 1
  emit .blockEntry

/-- The question mark in front of a key. -/
def explicitKey : Scan Unit := do
  let s ← get
  if !s.inBrackets then
    guard s.keyAllowed
    openBlock .blockMappingStart
  dropKey
  allowKey (!s.inBrackets)
  skip 1
  emit .key

/-- The colon behind a key. -/
def value : Scan Unit := do
  let s ← get
  match s.keys with
  | some key :: outer =>
    let column := key.start.column
    set { s with found := (key.number, s.opensBlock column) :: s.found, keys := none :: outer }
    indentTo column
    allowKey false
  | _ =>
    if !s.inBrackets then
      guard s.keyAllowed
      openBlock .blockMappingStart
    allowKey (!s.inBrackets)
  skip 1
  emit .value

/-! ## Documents -/

/-- A line that parts documents. -/
def documentMark (t : Token) : Scan Unit := do
  unindent (-1)
  dropKey
  allowKey false
  skip 3
  emit t

/-- The end of the text. -/
def streamEnd : Scan Unit := do
  unindent (-1)
  dropKey
  allowKey false
  emit .streamEnd

/-- Takes the characters that pass a test. -/
def taking (test : Char → Bool) : Scan String := do
  let p := (← get).cursor
  goTo (p.dropWhile test)
  return String.ofList (p.takeWhile test)

/-- Skips a given character. -/
def expect (c : Char) : Scan Unit := do
  guard ((← get).cursor.rest.head? == some c)
  skip 1

/-- Fails unless spacing comes next, or nothing. -/
def expectSpacing : Scan Unit := do
  guard (spacingNext (← get).cursor.rest)

end Scanner

end DecisionFlow.Yaml
