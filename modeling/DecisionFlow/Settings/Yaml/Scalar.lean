import DecisionFlow.Settings.Yaml.Reader
import DecisionFlow.Yaml.Text

/-!
# Scalars in YAML settings

- `SettingsYaml.quoted?`, `SettingsYaml.plain?`, `SettingsYaml.block?`: reading a scalar.
-/

namespace DecisionFlow.SettingsYaml

open Yaml (isBlank Chomping Block)

/-- Whether a character parts words. -/
def isSpacing (c : Char) : Bool := isBlank c || c == '\n'

/-- What the spacing between two words stands for: a single line break for a space, and of several
the first for nothing. After an escaped line break all of them count. -/
def fold (escaped : Bool) (spacing : List Char) : List Char :=
  match escaped, spacing.filter (· == '\n') with
  | true, breaks => breaks
  | false, [] => spacing
  | false, [_] => [' ']
  | false, _ :: breaks => breaks

/-! ## In quotes -/

/-- Whether a tab stands left of a column in spacing, behind a line break. -/
def hasEarlyTab (indent : Int) (broken : Bool) (column : Nat) : List Char → Bool
  | [] => false
  | c :: rest =>
    if c == '\n' then hasEarlyTab indent true 0 rest
    else broken && (column : Int) < indent && c == '\t' ||
      hasEarlyTab indent broken (column + 1) rest

/-- Reads a word of a scalar in quotes, with the text so far in reverse. Besides the text and the
place it tells whether an escaped line break ended the word. -/
def quotedWord? (single : Bool) :
    Nat → List Char → Cursor → Option (List Char × Cursor × Bool)
  | 0, _, _ => none
  | fuel + 1, before, p =>
    match p.rest with
    | [] => some (before, p, false)
    | c :: rest =>
      if isSpacing c then some (before, p, false)
      else if single then
        if c == '\'' then
          if rest.head? == some '\'' then quotedWord? single fuel ('\'' :: before) (p.skip 2)
          else some (before, p, false)
        else quotedWord? single fuel (c :: before) p.next
      else if c == '"' then some (before, p, false)
      else if c == '\\' then
        if rest.head? == some '\n' then some (before, p.skip 2, true)
        else
          match Yaml.readEscape? rest with
          | some (escaped, length) =>
            quotedWord? single fuel (escaped :: before) (p.skip (length + 1))
          | none => none
      else quotedWord? single fuel (c :: before) p.next

/-- Reads a scalar in quotes, after its opening quote, up to its closing one. No line of it begins
left of the indentation. -/
def quotedText? (single : Bool) (indent : Int) :
    Nat → List Char → Cursor → Option (String × Cursor)
  | 0, _, _ => none
  | fuel + 1, before, p => do
    guard (!p.atDocumentMark && !p.rest.isEmpty && indent ≤ p.column)
    let (before, p, escaped) ← quotedWord? single (p.rest.length + 1) before p
    if p.rest.head? == some (if single then '\'' else '"') then
      return (String.ofList before.reverse, p.next)
    let spacing := p.takeWhile isSpacing
    guard !hasEarlyTab indent escaped p.column spacing
    quotedText? single indent fuel ((fold escaped spacing).reverse ++ before)
      (p.skip spacing.length)

/-- Reads a scalar in quotes, after its opening quote. Behind it the line goes on with nothing but a
colon or, between brackets, with one of their marks. Outside brackets a key takes no more than one
line. -/
def quoted? (single inBrackets : Bool) (indent : Int) (p : Cursor) : Option (String × Cursor) := do
  let (text, q) ← quotedText? single indent (p.rest.length + 1) [] p
  let (q, _) ← q.toLineEnd? true
  let allowed := match q.rest with
    | c :: _ =>
      c == '\n' || c == ':' && (inBrackets || p.line == q.line)
        || inBrackets && [',', '}', ']'].contains c
    | [] => true
  if allowed then return (text, q) else none

/-! ## Plain -/

/-- Whether a character goes on with a plain scalar, given what follows it. -/
def continuesPlain (inBrackets : Bool) (c : Char) (rest : List Char) : Bool :=
  if c == ':' then !(spacingNext rest || inBrackets && rest.head?.any isFlowMark)
  else !(inBrackets && isFlowMark c)

/-- The word of a plain scalar at the front. -/
def plainWord (inBrackets : Bool) : List Char → List Char
  | [] => []
  | c :: rest =>
    if isSpacing c || !continuesPlain inBrackets c rest then [] else c :: plainWord inBrackets rest

/-- Passes over the spacing behind a word, given what has been passed in reverse. A tab left of a
column stands on a line without words. -/
def plainSpacing? (indent : Int) : Nat → List Char → Cursor → Option (List Char × Cursor)
  | 0, _, _ => none
  | fuel + 1, seen, p =>
    match p.rest with
    | c :: _ =>
      if c == '\t' && seen.contains '\n' && (p.column : Int) < indent then do
        let (p, _) ← p.toLineEnd? true
        guard (lineOver p.rest)
        plainSpacing? indent fuel seen p
      else if isSpacing c then plainSpacing? indent fuel (c :: seen) p.next
      else some (seen.reverse, p)
    | [] => some (seen.reverse, p)

/-- Reads a plain scalar, whose lines outside brackets are at least as far right as `indent`. The
text so far is given in reverse, with the spacing behind it. Besides the text and the place, it
tells whether a line break was passed at the end. -/
def plain? (inBrackets : Bool) (indent : Int) :
    Nat → List Char → List Char → Cursor → Option (String × Cursor × Bool)
  | 0, _, _, _ => none
  | fuel + 1, before, spacing, p => do
    let finished := (String.ofList before.reverse, p, spacing.contains '\n')
    if p.atDocumentMark || p.rest.head? == some '#' then return finished
    match p.rest with
    | '-' :: c :: _ => guard !(inBrackets && isFlowMark c)
    | _ => pure ()
    let word := plainWord inBrackets p.rest
    if word.isEmpty then return finished
    let before := word.reverse ++ ((fold false spacing).reverse ++ before)
    let p := p.skip word.length
    let (spacing, q) ← plainSpacing? indent (p.rest.length + 1) [] p
    if spacing.isEmpty || !inBrackets && (q.column : Int) < indent then
      return (String.ofList before.reverse, q, spacing.contains '\n')
    plain? inBrackets indent fuel before spacing q

/-! ## Blocks -/

/-- Reads the sign that tells what happens at the end of a block. -/
def chomping? (p : Cursor) : Option (Chomping × Cursor) :=
  match p.rest with
  | '+' :: _ => some (.keep, p.next)
  | '-' :: _ => some (.strip, p.next)
  | _ => none

/-- Reads the digit that tells how far a block is indented; zero for none. -/
def blockIndent? (p : Cursor) : Option (Nat × Cursor) :=
  match p.rest with
  | c :: _ =>
    if c == '0' then none
    else if c.isDigit then some (c.toNat - '0'.toNat, p.next)
    else some (0, p)
  | [] => some (0, p)

/-- The signs behind the mark of a block, in any order, up to the end of the line. -/
def blockHeader? (p : Cursor) : Option (Chomping × Nat × Cursor) := do
  let (chomping, indent, p) ← match chomping? p with
    | some (chomping, p) => (blockIndent? p).map (chomping, ·)
    | none => do
      let (indent, p) ← blockIndent? p
      let (chomping, p) := (chomping? p).getD (.clip, p)
      pure (chomping, indent, p)
  let (p, _) ← p.toLineEnd? true
  if lineOver p.rest then return (chomping, indent, p) else none

/-- Passes over indentation up to a column and over empty lines, counting the line breaks. -/
def emptyLines (indent : Nat) : Nat → Nat → Cursor → Nat × Cursor
  | 0, breaks, p => (breaks, p)
  | fuel + 1, breaks, p =>
    let p := p.skip (min (p.takeWhile (· == ' ')).length (indent - p.column))
    if p.rest.head? == some '\n' then emptyLines indent fuel (breaks + 1) p.next else (breaks, p)

/-- Passes over all indentation and empty lines, counting the line breaks. Yields also the column of
the longest indentation. -/
def firstLines : Nat → Nat → Nat → Cursor → Nat × Nat × Cursor
  | 0, longest, breaks, p => (longest, breaks, p)
  | fuel + 1, longest, breaks, p =>
    let p := p.dropWhile (· == ' ')
    let longest := max longest p.column
    if p.rest.head? == some '\n' then firstLines fuel longest (breaks + 1) p.next
    else (longest, breaks, p)

/-- Line breaks. -/
def lineFeeds (n : Nat) : List Char := List.replicate n '\n'

/-- Reads the lines of a block. At the left margin it ends also where the document does. -/
def blockLines (literal : Bool) (indent : Nat) : Nat → Block → Cursor → Block × Cursor
  | 0, b, p => (b, p)
  | fuel + 1, b, p =>
    if p.column != indent || p.rest.isEmpty || p.atMark ['.', '.', '.'] then (b, p)
    else
      let line := p.takeWhile (· != '\n')
      let p := p.skip line.length
      let b := { b.addLine literal line with lastBreak := p.rest.head? }
      if p.rest.isEmpty then (b, p)
      else
        let (breaks, p) := emptyLines indent (p.rest.length + 1) 0 p.next
        blockLines literal indent fuel { b with emptyLines := lineFeeds breaks } p

/-- The end of a block: its last line counts as ended also at the end of the text. -/
def blockEnding (chomping : Chomping) (indent : Nat) (b : Block) (p : Cursor) : List Char :=
  match chomping with
  | .strip => []
  | _ =>
    b.lastBreak.toList
      ++ (if p.rest.isEmpty && max indent 1 ≤ p.column then ['\n'] else [])
      ++ (if chomping == .keep then b.emptyLines else [])

/-- The text of a block without lines that goes on to the end of the text. -/
def emptyBlock (chomping : Chomping) (hasBreak : Bool) (breaks : Nat) : List Char :=
  match chomping with
  | .strip => []
  | .clip => lineFeeds hasBreak.toNat
  | .keep => if hasBreak then lineFeeds (max 1 breaks) else []

/-- Reads a block, after its mark, inside a collection that is indented by `outer`. -/
def block? (literal : Bool) (outer : Int) (start : Cursor) : Option (String × Cursor) := do
  let (chomping, given, p) ← blockHeader? start
  let hasBreak := !p.rest.isEmpty
  let p := p.next
  guard (p.rest.head? != some '\t')
  let fuel := p.rest.length + 1
  let (indent, breaks, p) :=
    if given = 0 then
      let (longest, breaks, p) := firstLines fuel 0 0 p
      (max longest (outer + 1).toNat, breaks, p)
    else
      let indent := (max outer 0).toNat + given
      (indent, emptyLines indent fuel 0 p)
  if p.rest.isEmpty then
    return (String.ofList (emptyBlock chomping hasBreak breaks), p)
  guard !(p.column < indent && outer < p.column)
  let (b, p) := blockLines literal indent fuel { emptyLines := lineFeeds breaks } p
  return (String.ofList (b.before.reverse ++ blockEnding chomping indent b p), p)

end DecisionFlow.SettingsYaml
