import DecisionFlow.Unicode.RangeSet
import DecisionFlow.Yaml.Cursor

/-!
# Scalars in YAML text

How a scalar is written: in quotes, plainly, or as a block of lines. Lines of a scalar are folded: a
single line break between words counts as a space, and of several the first does not count.

- `Yaml.fold`: what spacing between words stands for.
- `Yaml.quoted?`, `Yaml.plain?`, `Yaml.block?`: reading a scalar.
-/

namespace DecisionFlow.Yaml

/-- What the spacing between two words of a scalar stands for. After an escaped line break neither
that break nor the blanks count. -/
def fold (escaped : Bool) (spacing : List Char) : List Char :=
  match escaped, spacing.filter isBreak with
  | true, breaks => breaks
  | false, [] => spacing
  | false, ['\n'] => [' ']
  | false, '\n' :: breaks => breaks
  | false, breaks => breaks

/-! ## In quotes -/

/-- The character of an escape of one letter. -/
def escape? : Char → Option Char
  | '0' => some '\x00'
  | 'a' => some '\x07'
  | 'b' => some '\x08'
  | 't' | '\t' => some '\t'
  | 'n' => some '\n'
  | 'v' => some '\x0b'
  | 'f' => some '\x0c'
  | 'r' => some '\r'
  | 'e' => some '\x1b'
  | ' ' => some ' '
  | '"' => some '"'
  | '/' => some '/'
  | '\\' => some '\\'
  | 'N' => some '\u0085'
  | '_' => some '\u00a0'
  | 'L' => some '\u2028'
  | 'P' => some '\u2029'
  | _ => none

/-- How many digits follow the letter of an escape by code. -/
def escapeDigits? : Char → Option Nat
  | 'x' => some 2
  | 'u' => some 4
  | 'U' => some 8
  | _ => none

/-- The character of a code in hexadecimal digits. -/
def charOfHex? (digits : List Char) : Option Char :=
  let code := Unicode.hexValue digits
  if !digits.all fun c => (Unicode.hexDigit? c).isSome then none
  else if h : code.isValidChar then some (Char.ofNatAux code h)
  else none

/-- The character of the escape at the front, after its backslash, and the length of the escape. -/
def readEscape? : List Char → Option (Char × Nat)
  | [] => none
  | c :: rest =>
    match escapeDigits? c with
    | none => (escape? c).map (·, 1)
    | some n =>
      let digits := rest.take n
      if digits.length < n then none else (charOfHex? digits).map (·, n + 1)

/-- Reads a scalar in quotes, after its opening quote, with the text so far in reverse. -/
def quoted? (single : Bool) : Nat → List Char → Cursor → Option (String × Cursor)
  | 0, _, _ => none
  | fuel + 1, before, p =>
    if p.atDocumentBoundary then none
    else
      match p.rest with
      | [] => none
      | c :: rest =>
        if isSpacing c then
          let spacing := p.takeWhile isSpacing
          quoted? single fuel ((fold false spacing).reverse ++ before) (p.dropWhile isSpacing)
        else if single then
          if c == '\'' then
            if rest.head? == some '\'' then quoted? single fuel ('\'' :: before) (p.skip 2)
            else some (String.ofList before.reverse, p.next)
          else quoted? single fuel (c :: before) p.next
        else if c == '"' then some (String.ofList before.reverse, p.next)
        else if c == '\\' then
          if rest.head?.any isBreak then
            let line := p.skip 2
            let spacing := line.takeWhile isSpacing
            quoted? single fuel ((fold true spacing).reverse ++ before) (line.dropWhile isSpacing)
          else
            match readEscape? rest with
            | some (escaped, length) =>
              quoted? single fuel (escaped :: before) (p.skip (length + 1))
            | none => none
        else quoted? single fuel (c :: before) p.next

/-! ## Plain -/

/-- The word of a plain scalar at the front; none if a colon stands where it may not. Inside
brackets commas and brackets end a word. -/
def word? (inBrackets : Bool) : List Char → Option (List Char)
  | [] => some []
  | c :: rest =>
    if isSpacing c then some []
    else if inBrackets && c == ':' &&
      rest.head?.any [',', '?', '[', ']', '{', '}'].contains then none
    else if c == ':' && spacingNext rest then some []
    else if inBrackets && [',', '[', ']', '{', '}'].contains c then some []
    else (word? inBrackets rest).map (c :: ·)

/-- Whether a tab stands left of a column, behind a line break in spacing. -/
def hasEarlyTab (indent : Nat) (broken : Bool) (column : Nat) : List Char → Bool
  | [] => false
  | c :: rest =>
    if isBreak c then hasEarlyTab indent true 0 rest
    else broken && column < indent && c == '\t' || hasEarlyTab indent broken (column + 1) rest

/-- Reads a plain scalar whose lines are at least as far right as `indent`. The text so far is given
in reverse, with the spacing behind it. Besides the text and the place, it tells whether a line
break was passed at the end. -/
def plain? (inBrackets : Bool) (indent : Nat) :
    Nat → List Char → List Char → Cursor → Option (String × Cursor × Bool)
  | 0, _, _, _ => none
  | fuel + 1, before, spacing, p => do
    let atEnd := p.atDocumentBoundary || p.rest.head? == some '#'
    let word ← if atEnd then some [] else word? inBrackets p.rest
    if word.isEmpty then return (String.ofList before.reverse, p, spacing.any isBreak)
    let before := word.reverse ++ ((fold false spacing).reverse ++ before)
    let p := p.skip word.length
    let spacing := p.takeWhile isSpacing
    if spacing.isEmpty then return (String.ofList before.reverse, p, false)
    guard !hasEarlyTab indent false p.column spacing
    let p := p.dropWhile isSpacing
    if !inBrackets && p.column < indent then
      return (String.ofList before.reverse, p, spacing.any isBreak)
    plain? inBrackets indent fuel before spacing p

/-! ## Blocks -/

/-- What happens to line breaks at the end of a block. -/
inductive Chomping where
  | strip
  | clip
  | keep
deriving DecidableEq, Repr

/-- The signs behind the mark of a block: what happens at its end, and how far it is indented. -/
def blockHeader? (p : Cursor) : Option (Chomping × Option Nat × Cursor) := do
  let chomping? := fun (p : Cursor) =>
    match p.rest with
    | '+' :: _ => (Chomping.keep, p.next)
    | '-' :: _ => (Chomping.strip, p.next)
    | _ => (Chomping.clip, p)
  let indent? := fun (p : Cursor) =>
    match p.rest with
    | c :: _ =>
      if c == '0' then none
      else if c.isDigit then some (some (c.toNat - '0'.toNat), p.next)
      else some (none, p)
    | [] => some (none, p)
  let (chomping, p) := chomping? p
  let (indent, p) ← indent? p
  let (chomping, p) := if chomping == .clip then chomping? p else (chomping, p)
  let p := p.dropWhile isBlank
  let p := if p.rest.head? == some '#' then p.dropWhile (!isBreak ·) else p
  match p.rest with
  | [] => some (chomping, indent, p)
  | c :: _ => if isBreak c then some (chomping, indent, p.next) else none

/-- Passes over indentation and empty lines. Yields their line breaks and the column of the longest
indentation. With `indent` zero, all spaces are indentation. -/
def emptyLines? (indent : Nat) :
    Nat → Nat → List Char → Cursor → Option (Nat × List Char × Cursor)
  | 0, _, _, _ => none
  | fuel + 1, longest, breaks, p =>
    let spaces := (p.takeWhile (· == ' ')).length
    let p := p.skip (if indent = 0 then spaces else min spaces (indent - p.column))
    let longest := max longest p.column
    match p.rest with
    | [] => some (longest, breaks.reverse, p)
    | c :: _ =>
      if c == '\t' && (indent = 0 || p.column < indent) then none
      else if isBreak c then emptyLines? indent fuel longest (c :: breaks) p.next
      else some (longest, breaks.reverse, p)

/-- A block that has been read up to the beginning of a line. -/
structure Block where
  /-- The text so far, in reverse. -/
  before : List Char := []
  /-- The break that ended the last line. -/
  lastBreak : Option Char := none
  /-- The breaks of the empty lines since. -/
  emptyLines : List Char := []
  /-- Whether the last line began with a blank. -/
  blankStart : Bool := false

/-- Adds a line. In a folded block the break before it becomes a space, or nothing if empty lines
stand between, unless one of the two lines begins with a blank. -/
def Block.addLine (literal : Bool) (b : Block) (line : List Char) : Block :=
  let blank := line.head?.any isBlank
  let joint :=
    if !literal && b.lastBreak == some '\n' && !b.blankStart && !blank then
      if b.emptyLines.isEmpty then [' '] else []
    else b.lastBreak.toList
  { before := line.reverse ++ (b.emptyLines.reverse ++ (joint.reverse ++ b.before))
    blankStart := blank }

/-- Reads the lines of a block. -/
def blockLines? (literal : Bool) (indent : Nat) :
    Nat → Block → Cursor → Option (Block × Cursor)
  | 0, _, _ => none
  | fuel + 1, b, p =>
    if p.column != indent || p.rest.isEmpty then some (b, p)
    else do
      let line := p.takeWhile (!isBreak ·)
      let p := p.skip line.length
      let b := { b.addLine literal line with lastBreak := p.rest.head? }
      let p := p.next
      let (_, breaks, p) ← emptyLines? indent (p.rest.length + 1) 0 [] p
      blockLines? literal indent fuel { b with emptyLines := breaks } p

/-- Reads a block, after its mark, inside a collection that is indented by `outer`. -/
def block? (literal : Bool) (outer : Int) (p : Cursor) : Option (String × Cursor) := do
  let (chomping, indent, p) ← blockHeader? p
  let given := match indent with
    | some n => if 0 ≤ outer then outer.toNat + n else n
    | none => 0
  let (longest, breaks, p) ← emptyLines? given (p.rest.length + 1) 0 [] p
  let indent := if given = 0 then max longest (max (outer + 1).toNat 1) else given
  let (b, p) ← blockLines? literal indent (p.rest.length + 1) { emptyLines := breaks } p
  let ending := match chomping with
    | .strip => []
    | .clip => b.lastBreak.toList
    | .keep => b.lastBreak.toList ++ b.emptyLines
  return (String.ofList (b.before.reverse ++ ending), p)

end DecisionFlow.Yaml
