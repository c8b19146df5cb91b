import DecisionFlow.Settings.Layer

/-!
# Settings in INI

Lines give texts to keys, behind an equals sign or a colon. A name in brackets opens a section,
which makes a table of the keys behind it.

- `Ini.textUntil?`: characters up to an end, with their escapes.
- `Ini.entries?`: the entries of a text.
-/

namespace DecisionFlow.Ini

/-- A place in a text. -/
structure Cursor where
  rest : List Char
  /-- Whether a line begins here. -/
  atLineStart : Bool := true

namespace Cursor

/-- Behind the next character. -/
def next (p : Cursor) : Cursor :=
  match p.rest with
  | [] => p
  | c :: rest => ⟨rest, c == '\n'⟩

/-- Behind the next `n` characters. -/
def skip : Nat → Cursor → Cursor
  | 0, p => p
  | n + 1, p => skip n p.next

/-- Behind the characters up to the first that fails a test. -/
def dropWhile (p : Cursor) (test : Char → Bool) : Cursor := p.skip (p.rest.takeWhile test).length

end Cursor

/-- A character by its four hexadecimal digits, the first of which may be a plus sign. -/
def charOfHex? (digits : List Char) : Option Char := do
  guard (digits.length = 4)
  let code ← Text.digitsIn? 16 (if digits.head? == some '+' then digits.drop 1 else digits)
  if h : code.isValidChar then some (Char.ofNatAux code h) else none

/-- What an escape stands for, after its backslash, and the length of the escape. A line break
stands for nothing. -/
def readEscape? : List Char → Option (List Char × Nat)
  | [] => none
  | '0' :: _ => some (['\x00'], 1)
  | 'a' :: _ => some (['\x07'], 1)
  | 'b' :: _ => some (['\x08'], 1)
  | 't' :: _ => some (['\t'], 1)
  | 'r' :: _ => some (['\r'], 1)
  | 'n' :: _ => some (['\n'], 1)
  | '\n' :: _ => some ([], 1)
  | 'x' :: rest => (charOfHex? (rest.take 4)).map ([·], 5)
  | c :: _ => some ([c], 1)

/-- Reads characters up to one of the given ends. The text ends here only if that is allowed. -/
def textUntil? (ends : List Char) (mayEnd : Bool) : Nat → List Char → Cursor →
    Option (String × Cursor)
  | 0, _, _ => none
  | fuel + 1, before, p =>
    match p.rest with
    | [] => if mayEnd then some (String.ofList before.reverse, p) else none
    | c :: rest =>
      if ends.contains c then some (String.ofList before.reverse, p)
      else if c == '\\' then do
        let (chars, length) ← readEscape? rest
        textUntil? ends mayEnd fuel (chars.reverse ++ before) (p.skip (length + 1))
      else textUntil? ends mayEnd fuel (c :: before) p.next

/-- Reads characters up to one of the given ends. -/
def upTo? (ends : List Char) (mayEnd : Bool) (p : Cursor) : Option (String × Cursor) :=
  textUntil? ends mayEnd (p.rest.length + 1) [] p

/-- Reads a value up to the end of its line. A part in quotes may stand at its front. -/
def value? (p : Cursor) : Option (String × Cursor) := do
  let p := p.dropWhile fun c => Text.isBlank c && c != '\n' && c != '\r'
  let (front, p) ← match p.rest with
    | c :: _ =>
      if c == '"' || c == '\'' then do
        let (quoted, p) ← upTo? [c] false p.next
        pure (quoted, p.next)
      else pure ("", p)
    | [] => pure ("", p)
  let (text, p) ← upTo? ['\n', '\r'] true p
  return (Text.trim (front ++ text), p)

/-- A section: its name, and its keys with their values. What stands in front of all sections has no
name. -/
structure Section where
  name : Option String
  values : List (String × String) := []

/-- Reads the sections from a place on, given those in front of it, latest first. Comments stand at
the beginning of a line. -/
def sections? : Nat → List Section → Cursor → Option (List Section)
  | 0, _, _ => none
  | fuel + 1, found, p =>
    let p := p.dropWhile Text.isBlank
    match p.rest with
    | [] => some found.reverse
    | c :: _ =>
      if c == ';' || c == '#' then
        if p.atLineStart then sections? fuel found (p.dropWhile (· != '\n')) else none
      else if c == '[' then do
        let (name, p) ← upTo? [']'] false p.next
        sections? fuel ({ name := some (Text.trim name) } :: found) p.next
      else do
        let (key, p) ← upTo? ['=', ':'] false p
        let key := Text.trim key
        guard (!key.isEmpty)
        let (value, p) ← value? p.next
        match found with
        | [] => sections? fuel [⟨none, [(key, value)]⟩] p
        | current :: others =>
          sections? fuel ({ current with values := current.values ++ [(key, value)] } :: others) p

/-- The entries that the values of a section make on top of others. -/
def Section.onto (s : Section) (layer : Layer) : Layer :=
  s.values.foldl (fun layer (key, value) => layer.put key (.text value)) layer

/-- The entries of a text; none if it is malformed. The last section of a name counts. -/
def entries? (text : String) : Option Layer := do
  let chars := text.toList
  let sections ← sections? (chars.length + 1) [] { rest := chars }
  return sections.foldl
    (fun layer s =>
      match s.name with
      | none => s.onto layer
      | some name => layer.put name (.table (s.onto [])))
    []

end DecisionFlow.Ini
