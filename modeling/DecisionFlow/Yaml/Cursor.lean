/-!
# Reading YAML text

The characters of YAML text, its line breaks, and a place in it.

- `Yaml.allowed`, `Yaml.unifyBreaks`: what may stand in a text, and line breaks in one form.
- `Yaml.Cursor`: a place in a text, with what follows.
-/

namespace DecisionFlow.Yaml

/-- Whether a character may stand in a text: no control character apart from tab and line breaks. -/
def allowed (c : Char) : Bool :=
  c == '\t' || c == '\n' || c == '\r' || c == '\u0085'
    || '\x20' ≤ c && c ≤ '\x7e' || '\u00a0' ≤ c && c.toNat ≤ 0xfffd || 0x10000 ≤ c.toNat

/-- Whether a character ends a line, once line breaks have one form. -/
def isBreak (c : Char) : Bool := c == '\n' || c == '\u2028' || c == '\u2029'

/-- Whether a character is a space or a tab. -/
def isBlank (c : Char) : Bool := c == ' ' || c == '\t'

/-- Whether a character parts words. -/
def isSpacing (c : Char) : Bool := isBlank c || isBreak c

/-- Whether spacing comes next, or nothing. -/
def spacingNext : List Char → Bool
  | [] => true
  | c :: _ => isSpacing c

/-- Line feeds in the place of carriage returns, pairs of both, and next-line characters. -/
def unifyBreaks : List Char → List Char
  | [] => []
  | '\r' :: '\n' :: rest => '\n' :: unifyBreaks rest
  | c :: rest => (if c == '\r' || c == '\u0085' then '\n' else c) :: unifyBreaks rest

/-- Whether a character may stand in the name of an anchor. -/
def isNameChar (c : Char) : Bool := c.isAlphanum || c == '_' || c == '-'

/-- A place in a text. -/
structure Cursor where
  /-- What follows. -/
  rest : List Char
  line : Nat := 0
  column : Nat := 0
  /-- How many bytes come before. -/
  index : Nat := 0

namespace Cursor

/-- Behind the next character. -/
def next (p : Cursor) : Cursor :=
  match p.rest with
  | [] => p
  | c :: rest =>
    if isBreak c then ⟨rest, p.line + 1, 0, p.index + c.utf8Size⟩
    else ⟨rest, p.line, p.column + 1, p.index + c.utf8Size⟩

/-- Behind the next `n` characters. -/
def skip : Nat → Cursor → Cursor
  | 0, p => p
  | n + 1, p => skip n p.next

/-- The characters up to the first that fails a test. -/
def takeWhile (p : Cursor) (test : Char → Bool) : List Char := p.rest.takeWhile test

/-- Behind the characters up to the first that fails a test. -/
def dropWhile (p : Cursor) (test : Char → Bool) : Cursor := p.skip (p.takeWhile test).length

/-- Whether the text goes on with these characters. -/
def startsWith (p : Cursor) (chars : List Char) : Bool := chars.isPrefixOf p.rest

/-- Whether a line begins here with three dots or hyphens as a word of their own. -/
def atDocumentMark (p : Cursor) (mark : List Char) : Bool :=
  p.column == 0 && p.startsWith mark && spacingNext (p.rest.drop 3)

/-- Whether a line begins here that parts documents. -/
def atDocumentBoundary (p : Cursor) : Bool :=
  p.atDocumentMark ['-', '-', '-'] || p.atDocumentMark ['.', '.', '.']

end Cursor

end DecisionFlow.Yaml
