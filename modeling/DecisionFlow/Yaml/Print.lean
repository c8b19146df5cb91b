import DecisionFlow.Decimal.Layout
import DecisionFlow.Yaml.Cursor
import DecisionFlow.Yaml.Scalar

/-!
# Writing YAML

Collections are written as blocks, empty ones between brackets. The items of a sequence below a key
stand under the key itself. A text is written plainly if it is read back as a text, and otherwise in
quotes; a text of several lines is written as a literal block.

- `Yaml.Style`, `Yaml.style`: how a text is written.
- `Yaml.scalarText`: a scalar, and the lines it goes on with.
- `Yaml.render`: a value as a whole text.
-/

namespace DecisionFlow.Yaml

/-- Floats in YAML: no sign stands in front of a positive exponent. -/
def floatLayout : Decimal.Layout := ⟨""⟩

/-! ## Styles -/

/-- How a text is written. -/
inductive Style where
  | plain
  | singleQuoted
  | doubleQuoted
  | literal
deriving DecidableEq, Repr

/-- Whether a character is written as it is. -/
def isPrintable (c : Char) : Bool :=
  c == '\n' || '\x20' ≤ c && c ≤ '\x7e'
    || '\u00a0' ≤ c && c != '\uFEFF' && c.toNat != 0xfffe && c.toNat != 0xffff

/-- Whether one character of a kind is followed by one of another. -/
def hasPair (first second : Char → Bool) : List Char → Bool
  | a :: b :: rest => first a && second b || hasPair first second (b :: rest)
  | _ => false

/-- Whether a plain text would have a colon or a number sign read as a mark: the colon behind a
word, the sign in front of one. -/
def hasMark : List Char → Bool
  | [] => false
  | c :: rest =>
    c == ':' && spacingNext rest || isSpacing c && rest.head? == some '#' || hasMark rest

/-- Whether a plain text would begin with a mark. -/
def beginsWithMark (chars : List Char) : Bool :=
  chars.take 3 == ['-', '-', '-'] || chars.take 3 == ['.', '.', '.']
    || match chars with
      | [] => false
      | c :: rest =>
        "#,[]{}&*!|>'\"%@`".toList.contains c || (c == '?' || c == ':' || c == '-') &&
          spacingNext rest

/-- Whether a text has blanks or breaks at one of its ends. -/
def isPadded (chars : List Char) : Bool :=
  let outer := fun (c : Char) => c == ' ' || isBreak c
  chars.head?.any outer || chars.getLast?.any outer

/-- Whether a text can be written without escapes: no character of it needs one, and no space stands
in front of a line break. -/
def escapesNothing (chars : List Char) : Bool :=
  chars.all isPrintable && !hasPair (· == ' ') isBreak chars

/-- Whether a text can be written plainly. -/
def allowsPlain (chars : List Char) : Bool :=
  escapesNothing chars && !chars.any isBreak && !isPadded chars && !beginsWithMark chars
    && !hasMark chars

/-- Whether a text can be written in single quotes. -/
def allowsSingleQuotes (chars : List Char) : Bool :=
  escapesNothing chars && !hasPair isBreak (· == ' ') chars

/-- Whether a text can be written as a literal block. -/
def allowsLiteral (chars : List Char) : Bool :=
  escapesNothing chars && chars.getLast? != some ' '

/-- Whether a plain scalar is read back as a text. -/
def staysText (s : String) : Bool :=
  match Scalar.ofPlain s with
  | .text _ => !Scalar.hasLeadingZero s.toList
  | _ => false

/-- How a text is written. -/
def style (s : String) : Style :=
  let chars := s.toList
  let quotes := if allowsSingleQuotes chars then Style.singleQuoted else .doubleQuoted
  if chars.contains '\n' then (if allowsLiteral chars then .literal else .doubleQuoted)
  else if staysText s && allowsPlain chars then .plain
  else quotes

/-! ## Scalars -/

/-- Spaces up to a column. -/
def pad (column : Nat) : List Char := List.replicate column ' '

/-- Characters of several lines: a line that is not empty begins at a column, unless it is the first
one. -/
def indented (column : Nat) (atLineStart : Bool) : List Char → List Char
  | [] => []
  | c :: rest =>
    if isBreak c then c :: indented column true rest
    else (if atLineStart then pad column else []) ++ c :: indented column false rest

/-- A text in single quotes, in which a quote is written twice. -/
def singleQuoted (column : Nat) (chars : List Char) : List Char :=
  let body := indented column false (chars.flatMap fun c => if c == '\'' then [c, c] else [c])
  let closing := if chars.getLast?.any isBreak then pad column else []
  '\'' :: body ++ closing ++ ['\'']

/-- The hexadecimal digits of a code, as many as asked for. -/
def hexDigits : Nat → Nat → List Char
  | 0, _ => []
  | n + 1, code => hexDigits n (code / 16) ++ [(Nat.digitChar (code % 16)).toUpper]

/-- A character inside double quotes. -/
def doubleQuotedChar (c : Char) : List Char :=
  match c with
  | '\x00' => ['\\', '0']
  | '\x07' => ['\\', 'a']
  | '\x08' => ['\\', 'b']
  | '\t' => ['\\', 't']
  | '\n' => ['\\', 'n']
  | '\x0b' => ['\\', 'v']
  | '\x0c' => ['\\', 'f']
  | '\r' => ['\\', 'r']
  | '\x1b' => ['\\', 'e']
  | '"' => ['\\', '"']
  | '\\' => ['\\', '\\']
  | '\u0085' => ['\\', 'N']
  | '\u2028' => ['\\', 'L']
  | '\u2029' => ['\\', 'P']
  | c =>
    if isPrintable c then [c]
    else if c.toNat ≤ 0xff then '\\' :: 'x' :: hexDigits 2 c.toNat
    else if c.toNat ≤ 0xffff then '\\' :: 'u' :: hexDigits 4 c.toNat
    else '\\' :: 'U' :: hexDigits 8 c.toNat

/-- The sign for the line breaks at the end of a literal block: none is kept, one, or more. -/
def chompingSign (chars : List Char) : List Char :=
  match chars.reverse with
  | [] => ['-']
  | last :: before =>
    if !isBreak last then ['-'] else if before.head?.all isBreak then ['+'] else []

/-- A text as a literal block. The indentation is written if the text itself begins with spacing. -/
def literal (column : Nat) (chars : List Char) : List Char :=
  let indentation := if chars.head?.any fun c => c == ' ' || isBreak c then ['2'] else []
  '|' :: indentation ++ chompingSign chars ++ '\n' :: indented column true chars

/-- A text in its style, with lines that go on at a column. -/
def textChars (column : Nat) (s : String) : List Char :=
  let chars := s.toList
  match style s with
  | .plain => chars
  | .singleQuoted => singleQuoted column chars
  | .doubleQuoted => '"' :: chars.flatMap doubleQuotedChar ++ ['"']
  | .literal => literal column chars

/-- A scalar, or an empty collection. -/
def scalarText (column : Nat) : Value → List Char
  | .null => "null".toList
  | .bool b => (toString b).toList
  | .number (.int n _) => (toString n).toList
  | .number (.float x) => (floatLayout.write x).toList
  | .text s => textChars column s
  | .array _ => "[]".toList
  | .object _ => "\x7b\x7d".toList

/-- Ends the line, unless it is at its end. -/
def endLine (chars : List Char) : List Char :=
  if chars.getLast?.any isBreak then chars else chars ++ ['\n']

/-- Whether a character would end a line, were it written as it is. -/
def endsLine (c : Char) : Bool := isBreak c || c == '\r' || c == '\u0085'

/-- Whether a name can stand in front of a colon on its line: it is one line of at
most 128 bytes. -/
def isSimpleName (name : String) : Bool := !name.toList.any endsLine && name.utf8ByteSize ≤ 128

/-! ## Collections -/

/-- Lines of entries, each entry after the first at a column. -/
def joinAt (column : Nat) : List (List Char) → List Char
  | [] => []
  | [entry] => entry
  | entry :: rest => entry ++ pad column ++ joinAt column rest

mutual

/-- What follows a hyphen or a colon that stands alone at a column: a collection begins on the same
line. -/
def beside (column : Nat) : Value → List Char
  | .array (item :: rest) => ' ' :: joinAt (column + 2) (items (column + 2) (item :: rest))
  | .object (field :: rest) => ' ' :: joinAt (column + 2) (entries (column + 2) (field :: rest))
  | scalar => ' ' :: endLine (scalarText (column + 2) scalar)

/-- What follows a name at a column: a collection begins on the next line. -/
def below (column : Nat) : Value → List Char
  | .array (item :: rest) => '\n' :: pad column ++ joinAt column (items column (item :: rest))
  | .object (field :: rest) =>
    '\n' :: pad (column + 2) ++ joinAt (column + 2) (entries (column + 2) (field :: rest))
  | scalar => ' ' :: endLine (scalarText (column + 2) scalar)

/-- The items of a sequence at a column. -/
def items (column : Nat) : List Value → List (List Char)
  | [] => []
  | item :: rest => ('-' :: beside column item) :: items column rest

/-- The entries of a mapping at a column. A name that is no simple one is marked. -/
def entries (column : Nat) : List (String × Value) → List (List Char)
  | [] => []
  | (name, value) :: rest =>
    let entry :=
      if isSimpleName name then textChars (column + 2) name ++ ':' :: below column value
      else
        '?' :: ' ' :: endLine (textChars (column + 2) name) ++ pad column ++ ':' ::
          beside column value
    entry :: entries column rest

end

/-- A value as a whole text. -/
def render : Value → String
  | .array (item :: rest) => String.ofList (joinAt 0 (items 0 (item :: rest)))
  | .object (field :: rest) => String.ofList (joinAt 0 (entries 0 (field :: rest)))
  | scalar => String.ofList (endLine (scalarText 2 scalar))

end DecisionFlow.Yaml
