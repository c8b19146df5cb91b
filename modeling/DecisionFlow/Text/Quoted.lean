import DecisionFlow.Unicode.Newest

/-!
# Quoted text

A quoted text stands between double quotes. Characters that cannot be seen are written by their
code.

- `Text.quoted`: the quoted form of a text.
-/

namespace DecisionFlow.Text

/-- The digits of a number in lower-case hexadecimal. -/
def hex (n : Nat) : String := String.ofList (Nat.toDigits 16 n)

/-- The sound marks U+FF9E and U+FF9F, which are seen although they extend the character before
them. -/
def isSoundMark (c : Char) : Bool := c == '\uFF9E' || c == '\uFF9F'

open Unicode in
/-- Whether a character stands for itself between quotes: it is seen, and also where it stands
alone. -/
def isPlain (c : Char) : Bool :=
  if c.toNat < 0x7F then ' ' ≤ c
  else Newest.graphic.contains c && !defaultIgnorableCodePoint.contains c
    && (!Newest.graphemeExtend.contains c || isSoundMark c)

/-- A character between quotes. -/
def quotedChar : Char → String
  | '"' => "\\\""
  | '\\' => "\\\\"
  | '\n' => "\\n"
  | '\r' => "\\r"
  | '\t' => "\\t"
  | '\x00' => "\\0"
  | c => if isPlain c then c.toString else "\\u\x7b" ++ hex c.toNat ++ "\x7d"

/-- The text in double quotes. -/
def quoted (s : String) : String := "\"" ++ String.join (s.toList.map quotedChar) ++ "\""

end DecisionFlow.Text
