import DecisionFlow.Text.Numeral

/-!
# Readers

A reader takes what it reads off the front of a text. It fails on a malformed text.

- `Reader`.
- `Reader.skips`, `Reader.skipsWord`: whether a character or word comes next.
- `Reader.taking`: the longest run of characters that pass a test.
- `Reader.hexCode`: a code in hexadecimal digits.
-/

namespace DecisionFlow.Text

/-- Reads the front of a text; none if it is malformed. -/
abbrev Reader := StateT (List Char) Option

namespace Reader

/-- Passes over a character if it comes next, and says whether it did. -/
def skips (c : Char) : Reader Bool := do
  match ← get with
  | d :: rest => if c == d then set rest; return true else return false
  | [] => return false

/-- Passes over a word if it comes next, and says whether it did. -/
def skipsWord (word : String) : Reader Bool := do
  let chars ← get
  if word.toList.isPrefixOf chars then
    set (chars.drop word.length)
    return true
  else return false

/-- Passes over a character that has to come next. -/
def expect (c : Char) : Reader Unit := do guard (← skips c)

/-- Takes the next character. -/
def next : Reader Char := do
  match ← get with
  | [] => failure
  | c :: rest => set rest; return c

/-- Takes the characters up to the first that fails a test. -/
def taking (test : Char → Bool) : Reader (List Char) := do
  let chars ← get
  set (chars.dropWhile test)
  return chars.takeWhile test

/-- Whether a character is a hexadecimal digit. -/
def isHexDigit (c : Char) : Bool := (digit? c).any (· < 16)

/-- Reads as many hexadecimal digits as a code. -/
def hexCode (count : Nat) : Reader Nat := do
  let chars ← get
  let digits := chars.take count
  guard (digits.length = count)
  set (chars.drop count)
  digitsIn? 16 digits

end Reader

end DecisionFlow.Text
