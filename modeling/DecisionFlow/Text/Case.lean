import DecisionFlow.Unicode.CaseMapping
import DecisionFlow.Unicode.Newest

/-!
# Letter case and surrounding space

- `Text.toUpper`, `Text.toLower`: the upper and lower case of a text. A capital sigma at the end of
  a word becomes a final sigma.
- `Text.trim`: the text without the white space around it.
-/

namespace DecisionFlow.Text

open Unicode

/-- The upper case of a text. -/
def toUpper (s : String) : String := String.ofList (s.toList.flatMap upperOf)

/-- Whether the first character that is not passed over is one of some case. -/
def startsCased (chars : List Char) : Bool :=
  match chars.dropWhile Newest.caseIgnorable.contains with
  | c :: _ => Newest.cased.contains c
  | [] => false

/-- The lower case of the characters `chars`, which follow `before` in reverse. -/
def lowerAfter (before : List Char) : List Char → List Char
  | [] => []
  | c :: rest =>
    let lower :=
      if c == 'Σ' then (if startsCased before && !startsCased rest then ['ς'] else ['σ'])
      else lowerOf c
    lower ++ lowerAfter (c :: before) rest

/-- The lower case of a text. -/
def toLower (s : String) : String := String.ofList (lowerAfter [] s.toList)

/-- Whether a character is white space. -/
def isBlank (c : Char) : Bool := whiteSpace.contains c

/-- The text without white space at its ends. -/
def trim (s : String) : String :=
  String.ofList ((s.toList.dropWhile isBlank).reverse.dropWhile isBlank).reverse

/-- The text with its ASCII letters in lower case. -/
def toLowerAscii (s : String) : String := s.map Char.toLower

end DecisionFlow.Text
