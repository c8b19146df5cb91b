import DecisionFlow.Text.Numeral

/-!
# Names of settings

The outermost names of a source may lead into tables and lists: `a.b` names the entry `b` of the
table `a`, and `a[0]` the first item of the list `a`.

- `Setting.Name`: the name of an entry, and steps into what it stands for.
- `Setting.Name.ofText`: the name that a text is a form of. A text that is no such form names an
  entry as it is.
-/

namespace DecisionFlow.Setting

/-- A step into a setting. -/
inductive Step where
  /-- To the entry of a table. -/
  | entry (name : String)
  /-- To the item of a list; a negative index counts from the end. -/
  | item (index : Int)
deriving DecidableEq, Repr

/-- The name of a setting. -/
structure Name where
  first : String
  steps : List Step := []
deriving DecidableEq, Repr

namespace Name

/-- Whether a character may stand in a word of a name. -/
def isWordChar (c : Char) : Bool := c.isAlphanum || c == '_' || c == '-' || c == ' '

/-- The word at the front, and what follows; none if no word begins here. -/
def word? (chars : List Char) : Option (String × List Char) :=
  match chars.takeWhile isWordChar with
  | [] => none
  | word => some (String.ofList word, chars.dropWhile isWordChar)

/-- Passes over blanks. -/
def skipBlanks (chars : List Char) : List Char := chars.dropWhile fun c => c == ' ' || c == '\t'

/-- The index at the front, after its opening bracket, and what follows its closing one. Indices
have 64 bits, and blanks may stand on both sides. -/
def index? (chars : List Char) : Option (Int × List Char) := do
  let chars := skipBlanks chars
  let (negative, chars) := match chars with
    | '-' :: rest => (true, rest)
    | _ => (false, chars)
  let size ← Text.digitsIn? 10 (chars.takeWhile Char.isDigit)
  let index : Int := if negative then -(size : Int) else size
  guard (Text.fits64 index)
  match skipBlanks (chars.dropWhile Char.isDigit) with
  | ']' :: rest => return (index, rest)
  | _ => none

/-- The steps that characters are a form of; `fuel` bounds their number. -/
def steps? : Nat → List Char → Option (List Step)
  | _, [] => some []
  | fuel + 1, '.' :: rest => do
    let (name, rest) ← word? rest
    return .entry name :: (← steps? fuel rest)
  | fuel + 1, '[' :: rest => do
    let (index, rest) ← index? rest
    return .item index :: (← steps? fuel rest)
  | _, _ => none

/-- The name that a text is a form of. -/
def ofText (text : String) : Name :=
  let name? : Option Name := do
    let (first, rest) ← word? text.toList
    return ⟨first, ← steps? rest.length rest⟩
  name?.getD ⟨text, []⟩

end Name

end DecisionFlow.Setting
