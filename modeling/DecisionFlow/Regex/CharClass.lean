import DecisionFlow.Unicode.Age
import DecisionFlow.Unicode.Break
import DecisionFlow.Unicode.CaseFolding

/-!
# Named classes of characters

The classes that a pattern can name, and how modes change a class.

- `Modes`: the modes of a pattern that can be switched on and off inside it.
- `Modes.fold`, `Modes.complement`: the class without regard to case, and its complement.
- `CharClass.ascii?`, `CharClass.shorthand?`, `CharClass.named?`, `CharClass.valued?`: classes by
  name.
-/

namespace DecisionFlow

/-- A class of characters. -/
abbrev CharClass := Unicode.RangeSet

/-- What can be switched on and off inside a pattern. -/
structure Modes where
  ignoreCase : Bool := false
  /-- `^` and `$` hold at the ends of lines. -/
  multiLine : Bool := false
  /-- The dot accepts line breaks. -/
  dotAll : Bool := false
  /-- Classes are those of Unicode. Otherwise they are those of ASCII and may not leave it. -/
  unicode : Bool := true
  /-- A carriage return ends a line too. -/
  crlf : Bool := false
  /-- White space and comments in the pattern count for nothing. -/
  verbose : Bool := false
deriving DecidableEq, Repr

namespace Modes

/-- The codes of ASCII letters, capital and small. -/
def asciiPairs : List (Nat × Nat) :=
  (List.range 26).map fun n => ('A'.toNat + n, 'a'.toNat + n)

/-- The class, with all case variants of its characters if case is ignored. -/
def fold (m : Modes) (set : CharClass) : CharClass :=
  if !m.ignoreCase then set
  else if m.unicode then Unicode.withCaseVariants set
  else Unicode.withPartners asciiPairs set

/-- The class of a character, with its case variants if case is ignored. -/
def variants (m : Modes) (c : Char) : CharClass :=
  if !m.ignoreCase then .ofChars [c]
  else if m.unicode then .ofChars (Unicode.caseVariants c)
  else .ofChars [c, c.toLower, c.toUpper]

/-- The class or its complement. The complement of an ASCII class leaves ASCII. -/
def complement (m : Modes) (negated : Bool) (set : CharClass) : Option CharClass :=
  if !negated then some set
  else if m.unicode then some set.complement
  else none

end Modes

namespace CharClass

open Unicode

/-- The classes of ASCII characters that are named between colons. -/
def asciiNamed : List (String × CharClass) := [
  ("alnum", .ofLines ["30-39 41-5A 61-7A"]),
  ("alpha", .ofLines ["41-5A 61-7A"]),
  ("ascii", .ofLines ["0-7F"]),
  ("blank", .ofLines ["9 20"]),
  ("cntrl", .ofLines ["0-1F 7F"]),
  ("digit", .ofLines ["30-39"]),
  ("graph", .ofLines ["21-7E"]),
  ("lower", .ofLines ["61-7A"]),
  ("print", .ofLines ["20-7E"]),
  ("punct", .ofLines ["21-2F 3A-40 5B-60 7B-7E"]),
  ("space", .ofLines ["9-D 20"]),
  ("upper", .ofLines ["41-5A"]),
  ("word", .ofLines ["30-39 41-5A 5F 61-7A"]),
  ("xdigit", .ofLines ["30-39 41-46 61-66"])]

/-- A class of ASCII characters by its name. -/
def ascii? (name : String) : Option CharClass := asciiNamed.lookup name

/-- The classes of digits, white space and word characters; a capital letter names
the complement. -/
def shorthand? (m : Modes) (letter : Char) : Option CharClass := do
  let set ← match letter.toLower with
    | 'd' => if m.unicode then some GeneralCategory.decimalNumber else ascii? "digit"
    | 's' => if m.unicode then some whiteSpace else ascii? "space"
    | 'w' => if m.unicode then some wordCharacter else ascii? "word"
    | _ => none
  m.complement letter.isUpper set

/-- The letters of a name that tell properties apart: spaces, hyphens, underscores and a leading
"is" count for nothing, nor does case. -/
def looseName (name : String) : String :=
  let lower := name.toList.map Char.toLower
  let stem := match lower with
    | 'i' :: 's' :: rest => rest
    | _ => lower
  let letters := stem.filter fun c => c.toNat < 128 && c != ' ' && c != '_' && c != '-'
  if stem.length < lower.length && letters == ['c'] then "isc" else String.ofList letters

/-- Whether one of the names is loosely the given one. -/
def matchesLoosely (name : String) (names : List String) : Bool :=
  names.any (looseName · == looseName name)

/-- The first row one of whose names is loosely the given one. -/
def row? {α : Type} (table : List (List String × α)) (name : String) :
    Option (List String × α) :=
  table.find? fun entry => matchesLoosely name entry.1

open GeneralCategory in
/-- The general categories and their groups by name. -/
def categories : List (List String × CharClass) := [
  (["Any"], .full),
  (["Assigned"], assigned),
  (["ASCII"], .ofLines ["0-7F"]),
  (["Lu", "Uppercase_Letter"], uppercaseLetter),
  (["Ll", "Lowercase_Letter"], lowercaseLetter),
  (["Lt", "Titlecase_Letter"], titlecaseLetter),
  (["LC", "Cased_Letter"], casedLetter),
  (["Lm", "Modifier_Letter"], modifierLetter),
  (["Lo", "Other_Letter"], otherLetter),
  (["L", "Letter"], letter),
  (["Mn", "Nonspacing_Mark"], nonspacingMark),
  (["Mc", "Spacing_Mark"], spacingMark),
  (["Me", "Enclosing_Mark"], enclosingMark),
  (["M", "Mark", "Combining_Mark"], mark),
  (["Nd", "Decimal_Number", "digit"], decimalNumber),
  (["Nl", "Letter_Number"], letterNumber),
  (["No", "Other_Number"], otherNumber),
  (["N", "Number"], number),
  (["Pc", "Connector_Punctuation"], connectorPunctuation),
  (["Pd", "Dash_Punctuation"], dashPunctuation),
  (["Ps", "Open_Punctuation"], openPunctuation),
  (["Pe", "Close_Punctuation"], closePunctuation),
  (["Pi", "Initial_Punctuation"], initialPunctuation),
  (["Pf", "Final_Punctuation"], finalPunctuation),
  (["Po", "Other_Punctuation"], otherPunctuation),
  (["P", "Punctuation", "punct"], punctuation),
  (["Sm", "Math_Symbol"], mathSymbol),
  (["Sc", "Currency_Symbol"], currencySymbol),
  (["Sk", "Modifier_Symbol"], modifierSymbol),
  (["So", "Other_Symbol"], otherSymbol),
  (["S", "Symbol"], symbol),
  (["Zs", "Space_Separator"], spaceSeparator),
  (["Zl", "Line_Separator"], lineSeparator),
  (["Zp", "Paragraph_Separator"], paragraphSeparator),
  (["Z", "Separator"], separator),
  (["Cc", "Control", "cntrl"], control),
  (["Cf", "Format"], format),
  (["Co", "Private_Use"], privateUse),
  (["Cn", "Unassigned"], unassigned),
  (["C", "Other"], other)]

/-- A general category by name. -/
def category? (name : String) : Option CharClass := (row? categories name).map (·.2)

/-- A script by name. -/
def script? (name : String) : Option CharClass := (row? Script.named name).map (·.2)

/-- The characters that are used with a script, by its name. -/
def scriptUsers? (name : String) : Option CharClass := do
  let (names, script) ← row? Script.named name
  return Script.users (← names.head?) script

/-- A property, general category or script by name. -/
def named? (name : String) : Option CharClass :=
  (row? named name).map (·.2) <|> category? name <|> script? name

/-- The properties with values: their names, and the class of a value by its name. -/
def valuedProperties : List (List String × (String → Option CharClass)) := [
  (["gc", "General_Category"], category?),
  (["sc", "Script"], script?),
  (["scx", "Script_Extensions"], scriptUsers?),
  (["age"], fun value => Age.upTo? (matchesLoosely value)),
  (["GCB", "Grapheme_Cluster_Break"], fun value => (row? Break.grapheme value).map (·.2)),
  (["WB", "Word_Break"], fun value => (row? Break.word value).map (·.2)),
  (["SB", "Sentence_Break"], fun value => (row? Break.sentence value).map (·.2))]

/-- A value of a property, as in `Script=Greek`. -/
def valued? (property value : String) : Option CharClass := do
  let (_, classOf) ← row? valuedProperties property
  classOf value

end CharClass

end DecisionFlow
