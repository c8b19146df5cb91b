import DecisionFlow.Regex.Escape

/-!
# Classes in brackets

A class in brackets holds characters, ranges, named classes and further classes in brackets. The
signs `&&`, `--` and `~~` stand for the intersection, the difference and the symmetric difference of
what is on their left and the members on their right.

- `Bracketed.Operand`: a class with the depth of its nesting.
- `Bracketed.OpenClass`: a class that has been read up to some place.
- `Bracketed.read`: reads a class in brackets.
-/

namespace DecisionFlow.Bracketed

open Text (Reader)
open Text.Reader Unicode

/-- A class and how deep it nests. -/
structure Operand where
  set : CharClass
  depth : Nat

/-- The union of members. -/
def union : List Operand → Operand
  | [] => ⟨.empty, 0⟩
  | [single] => single
  | members =>
    ⟨.unions (members.map (·.set)), members.foldl (fun d member => max d member.depth) 0 + 1⟩

/-- The signs between sets. -/
inductive SetOperator where
  | intersection
  | difference
  | symmetricDifference
deriving DecidableEq, Repr

/-- What a sign makes of two classes. -/
def SetOperator.apply : SetOperator → CharClass → CharClass → CharClass
  | .intersection, left, right => left.inter right
  | .difference, left, right => left.diff right
  | .symmetricDifference, left, right => left.symmDiff right

/-- The operator that is written as this character twice. -/
def SetOperator.ofSign? : Char → Option SetOperator
  | '&' => some .intersection
  | '-' => some .difference
  | '~' => some .symmetricDifference
  | _ => none

/-- A class whose closing bracket has not been read. -/
structure OpenClass where
  negated : Bool
  /-- The members since the last operator, latest first. -/
  members : List Operand := []
  /-- What stands left of the last operator. -/
  left : Option (Operand × SetOperator) := none

namespace OpenClass

/-- Adds a member. -/
def add (o : OpenClass) (member : Operand) : OpenClass := { o with members := member :: o.members }

/-- All that has been read of the class. -/
def content (m : Modes) (o : OpenClass) : Operand :=
  let right := union o.members.reverse
  match o.left with
  | none => right
  | some (left, operator) =>
    ⟨operator.apply (m.fold left.set) (m.fold right.set), max left.depth right.depth + 1⟩

/-- Puts an operator after what has been read. -/
def operate (m : Modes) (o : OpenClass) (operator : SetOperator) : OpenClass :=
  { o with members := [], left := some (o.content m, operator) }

/-- The class once its closing bracket has been read. -/
def close (m : Modes) (o : OpenClass) : Option Operand := do
  let content := o.content m
  return ⟨← m.complement o.negated (m.fold content.set), content.depth + 1⟩

end OpenClass

/-- A single character as a member. -/
def just (c : Char) : Operand := ⟨.ofChars [c], 0⟩

/-- Reads the opening of a class, after its bracket: a caret for the complement, and the hyphens or
the closing bracket that stand for themselves there. -/
def opening (m : Modes) : Reader OpenClass := do
  m.filler
  let negated ← skips '^'
  m.filler
  let hyphens ← m.takeSpaced (· == '-')
  let o : OpenClass := { negated, members := hyphens.map just }
  if hyphens.isEmpty && (← skips ']') then
    m.filler
    return o.add (just ']')
  return o

/-- A class of ASCII characters by its name between colons, as in `[:alpha:]`, after its bracket,
with the characters that follow it. A caret in front of the name stands for the complement. -/
def asciiName? : List Char → Option (CharClass × Bool × List Char)
  | ':' :: rest =>
    let negated := rest.head? == some '^'
    let rest := if negated then rest.drop 1 else rest
    match rest.dropWhile (· != ':') with
    | ':' :: ']' :: after =>
      (CharClass.ascii? (String.ofList (rest.takeWhile (· != ':')))).map (·, negated, after)
    | _ => none
  | _ => none

/-- Reads a character or an escape. -/
def item (m : Modes) : Reader Primitive := do
  if ← skips '\\' then Primitive.escape m else return .literal (← next) false

/-- An item as a member. -/
def member (m : Modes) : Primitive → Option Operand
  | .literal c _ => if m.unicode || c.toNat < 128 then some (just c) else none
  | .charClass set => some ⟨set, 0⟩
  | .look _ => none

/-- All characters between two, both included. -/
def range (m : Modes) : Primitive → Primitive → Option Operand
  | .literal low _, .literal high _ =>
    if low ≤ high ∧ (m.unicode ∨ high.toNat < 128) then some ⟨.between low high, 0⟩
    else none
  | _, _ => none

/-- The next character apart from filler. A comment counts as filler up to its first character. -/
def upcoming (m : Modes) (chars : List Char) : Option Char :=
  if m.verbose then
    match chars.dropWhile Text.isBlank with
    | '#' :: rest => (rest.dropWhile Text.isBlank).head?
    | rest => rest.head?
  else chars.head?

/-- Reads an item or a range. A hyphen in front of a closing bracket or of another hyphen is none of
a range. -/
def itemOrRange (m : Modes) : Reader Operand := do
  let first ← item m
  m.filler
  match ← get with
  | '-' :: rest =>
    if upcoming m rest == some ']' || upcoming m rest == some '-' then member m first
    else
      set rest
      m.filler
      let last ← item m
      range m first last
  | _ => member m first

/-- Reads on with these open classes, innermost first, up to the end of the outermost one. -/
def members (m : Modes) : Nat → List OpenClass → Reader Operand
  | fuel + 1, top :: outer => do
    m.filler
    match ← get with
    | '[' :: rest =>
      match asciiName? rest with
      | some (named, negated, rest) =>
        set rest
        let found ← m.complement negated (m.fold named)
        Bracketed.members m fuel (top.add ⟨found, 0⟩ :: outer)
      | none =>
        set rest
        let inner ← opening m
        Bracketed.members m fuel (inner :: top :: outer)
    | ']' :: rest =>
      set rest
      let closed ← top.close m
      match outer with
      | [] => return closed
      | parent :: others => Bracketed.members m fuel (parent.add closed :: others)
    | c :: rest =>
      match SetOperator.ofSign? c, rest.head? == some c with
      | some operator, true =>
        set (rest.drop 1)
        Bracketed.members m fuel (top.operate m operator :: outer)
      | _, _ =>
        let member ← itemOrRange m
        Bracketed.members m fuel (top.add member :: outer)
    | [] => failure
  | _, _ => failure

/-- Reads a class, after its opening bracket. -/
def read (m : Modes) : Reader Operand := do
  let outermost ← opening m
  Bracketed.members m ((← get).length + 1) [outermost]

end DecisionFlow.Bracketed
