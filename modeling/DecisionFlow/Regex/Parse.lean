import DecisionFlow.Regex.Bracketed
import DecisionFlow.Regex.Size
import DecisionFlow.Unicode.Newest

/-!
# Patterns

The text form of regular expressions.

- `Pattern.Part`: an expression that has been read, with the depth of its nesting.
- `Pattern.Group`: a group whose closing parenthesis has not been read.
- `Regex.ofPattern`: the expression of a pattern, or why the pattern is refused.
-/

namespace DecisionFlow

namespace Pattern

open Text (Reader)
open Text.Reader

/-- How deep groups, repetitions, sequences, choices and classes may nest. -/
def depthLimit : Nat := 250

/-- A part of a sequence. A change of modes is a part that cannot be repeated. -/
structure Part where
  regex : Regex
  depth : Nat
  repeatable : Bool := true

/-- Puts one part around others. -/
def Part.around (join : List Regex → Regex) : List Part → Part
  | [] => ⟨join [], 0, true⟩
  | [single] => single
  | parts =>
    ⟨join (parts.map (·.regex)), parts.foldl (fun d part => max d part.depth) 0 + 1, true⟩

/-- An open group, or the whole pattern. -/
structure Group where
  /-- The finished alternatives, latest first. -/
  alternatives : List Part := []
  /-- The parts of the alternative at hand, latest first. -/
  parts : List Part := []
  /-- The modes in force behind the group. -/
  outside : Modes
  /-- Whether what the group matches is kept. -/
  isKept : Bool := false

namespace Group

/-- Adds a part. -/
def add (g : Group) (part : Part) : Group := { g with parts := part :: g.parts }

/-- The sequence of the alternative at hand. -/
def sequence (g : Group) : Part := Part.around .ofSeq g.parts.reverse

/-- Ends the alternative at hand. -/
def nextAlternative (g : Group) : Group :=
  { g with alternatives := g.sequence :: g.alternatives, parts := [] }

/-- All that has been read of the group. -/
def content (g : Group) : Part :=
  match g.alternatives with
  | [] => g.sequence
  | alternatives => Part.around .ofEither (g.sequence :: alternatives).reverse

/-- Repeats the last part. -/
def repeatLast (g : Group) (min : Nat) (max : Option Nat) : Option Group :=
  match g.parts with
  | [] => none
  | last :: before =>
    if last.repeatable then
      some { g with parts := ⟨.ofRepeated last.regex min max, last.depth + 1, true⟩ :: before }
    else none

end Group

/-- A pattern that has been read up to some place. -/
structure State where
  group : Group
  /-- The groups around it, innermost first. -/
  outer : List Group := []
  modes : Modes := {}
  /-- The names of the groups so far. -/
  names : List String := []

namespace State

/-- Adds a part to the innermost group. -/
def add (s : State) (part : Part) : State := { s with group := s.group.add part }

/-- Opens a group. -/
def openGroup (s : State) (inside : Modes) ( isKept : Bool) : State :=
  { s with group := { outside := s.modes, isKept }, outer := s.group :: s.outer, modes := inside }

/-- Closes the innermost group. -/
def closeGroup (s : State) : Option State :=
  match s.outer with
  | [] => none
  | parent :: others =>
    let content := s.group.content
    let regex := if s.group.isKept then .group content.regex else content.regex
    some { s with
      group := parent.add ⟨regex, content.depth + 1, true⟩
      outer := others
      modes := s.group.outside }

end State

/-- Switches the mode of a letter on or off. -/
def switch (m : Modes) (on : Bool) : Char → Option Modes
  | 'i' => some { m with ignoreCase := on }
  | 'm' => some { m with multiLine := on }
  | 's' => some { m with dotAll := on }
  | 'u' => some { m with unicode := on }
  | 'R' => some { m with crlf := on }
  | 'x' => some { m with verbose := on }
  | 'U' => some m
  | _ => none

/-- Applies mode letters: those behind a hyphen are switched off. Each sign stands at most once, and
the hyphen not at the end. -/
def switches (m : Modes) (signs : List Char) : Option Modes := do
  guard (decide signs.Nodup && signs.getLast? != some '-')
  let on := signs.takeWhile (· != '-')
  let off := (signs.dropWhile (· != '-')).drop 1
  let m ← on.foldlM (fun m c => switch m true c) m
  off.foldlM (fun m c => switch m false c) m

/-- Whether a character may stand in the name of a group. -/
def isNameChar (first : Bool) (c : Char) : Bool :=
  c == '_' || Unicode.Newest.alphabetic.contains c
    || !first && (c == '.' || c == '[' || c == ']' || Unicode.Newest.number.contains c)

/-- Reads the name of a group up to its closing bracket. -/
def groupName : Reader String := do
  let name := (← get).takeWhile (· != '>')
  match name with
  | [] => failure
  | first :: others =>
    guard (isNameChar true first && others.all (isNameChar false))
    modify (·.drop name.length)
    expect '>'
    return String.ofList name

/-- Reads the opening of a group or a change of modes, after the parenthesis. -/
def group (s : State) : Reader State := do
  s.modes.filler
  if !(← skips '?') then return s.openGroup s.modes true
  match ← get with
  | 'P' :: '<' :: rest | '<' :: rest =>
    set rest
    let name ← groupName
    guard (!s.names.contains name)
    return { s.openGroup s.modes true with names := name :: s.names }
  | chars =>
    let signs := chars.takeWhile fun c => c != ':' && c != ')'
    let modes ← switches s.modes signs
    set (chars.drop signs.length)
    if ← skips ':' then return s.openGroup modes false
    expect ')'
    guard (!signs.isEmpty)
    return { s.add ⟨.empty, 0, false⟩ with modes }

/-- Reads a count. -/
def count (m : Modes) : Reader Nat := do
  modify (·.dropWhile Text.isBlank)
  let digits ← m.takeSpaced Char.isDigit
  modify (·.dropWhile Text.isBlank)
  guard (!digits.isEmpty)
  let n := digits.foldl (fun n c => 10 * n + (c.toNat - '0'.toNat)) 0
  guard (n < 0x100000000)
  return n

/-- Reads the counts of a repetition, after the opening brace. -/
def counts (m : Modes) : Reader (Nat × Option Nat) := do
  m.filler
  let min ← count m
  if !(← skips ',') then
    expect '}'
    return (min, some min)
  m.filler
  if ← skips '}' then return (min, none)
  let max ← count m
  expect '}'
  guard (min ≤ max)
  return (min, some max)

/-- A character or an escape as a part. -/
def part (m : Modes) : Primitive → Option Part
  | .literal c asByte =>
    if asByte && !m.unicode && 128 ≤ c.toNat then none
    else some ⟨.ofSet (m.variants c), 0, true⟩
  | .charClass set => some ⟨.ofSet set, 0, true⟩
  | .look condition => some ⟨.look condition, 0, true⟩

/-- Repeats the last part. A question mark behind the sign changes which match is preferred, and not
whether there is one. -/
def repetition (s : State) (min : Nat) (max : Option Nat) : Reader State := do
  let group ← s.group.repeatLast min max
  let _ ← skips '?'
  return { s with group }

/-- Reads what begins with the given character. -/
def step (s : State) (c : Char) : Reader State := do
  match c with
  | '(' => group s
  | ')' => s.closeGroup
  | '|' => return { s with group := s.group.nextAlternative }
  | '[' =>
    let operand ← Bracketed.read s.modes
    return s.add ⟨.ofSet operand.set, operand.depth, true⟩
  | '?' => repetition s 0 (some 1)
  | '*' => repetition s 0 none
  | '+' => repetition s 1 none
  | '{' =>
    let (min, max) ← counts s.modes
    s.modes.filler
    repetition s min max
  | '\\' =>
    let primitive ← Primitive.escape s.modes
    return s.add (← part s.modes primitive)
  | '.' => return s.add ⟨.ofSet (← s.modes.dot), 0, true⟩
  | '^' => return s.add ⟨.look s.modes.start, 0, true⟩
  | '$' => return s.add ⟨.look s.modes.finish, 0, true⟩
  | c => return s.add (← part s.modes (.literal c false))

/-- Reads on to the end of the pattern. -/
def toEnd : Nat → State → Reader State
  | 0, _ => failure
  | fuel + 1, s => do
    s.modes.filler
    match ← get with
    | [] => return s
    | c :: rest =>
      set rest
      toEnd fuel (← step s c)

/-- The expression of a pattern, of whatever size; none if the pattern is malformed. -/
def regex? (pattern : String) : Option Regex := do
  let chars := pattern.toList
  let (s, _) ← (toEnd (chars.length + 1) { group := { outside := {} } }).run chars
  guard s.outer.isEmpty
  let whole := s.group.content
  guard (whole.depth ≤ depthLimit)
  return whole.regex

end Pattern

/-- Why a pattern is refused. -/
inductive Regex.Problem where
  | malformed
  /-- The expression is larger than it may be. -/
  | tooLarge
deriving DecidableEq, Repr

/-- The expression of a pattern. -/
def Regex.ofPattern (pattern : String) : Except Regex.Problem Regex :=
  match Pattern.regex? pattern with
  | none => .error .malformed
  | some regex => if regex.isTooLarge then .error .tooLarge else .ok regex

end DecisionFlow
