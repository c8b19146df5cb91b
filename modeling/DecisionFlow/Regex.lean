import DecisionFlow.Unicode.Property

/-!
# Regular expressions

Expressions over characters and the question whether a text holds a match. The matcher walks the
expression with the set of places of the text that a match has reached so far, so its work is
bounded by the sizes of the expression and the text.

- `Look`, `Look.holds`: conditions on a place in a text.
- `Regex`: expressions.
- `Regex.reach`: the places that a match of an expression reaches from given places.
- `Regex.isMatch`: whether some part of a text matches.
-/

namespace DecisionFlow

/-- A place between two characters of a text. -/
structure Gap where
  before : Option Char
  after : Option Char
deriving DecidableEq, Repr

/-- The gaps of a text that follows the character `before`. -/
def gapsAfter (before : Option Char) : List Char → List Gap
  | [] => [⟨before, none⟩]
  | c :: rest => ⟨before, some c⟩ :: gapsAfter (some c) rest

/-- The gaps of a text, one more than it has characters. -/
def gaps (text : List Char) : List Gap := gapsAfter none text

/-! ## Conditions on places -/

/-- Where a place lies with regard to words. -/
inductive WordPlace where
  | boundary
  | noBoundary
  | start
  | finish
  /-- No word stands in front. -/
  | startHalf
  /-- No word follows. -/
  | finishHalf
deriving DecidableEq, Repr

/-- Conditions on a place. -/
inductive Look where
  | textStart
  | textEnd
  /-- The start of a line. With `crlf` a carriage return ends a line too. -/
  | lineStart (crlf : Bool)
  | lineEnd (crlf : Bool)
  /-- The characters of words are those of Unicode, or those of ASCII. -/
  | word (place : WordPlace) (unicode : Bool)
deriving DecidableEq, Repr

/-- Whether a character belongs to a word. -/
def isWordChar (unicode : Bool) (c : Char) : Bool :=
  if unicode then Unicode.wordCharacter.contains c else c.isAlphanum || c == '_'

/-- Whether a place lies so between what comes before and after it. -/
def WordPlace.holds (before after : Bool) : WordPlace → Bool
  | boundary => before != after
  | noBoundary => before == after
  | start => !before && after
  | finish => before && !after
  | startHalf => !before
  | finishHalf => !after

namespace Look

/-- Whether a gap meets the condition. -/
def holds : Look → Gap → Bool
  | textStart, g => g.before.isNone
  | textEnd, g => g.after.isNone
  | lineStart crlf, g =>
    g.before.isNone || g.before == some '\n' || crlf && g.before == some '\r' &&
      g.after != some '\n'
  | lineEnd false, g => g.after.isNone || g.after == some '\n'
  | lineEnd true, g =>
    g.after.isNone || g.after == some '\r' || g.after == some '\n' && g.before != some '\r'
  | word place unicode, g =>
    place.holds (g.before.any (isWordChar unicode)) (g.after.any (isWordChar unicode))

end Look

/-! ## Expressions -/

/-- Regular expressions. -/
inductive Regex where
  /-- The empty text. -/
  | empty
  /-- These characters, one after the other. -/
  | literal (chars : List Char)
  /-- One character of a set. -/
  | charOf (set : Unicode.RangeSet)
  /-- The empty text at a place that meets a condition. -/
  | look (condition : Look)
  /-- All parts, one after the other. -/
  | seq (parts : List Regex)
  /-- One of the branches. -/
  | either (branches : List Regex)
  /-- At least `min` and at most `max` matches in a row. -/
  | repeated (r : Regex) (min : Nat) (max : Option Nat)
  /-- A part of the match that is kept. -/
  | group (r : Regex)

/-- Which gaps of a text have been reached, in their order. -/
abbrev Marks := List Bool

namespace Regex

/-- Applies a step until it changes nothing, and at most as often as `rounds` says. -/
def iterate (step : Marks → Marks) : Nat → Marks → Marks
  | 0, marks => marks
  | rounds + 1, marks =>
    let next := step marks
    if next == marks then marks else iterate step rounds next

/-- The gaps behind the characters that pass a test and follow a marked gap. -/
def stepOver (text : List Gap) (test : Char → Bool) (marks : Marks) : Marks :=
  false :: (List.zipWith (fun gap marked => marked && gap.after.any test) text marks).dropLast

mutual

/-- The gaps that a match reaches which starts at a marked gap. A repetition settles within as many
rounds as there are gaps: a longer walk passes through a gap twice. -/
def reach (text : List Gap) : Regex → Marks → Marks
  | empty, marks => marks
  | literal chars, marks => chars.foldl (fun marks c => stepOver text (· == c) marks) marks
  | charOf set, marks => stepOver text set.contains marks
  | look condition, marks =>
    List.zipWith (fun gap marked => marked && condition.holds gap) text marks
  | seq parts, marks => reachAll text parts marks
  | either branches, marks => reachAny text branches marks
  | repeated r min max, marks =>
    let rounds := text.length
    let extend := fun marks => List.zipWith (· || ·) marks (reach text r marks)
    let required := iterate (fun marks => reach text r marks) (Nat.min min rounds) marks
    match max with
    | none => iterate extend rounds required
    | some max => iterate extend (Nat.min (max - min) rounds) required
  | group r, marks => reach text r marks

/-- The gaps that matches of all parts in a row reach. -/
def reachAll (text : List Gap) : List Regex → Marks → Marks
  | [], marks => marks
  | part :: rest, marks => reachAll text rest (reach text part marks)

/-- The gaps that a match of one of the branches reaches. -/
def reachAny (text : List Gap) : List Regex → Marks → Marks
  | [], marks => marks.map fun _ => false
  | branch :: rest, marks =>
    List.zipWith (· || ·) (reach text branch marks) (reachAny text rest marks)

end

/-- Whether some part of the text matches. -/
def isMatch (r : Regex) (text : String) : Bool :=
  let places := gaps text.toList
  (r.reach places (places.map fun _ => true)).any id

end Regex

end DecisionFlow
