import DecisionFlow.Regex.Build
import DecisionFlow.Regex.Utf8

/-!
# The size of expressions

An expression is as large as the automaton that reads the bytes of a match, from the front or from
the back. Repetitions make copies of what they repeat.

- `Regex.size`: the bytes of memory for the automaton of an expression.
- `Regex.isTooLarge`: whether one of its automata needs more memory than `Regex.sizeLimit`.
-/

namespace DecisionFlow.Regex

open Utf8

/-- Where an automaton begins to read a match. -/
inductive Direction where
  | fromFront
  | fromBack
deriving DecidableEq, Repr

/-! ## Literals -/

/-- The bytes of characters, in the order of reading. -/
def bytesOf (direction : Direction) (chars : List Char) : List UInt8 :=
  let bytes := (String.ofList chars).toUTF8.toList
  match direction with
  | .fromFront => bytes
  | .fromBack => bytes.reverse

/-- What follows each byte that words begin with. -/
def byFirst (words : List (List UInt8)) : List (UInt8 × List (List UInt8)) :=
  words.foldr
    (fun word found =>
      match word with
      | [] => found
      | b :: rest =>
        match found.lookup b with
        | some _ => found.map fun entry => if entry.1 = b then (b, rest :: entry.2) else entry
        | none => (b, [rest]) :: found)
    []

/-- Words cut where one of them ends. An end in front of which there is no word counts once. -/
def cutAtEnds (words : List (List UInt8)) : List (List (List UInt8)) :=
  let (pieces, last) := words.foldl
    (fun (pieces, last) word =>
      if !word.isEmpty then (pieces, last ++ [word])
      else if last.isEmpty && !pieces.isEmpty && pieces.all (·.isEmpty) then (pieces, last)
      else (pieces ++ [last], []))
    (([], []) : List (List (List UInt8)) × List (List UInt8))
  pieces ++ [last]

/-- The size of the states that read one of several words: words share the states for what they
begin with, unless a word ends there between them. -/
def wordsSize : Nat → List (List UInt8) → Nat
  | 0, _ => 0
  | fuel + 1, words =>
    let pieces := cutAtEnds words
    let sizes := pieces.map fun piece =>
      let starts := byFirst piece
      let step := match starts.length with
        | 0 => 0
        | 1 => stateSize + linkSize
        | n => stateSize + stepSize * n + linkSize
      let further := starts.map fun start =>
        if start.2.all (·.isEmpty) then 0 else wordsSize fuel start.2
      step + further.sum
    stateSize + linkSize * (pieces.length - 1) + sizes.sum

/-- The characters of an expression that is a literal. -/
def literal? : Regex → Option (List Char)
  | literal chars => some chars
  | _ => none

/-- The size of a choice between literals. -/
def literalsSize (direction : Direction) (literals : List (List Char)) : Nat :=
  let words := literals.map (bytesOf direction)
  let longest := words.foldl (fun n word => max n word.length) 0
  stateSize + wordsSize (longest + 1) words

/-! ## Expressions -/

mutual

/-- The number of bytes of the shortest match; none if there may be no match. -/
def shortest? : Regex → Option Nat
  | empty | look _ => some 0
  | literal chars => some (bytesOf .fromFront chars).length
  | charOf set => if set.isEmpty then none else some 1
  | seq parts => shortestOfAll? parts
  | either branches => shortestOfAny? branches
  | repeated r min _ => (shortest? r).map (min * ·)
  | group r => shortest? r

/-- The number of bytes of the shortest match of all expressions in a row. -/
def shortestOfAll? : List Regex → Option Nat
  | [] => some 0
  | r :: rest => do return (← shortest? r) + (← shortestOfAll? rest)

/-- The number of bytes of the shortest match of any of the expressions. -/
def shortestOfAny? : List Regex → Option Nat
  | [] => none
  | [r] => shortest? r
  | r :: rest => do return min (← shortest? r) (← shortestOfAny? rest)

end

/-- The size of as many copies. -/
def copies (n size : Nat) : Nat := if n = 0 then stateSize else n * size

/-- The size of a state that goes on with one of two others. -/
def forkSize : Nat := stateSize + 2 * linkSize

mutual

/-- The size of the states that read a match. -/
def bodySize (direction : Direction) : Regex → Nat
  | empty | look _ => stateSize
  | literal chars => stateSize * (bytesOf direction chars).length
  | charOf set =>
    match direction with
    | .fromFront => forwardSize set
    | .fromBack => backwardSize set
  | seq parts => bodySizes direction parts
  | either branches =>
    match branches.mapM literal? with
    | some literals => literalsSize direction literals
    | none => 2 * stateSize + linkSize * branches.length + bodySizes direction branches
  | repeated r min max =>
    let size := bodySize direction r
    match max with
    | none =>
      if 0 < min then min * size + forkSize
      else if (shortest? r).any (0 < ·) then size + forkSize
      else size + 2 * forkSize + stateSize
    | some max =>
      if min = max then copies min size
      else if max = 1 then size + forkSize + stateSize
      else copies min size + stateSize + (max - min) * (size + forkSize)
  | group r =>
    match direction with
    | .fromFront => bodySize direction r + 2 * stateSize
    | .fromBack => bodySize direction r

/-- The sum of the sizes of expressions. -/
def bodySizes (direction : Direction) : List Regex → Nat
  | [] => 0
  | r :: rest => bodySize direction r + bodySizes direction rest

end

mutual

/-- Whether every match starts at the start of the text, or ends at its end. -/
def isAnchored (direction : Direction) : Regex → Bool
  | look condition => condition == match direction with
    | .fromFront => .textStart
    | .fromBack => .textEnd
  | seq parts =>
    match direction with
    | .fromFront => startsAnchored direction parts
    | .fromBack => endsAnchored direction parts
  | either branches => areAnchored direction branches
  | repeated r min _ => 0 < min && isAnchored direction r
  | group r => isAnchored direction r
  | _ => false

/-- Whether one of the first parts is anchored, up to one that takes characters. -/
def startsAnchored (direction : Direction) : List Regex → Bool
  | [] => false
  | r :: rest => isAnchored direction r || isZeroWidth r && startsAnchored direction rest

/-- Whether one of the last parts is anchored, down to one that takes characters. -/
def endsAnchored (direction : Direction) : List Regex → Bool
  | [] => false
  | r :: rest => endsAnchored direction rest || areZeroWidth rest && isAnchored direction r

/-- Whether all of the expressions are anchored. -/
def areAnchored (direction : Direction) : List Regex → Bool
  | [] => true
  | r :: rest => isAnchored direction r && areAnchored direction rest

end

/-- The size of the states that pass over what stands in front of a match. -/
def approachSize (direction : Direction) (r : Regex) : Nat :=
  if isAnchored direction r then stateSize else forkSize + 2 * stateSize + stepSize

/-- The bytes of memory for the automaton: the states in front of a match, those that read it, and
one behind it. The whole match is kept where it is read from the front. -/
def size (direction : Direction) (r : Regex) : Nat :=
  approachSize direction r + bodySize direction (group r) + stateSize

/-- The bytes of memory that an automaton may need. -/
def sizeLimit : Nat := 0xA00000

/-- Whether one of the automata of an expression needs more memory than it may. -/
def isTooLarge (r : Regex) : Bool :=
  sizeLimit < size .fromFront r || sizeLimit < size .fromBack r

end DecisionFlow.Regex
