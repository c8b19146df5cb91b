import DecisionFlow.Regex

/-!
# Building expressions

Expressions are put together so that they stay small: neighbouring literals become one, sequences
and choices hold none of their own kind, and a choice between single characters is a set of them.

- `Regex.isZeroWidth`: whether an expression matches the empty text alone.
- `Regex.ofSet`, `Regex.ofSeq`, `Regex.ofEither`, `Regex.ofRepeated`.
-/

namespace DecisionFlow.Regex

open Unicode

/-! ## Width and equality -/

mutual

/-- Whether only the empty text can match. -/
def isZeroWidth : Regex → Bool
  | empty | look _ => true
  | literal _ | charOf _ => false
  | seq parts => areZeroWidth parts
  | either branches => areZeroWidth branches
  | repeated r _ max => max.isSome && isZeroWidth r
  | group r => isZeroWidth r

/-- Whether all of the expressions match the empty text alone. -/
def areZeroWidth : List Regex → Bool
  | [] => true
  | r :: rest => isZeroWidth r && areZeroWidth rest

end

mutual

/-- Whether expressions are the same. Groups are kept apart from each other, so none is the same as
another. -/
def same : Regex → Regex → Bool
  | empty, empty => true
  | literal a, literal b => a == b
  | charOf s, charOf t => s == t
  | look a, look b => a == b
  | seq a, seq b => allSame a b
  | either a, either b => allSame a b
  | repeated a min max, repeated b min' max' => min == min' && max == max' && same a b
  | _, _ => false

/-- Whether lists of expressions are the same. -/
def allSame : List Regex → List Regex → Bool
  | [], [] => true
  | a :: rest, b :: others => same a b && allSame rest others
  | _, _ => false

end

/-! ## Sets and sequences -/

/-- One character of a set. -/
def ofSet (set : RangeSet) : Regex :=
  match set.only? with
  | some c => literal [c]
  | none => charOf set

/-- The parts of a sequence of parts. -/
def partsOf : Regex → List Regex
  | empty => []
  | seq parts => parts
  | r => [r]

/-- Joins neighbouring literals. -/
def joinLiterals (parts : List Regex) : List Regex :=
  parts.foldr
    (fun part joined =>
      match part, joined with
      | literal a, literal b :: rest => literal (a ++ b) :: rest
      | part, joined => part :: joined)
    []

/-- All parts, one after the other. -/
def ofSeq (parts : List Regex) : Regex :=
  match joinLiterals (parts.flatMap partsOf) with
  | [] => empty
  | [single] => single
  | parts => seq parts

/-! ## Choices -/

/-- The branches of a choice between choices. -/
def branchesOf : Regex → List Regex
  | either branches => branches
  | r => [r]

/-- The set of the characters that the expression stands for, if it stands for single ones. -/
def set? : Regex → Option RangeSet
  | literal [c] => some (.ofChars [c])
  | charOf set => some set
  | _ => none

/-- A choice between branches as they are. -/
def ofBranches (branches : List Regex) : Regex :=
  match branches.flatMap branchesOf with
  | [] => charOf .empty
  | [single] => single
  | branches =>
    match branches.mapM set? with
    | some sets => ofSet (.unions sets)
    | none => either branches

/-- How many parts two sequences have in common at their front. -/
def commonLength : List Regex → List Regex → Nat
  | a :: rest, b :: others => if same a b then commonLength rest others + 1 else 0
  | _, _ => 0

/-- The parts of a sequence of several parts. -/
def seqParts? : Regex → Option (List Regex)
  | seq parts => some parts
  | _ => none

/-- A choice. Parts that all its branches begin with stand in front of it. -/
def ofEither (branches : List Regex) : Regex :=
  match ofBranches branches with
  | either branches =>
    match branches.mapM seqParts? with
    | some (first :: others) =>
      let common := others.foldl (fun n parts => min n (commonLength first parts)) first.length
      if common = 0 then either branches
      else
        let rests := (first :: others).map fun parts => ofSeq (parts.drop common)
        ofSeq (first.take common ++ [ofBranches rests])
    | _ => either branches
  | r => r

/-! ## Repetitions -/

/-- At least `min` and at most `max` matches in a row. More than one match of the empty text is none
more. -/
def ofRepeated (r : Regex) (min : Nat) (max : Option Nat) : Regex :=
  let atMostOnce := isZeroWidth r
  let min := if atMostOnce then Nat.min min 1 else min
  let max := if atMostOnce then some (Nat.min (max.getD 1) 1) else max
  if max == some 0 then empty
  else if min = 1 ∧ max = some 1 then r
  else repeated r min max

end DecisionFlow.Regex
