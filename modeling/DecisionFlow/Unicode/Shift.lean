import DecisionFlow.Unicode.RangeSet

/-!
# Shifts of characters

A shift moves the characters of a run by a distance. Tables of shifts are written as words:
`61-7A-20` moves a range down, `100-12E/2+1` every second code of a range up.

- `Shift.apply`, `Shift.unapply`: where a character is moved to, and where it is moved from.
- `Shift.pairs`: all codes that are moved, with the codes they are moved to.
-/

namespace DecisionFlow.Unicode

/-- Moves every character of some ranges by a distance. -/
structure Shift where
  ranges : List Range
  distance : Int
deriving DecidableEq, Repr

namespace Shift

/-- Reads ranges followed by a signed distance. -/
def ofWord (word : List Char) : Shift :=
  let isSign := fun c => c == '+' || c == '-'
  let distance := (word.reverse.takeWhile (!isSign ·)).reverse
  let run := word.take (word.length - distance.length - 1)
  let negative := word[run.length]? == some '-'
  ⟨Range.ofWord run, if negative then -(hexValue distance : Int) else hexValue distance⟩

/-- Reads the words of several lines. -/
def ofLines (lines : List String) : List Shift :=
  lines.flatMap fun line => (line.splitOn " ").map fun word => ofWord word.toList

/-- Whether the shift moves a code. -/
def moves (shift : Shift) (code : Nat) : Bool :=
  shift.ranges.any fun range => range.first ≤ code && code ≤ range.last

/-- The character moved to, or the character itself if no shift moves it. -/
def apply (shifts : List Shift) (c : Char) : Char :=
  match shifts.find? (·.moves c.toNat) with
  | some shift => Char.ofNat (c.toNat + shift.distance).toNat
  | none => c

/-- The character moved to `c`, or `c` itself if there is none. -/
def unapply (shifts : List Shift) (c : Char) : Char :=
  match shifts.find? (fun shift => shift.moves (c.toNat - shift.distance).toNat) with
  | some shift => Char.ofNat (c.toNat - shift.distance).toNat
  | none => c

/-- The codes that shifts move, with the codes they are moved to. -/
def pairs (shifts : List Shift) : List (Nat × Nat) :=
  shifts.flatMap fun shift => shift.ranges.flatMap fun range =>
    (List.range (range.last + 1 - range.first)).map fun n =>
      (range.first + n, (range.first + n + shift.distance).toNat)

end Shift

end DecisionFlow.Unicode
