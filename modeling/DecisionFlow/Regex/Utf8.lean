import DecisionFlow.Unicode.RangeSet
import Std.Data.HashMap

/-!
# Sets of characters as bytes

An automaton that reads the bytes of a text takes a character of a set by the sequences of bytes
that the characters of the set are made of.

- `Utf8.sequences`: a set as sequences of ranges of bytes.
- `Utf8.forwardSize`: the bytes of memory for the states that read a set from the front, where equal
  states are kept once.
- `Utf8.backwardSize`: the bytes of memory for the states that read a set from the back, where
  sequences share the states for what they begin with.
-/

namespace DecisionFlow.Utf8

open Unicode

/-! ## Sequences -/

/-- Bytes that may stand at one place of a sequence, and then those at the next one. -/
abbrev Sequence := List Range

/-- The sequences for codes of as many digits to the base 64 behind the first one. -/
def spans : Nat → Nat → Nat → List Sequence
  | 0, low, high => [[⟨low, high⟩]]
  | n + 1, low, high =>
    let unit := 64 * Nat.pow 64 n
    let first := low / unit
    let last := high / unit
    if first = last then
      (spans n (low % unit) (high % unit)).map (Range.single first :: ·)
    else
      let cutLow := low % unit != 0
      let cutHigh := high % unit != unit - 1
      let fullFirst := if cutLow then first + 1 else first
      let afterFull := if cutHigh then last else last + 1
      (if cutLow then (spans n (low % unit) (unit - 1)).map (Range.single first :: ·) else [])
        ++ (if fullFirst < afterFull then
            [⟨fullFirst, afterFull - 1⟩ :: List.replicate (n + 1) ⟨0, 63⟩]
          else [])
        ++ (if cutHigh then (spans n 0 (high % unit)).map (Range.single last :: ·) else [])

/-- The bytes of a sequence of digits: the first byte tells how many follow. -/
def withMarks (lead : Nat) : Sequence → Sequence
  | [] => []
  | r :: rest =>
    ⟨r.first + lead, r.last + lead⟩ :: rest.map fun r => ⟨r.first + 0x80, r.last + 0x80⟩

/-- The codes of as many bytes: how many bytes follow the first one, what is added to the first one,
and the codes. -/
def blocks : List (Nat × Nat × Range) := [
  (0, 0, ⟨0, 0x7F⟩),
  (1, 0xC0, ⟨0x80, 0x7FF⟩),
  (2, 0xE0, ⟨0x800, 0xD7FF⟩),
  (2, 0xE0, ⟨0xE000, 0xFFFF⟩),
  (3, 0xF0, ⟨0x10000, 0x10FFFF⟩)]

/-- The sequences for the codes of a range. -/
def ofRange (r : Range) : List Sequence :=
  blocks.flatMap fun (following, lead, block) =>
    let low := max r.first block.first
    let high := min r.last block.last
    if low ≤ high then (spans following low high).map (withMarks lead) else []

/-- The sequences for the characters of a set, in ascending order. -/
def sequences (s : RangeSet) : List Sequence := s.ranges.toList.flatMap ofRange

/-- Neighbouring sequences put together that begin in the same way: what they begin with, and what
follows. -/
def grouped (sequences : List Sequence) : List (Range × List Sequence) :=
  sequences.foldr
    (fun sequence groups =>
      match sequence, groups with
      | [], groups => groups
      | r :: rest, (s, rests) :: others =>
        if r = s then (s, rest :: rests) :: others else (r, [rest]) :: (s, rests) :: others
      | r :: rest, [] => [(r, [rest])])
    []

/-! ## Memory -/

/-- The bytes of memory for a state. -/
def stateSize : Nat := 32

/-- The bytes of memory for a step that a state may take on a range of bytes. -/
def stepSize : Nat := 8

/-- The bytes of memory for a state that another one may go on with. -/
def linkSize : Nat := 4

/-- The size of a set of ASCII characters: one state with a step for each range, and the state
behind. -/
def asciiSize (s : RangeSet) : Nat := 2 * stateSize + stepSize * s.ranges.size

/-- Whether a set holds ASCII characters alone. -/
def isAscii (s : RangeSet) : Bool := s.ranges.all (·.last < 0x80)

/-- The steps of a state: each range of bytes leads to a state by its number. -/
abbrev Steps := List (Nat × Nat × Nat)

/-- The number of a state, among those made so far and those of other sequences; zero is the state
behind all sequences. -/
def stateNumber : Nat → List Sequence → StateM (Std.HashMap Steps Nat) Nat
  | 0, _ => return 0
  | depth + 1, sequences => do
    if sequences.all (·.isEmpty) then return 0
    let steps ← (grouped sequences).mapM fun (r, rests) => do
      return (r.first, r.last, ← stateNumber depth rests)
    let states ← get
    match states[steps]? with
    | some number => return number
    | none =>
      let number := states.size + 1
      set (states.insert steps number)
      return number

/-- How many bytes a character has at the most. -/
def longest : Nat := 4

/-- The size of the states that read a character of a set from the front. -/
def forwardSize (s : RangeSet) : Nat :=
  if isAscii s then asciiSize s
  else
    let (_, states) := (stateNumber longest (sequences s)).run {}
    states.fold (fun size steps _ => size + stateSize + stepSize * steps.length) stateSize

/-- How many states read sequences from the back. -/
def backwardStates : Nat → List Sequence → Nat
  | 0, _ => 0
  | depth + 1, sequences =>
    (grouped sequences).foldl (fun n group => n + 1 + backwardStates depth group.2) 0

/-- The size of the states that read a character of a set from the back: one that goes on with every
sequence, the state behind, and those of the sequences. -/
def backwardSize (s : RangeSet) : Nat :=
  if isAscii s then asciiSize s
  else
    let found := sequences s
    2 * stateSize + linkSize * found.length + stateSize * backwardStates longest found

end DecisionFlow.Utf8
