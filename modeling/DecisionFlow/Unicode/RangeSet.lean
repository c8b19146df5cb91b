/-!
# Sets of characters

Tables of characters are written as words of hexadecimal codes: `41-5A` for a range, `100-136/2` for
every second code of a range, `B5` for one code.

- `RangeSet`, `RangeSet.contains`: a set given by the ranges of its codes.
- `RangeSet.ofLines`, `RangeSet.ofRanges`, `RangeSet.ofChars`: the set of a table, of any ranges,
  and of single characters.
- `RangeSet.union`, `RangeSet.complement`, `RangeSet.inter`, `RangeSet.diff`, `RangeSet.symmDiff`.
-/

namespace DecisionFlow.Unicode

/-- The value of a hexadecimal digit. -/
def hexDigit? (c : Char) : Option Nat :=
  if '0' ≤ c ∧ c ≤ '9' then some (c.toNat - '0'.toNat)
  else if 'a' ≤ c ∧ c ≤ 'f' then some (c.toNat - 'a'.toNat + 10)
  else if 'A' ≤ c ∧ c ≤ 'F' then some (c.toNat - 'A'.toNat + 10)
  else none

/-- The value of a word of hexadecimal digits; other characters count as zero. -/
def hexValue (digits : List Char) : Nat :=
  digits.foldl (fun value c => 16 * value + (hexDigit? c).getD 0) 0

/-- The codes from `first` to `last`. -/
structure Range where
  first : Nat
  last : Nat
deriving DecidableEq, Repr

namespace Range

/-- One code. -/
def single (code : Nat) : Range := ⟨code, code⟩

/-- The codes from `first` to `last`, every second of them. -/
def everySecond (first last : Nat) : List Range :=
  (List.range ((last - first) / 2 + 1)).map fun n => single (first + 2 * n)

/-- Reads a code, a range or every second code of a range. -/
def ofWord (word : List Char) : List Range :=
  let isHex := fun c => (hexDigit? c).isSome
  let first := hexValue (word.takeWhile isHex)
  match word.dropWhile isHex with
  | '-' :: rest =>
    let last := hexValue (rest.takeWhile isHex)
    if (rest.dropWhile isHex).isEmpty then [⟨first, last⟩] else everySecond first last
  | _ => [single first]

/-- Ranges in the order of their first codes, put together where they meet. -/
def joined : List Range → List Range
  | r :: s :: rest =>
    if s.first ≤ r.last + 1 then joined (⟨r.first, max r.last s.last⟩ :: rest)
    else r :: joined (s :: rest)
  | ranges => ranges
termination_by ranges => ranges.length

/-- The codes of characters that are below ascending ranges, between them and above them, from a
code on. -/
def outside (code : Nat) : List Range → List Range
  | [] => if code ≤ 0x10FFFF then [⟨code, 0x10FFFF⟩] else []
  | r :: rest =>
    if code < r.first then ⟨code, r.first - 1⟩ :: outside (r.last + 1) rest
    else outside (r.last + 1) rest

end Range

/-- A set of characters as ascending ranges of their codes, with gaps between them. -/
structure RangeSet where
  ranges : Array Range
deriving DecidableEq, Repr

namespace RangeSet

/-- The codes that are none of characters. -/
def surrogates : Range := ⟨0xD800, 0xDFFF⟩

/-! ## Members -/

/-- Whether ascending ranges hold a code, of those from index `low` up to index `high`. -/
def holdsBetween (ranges : Array Range) (code low high : Nat) : Bool :=
  if low < high then
    match ranges[(low + high) / 2]? with
    | none => false
    | some range =>
      if code < range.first then holdsBetween ranges code low ((low + high) / 2)
      else if range.last < code then holdsBetween ranges code ((low + high) / 2 + 1) high
      else true
  else false
termination_by high - low

/-- Whether the set holds the character of a code. -/
def holds (s : RangeSet) (code : Nat) : Bool := holdsBetween s.ranges code 0 s.ranges.size

/-- Whether the set holds a character. -/
def contains (s : RangeSet) (c : Char) : Bool := s.holds c.toNat

/-- Whether the set holds no character. -/
def isEmpty (s : RangeSet) : Bool := s.ranges.isEmpty

/-- The only character of the set, if there is just one. -/
def only? (s : RangeSet) : Option Char :=
  match s.ranges.toList with
  | [r] => if r.first = r.last then some (Char.ofNat r.first) else none
  | _ => none

/-! ## Construction -/

/-- The set of a table: the words of several lines, in ascending order. -/
def ofLines (lines : List String) : RangeSet :=
  ⟨(lines.flatMap fun line =>
    (line.splitOn " ").flatMap fun word => Range.ofWord word.toList).toArray⟩

/-- The set of the codes in ranges. -/
def ofRanges (ranges : List Range) : RangeSet :=
  ⟨(Range.joined (ranges.mergeSort fun r s => r.first ≤ s.first)).toArray⟩

/-- The set of codes. -/
def ofCodes (codes : List Nat) : RangeSet := ofRanges (codes.map Range.single)

/-- The set of characters. -/
def ofChars (chars : List Char) : RangeSet := ofCodes (chars.map Char.toNat)

/-- The characters from one to another, both included. -/
def between (first last : Char) : RangeSet :=
  if first ≤ last then ⟨#[⟨first.toNat, last.toNat⟩]⟩ else ⟨#[]⟩

/-- No character. -/
def empty : RangeSet := ⟨#[]⟩

/-! ## Operations -/

/-- The characters of any of several sets. -/
def unions (sets : List RangeSet) : RangeSet := ofRanges (sets.flatMap (·.ranges.toList))

/-- The characters of either set. -/
def union (s t : RangeSet) : RangeSet := unions [s, t]

/-- The characters that the set does not hold. -/
def complement (s : RangeSet) : RangeSet :=
  ⟨(Range.outside 0 (ofRanges (surrogates :: s.ranges.toList)).ranges.toList).toArray⟩

/-- The characters of both sets. -/
def inter (s t : RangeSet) : RangeSet := (s.complement.union t.complement).complement

/-- The characters of the first set that the second one does not hold. -/
def diff (s t : RangeSet) : RangeSet := (s.complement.union t).complement

/-- The characters of just one of the sets. -/
def symmDiff (s t : RangeSet) : RangeSet := (s.diff t).union (t.diff s)

/-- All characters. -/
def full : RangeSet := empty.complement

end RangeSet

end DecisionFlow.Unicode
