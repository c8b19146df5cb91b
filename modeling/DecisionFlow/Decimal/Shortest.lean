/-!
# Shortest decimals

A finite float is read back from many decimals. Among them the shortest one nearest to it stands for
it.

- `Decimal`: a coefficient and a power of ten.
- `Binary`: the exact value of a float, a coefficient and a power of two, with the interval of
  numbers that round to it.
- `Tie`: which of two equally near decimals is taken.
- `Binary.shortest`: the decimal with the fewest digits inside that interval, and of these the
  nearest to the value.
-/

namespace DecisionFlow

/-- The number `coefficient * 10 ^ exponent`. -/
structure Decimal where
  coefficient : Nat
  exponent : Int
deriving DecidableEq, Repr

/-- The positive number `coefficient * 2 ^ exponent` as one float of a format. -/
structure Binary where
  coefficient : Nat
  exponent : Int
  /-- Whether the next float below is only half as far away as the next one above. -/
  closeBelow : Bool
deriving DecidableEq, Repr

/-- Which of two equally near decimals is taken. -/
inductive Tie where
  /-- The one that ends in an even digit. -/
  | toEven
  /-- The larger one. -/
  | upward
deriving DecidableEq, Repr

namespace Decimal

/-- The same number without zeros at the end of the coefficient, looking at `fuel` digits. -/
def trimZeros : Nat → Decimal → Decimal
  | 0, d => d
  | fuel + 1, d =>
    if d.coefficient % 10 = 0 ∧ d.coefficient ≠ 0 then
      trimZeros fuel ⟨d.coefficient / 10, d.exponent + 1⟩
    else d

end Decimal

namespace Binary

/-- The exact value of a positive finite float. -/
def ofFloat (x : Float) : Binary :=
  -- the fraction has 52 bits, and the power above it 11
  let bits : Nat := x.toBits.toNat
  let fraction : Nat := bits % 0x10000000000000
  let power : Nat := bits / 0x10000000000000 % 2048
  if power = 0 then ⟨fraction, -1074, false⟩
  else ⟨0x10000000000000 + fraction, (power : Int) - 1075, fraction = 0 ∧ 1 < power⟩

/-- A multiple of a quarter of the unit `2 ^ exponent`, as a fraction. -/
def quarters (b : Binary) (n : Nat) : Nat × Nat :=
  let power := b.exponent - 2
  if 0 ≤ power then (n * Nat.pow 2 power.toNat, 1) else (n, Nat.pow 2 (-power).toNat)

/-- Whether the fraction `n / d` rounds to the float: it lies within half a unit, ends included when
the coefficient is even. -/
def holds (b : Binary) (n d : Nat) : Bool :=
  let (low, den) := b.quarters (4 * b.coefficient - if b.closeBelow then 1 else 2)
  let (high, _) := b.quarters (4 * b.coefficient + 2)
  if b.coefficient % 2 = 0 then low * d ≤ n * den && n * den ≤ high * d
  else low * d < n * den && n * den < high * d

/-- The power of ten of the leading digit of `n / d`, counted up from `start` at most `fuel`
times. -/
def leadingPower (n d : Nat) : Nat → Int → Int
  | 0, start => start
  | fuel + 1, start =>
    let next := start + 1
    let reached :=
      if 0 ≤ next then d * Nat.pow 10 next.toNat ≤ n else d ≤ n * Nat.pow 10 (-next).toNat
    if reached then leadingPower n d fuel next else start

/-- The nearer of the two decimals `k` and `k + 1` on a grid, of those that round to the float. -/
def onGrid (b : Binary) (tie : Tie) (power : Int) : Option Decimal :=
  let (n, d) := b.quarters (4 * b.coefficient)
  -- the value on the grid is `gn / gd`, and a point `k` of the grid is `k * num / den`
  let (num, den) :=
    if 0 ≤ power then (Nat.pow 10 power.toNat, 1) else (1, Nat.pow 10 (-power).toNat)
  let (gn, gd) := (n * den, d * num)
  let k := gn / gd
  let low := 0 < k && b.holds (k * num) den
  let high := b.holds ((k + 1) * num) den
  let twice := 2 * (gn - k * gd)
  let preferLow := twice < gd || (twice == gd && tie == .toEven && k % 2 == 0)
  if low && (!high || preferLow) then some ⟨k, power⟩
  else if high then some ⟨k + 1, power⟩
  else none

/-- The first grid with a hit, from one of `digits` digits on. -/
def firstHit (b : Binary) (tie : Tie) (leading : Int) : Nat → Nat → Option Decimal
  | 0, _ => none
  | fuel + 1, digits =>
    (b.onGrid tie (leading + 1 - digits)).or (firstHit b tie leading fuel (digits + 1))

/-- The shortest decimal that rounds to the float, and of these the nearest. -/
def shortest (b : Binary) (tie : Tie) : Decimal :=
  let (n, d) := b.quarters (4 * b.coefficient)
  -- an estimate from below: the leading power of two, times log₁₀ 2
  let binaryPower := (Nat.log2 b.coefficient : Int) + b.exponent
  let estimate := binaryPower * 30103 / 100000 - 2
  let leading := leadingPower n d 6 estimate
  ((firstHit b tie leading 17 1).getD ⟨n / d, 0⟩).trimZeros 20

end Binary

end DecisionFlow
