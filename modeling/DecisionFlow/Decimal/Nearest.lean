/-!
# Decimals as floats

- `Decimal.roundHalfEven`: the whole number nearest to a fraction, of two the even one.
- `Decimal.nearest?`: the float nearest to a decimal number, if that is not beyond all floats.
-/

namespace DecisionFlow.Decimal

/-- The whole number nearest to `n / d`; of two equally near ones the even one. -/
def roundHalfEven (n d : Nat) : Nat :=
  let q := n / d
  let twice := 2 * (n % d)
  if twice < d ∨ (twice = d ∧ q % 2 = 0) then q else q + 1

/-- The least number of 53 binary digits. -/
def fullCoefficient : Nat := 0x10000000000000

/-- The float nearest to `n / d`, if that is not beyond all floats. -/
def nearestOfFraction? (n d : Nat) : Option Float :=
  if n = 0 then some 0.0
  else
    -- the unit `2 ^ power` gives the quotient 53 binary digits, or fewer near zero
    let estimate : Int := (n.log2 : Int) - d.log2 - 52
    let quotient := fun (power : Int) =>
      if 0 ≤ power then roundHalfEven n (d * Nat.pow 2 power.toNat)
      else roundHalfEven (n * Nat.pow 2 (-power).toNat) d
    let floor := fun (power : Int) =>
      if 0 ≤ power then n / (d * Nat.pow 2 power.toNat) else n * Nat.pow 2 (-power).toNat / d
    let power := max (-1074) (if floor estimate < fullCoefficient then estimate - 1 else estimate)
    let rounded := quotient power
    let (coefficient, power) :=
      if rounded = 2 * fullCoefficient then (fullCoefficient, power + 1) else (rounded, power)
    if 971 < power then none
    else if coefficient < fullCoefficient then some (Float.ofBits (UInt64.ofNat coefficient))
    else
      let fraction := coefficient - fullCoefficient
      some (Float.ofBits (UInt64.ofNat ((power + 1075).toNat * fullCoefficient + fraction)))

/-- The float nearest to `coefficient * 10 ^ exponent`, if that is not beyond all floats. Exponents
that are far from those of all floats are not written out. -/
def nearest? (coefficient : Nat) (exponent : Int) : Option Float :=
  let magnitude := exponent + (Nat.toDigits 10 coefficient).length
  if coefficient = 0 ∨ magnitude < -400 then some 0.0
  else if 400 < magnitude then none
  else if 0 ≤ exponent then nearestOfFraction? (coefficient * Nat.pow 10 exponent.toNat) 1
  else nearestOfFraction? coefficient (Nat.pow 10 (-exponent).toNat)

end DecisionFlow.Decimal
