import DecisionFlow.Decimal.Shortest

/-!
# Written floats

- `Decimal.Layout`: the choices a format makes in writing a float.
- `Decimal.Layout.write`: a float as text. Numbers from `0.00001` up to below `1e16` are written
  positionally, with `.0` if they are whole; others with an exponent.
- `Decimal.plainText`: a float as text that never has an exponent.
-/

namespace DecisionFlow.Decimal

/-- The choices a format makes in writing a float. -/
structure Layout where
  /-- The sign written before an exponent that is not negative. -/
  plus : String

namespace Layout

/-- Of two equally near decimals the even one is written. -/
def tie : Tie := .toEven

/-- The text of `count` zeros. -/
def zeros (count : Nat) : String := String.ofList (List.replicate count '0')

/-- A positive decimal as text. -/
def decimal (layout : Layout) (d : Decimal) : String :=
  let digits := Nat.toDigits 10 d.coefficient
  -- where the decimal point stands, counted from the first digit
  let point := d.exponent + digits.length
  if 0 ≤ d.exponent ∧ point ≤ 16 then
    String.ofList digits ++ zeros d.exponent.toNat ++ ".0"
  else if 0 < point ∧ point ≤ 16 then
    String.ofList (digits.take point.toNat) ++ "." ++ String.ofList (digits.drop point.toNat)
  else if -5 < point ∧ point ≤ 0 then
    "0." ++ zeros (-point).toNat ++ String.ofList digits
  else
    let exponent := point - 1
    let mantissa := match digits with
      | [d] => d.toString
      | d :: rest => d.toString ++ "." ++ String.ofList rest
      | [] => ""
    mantissa ++ "e" ++
      (if exponent < 0 then toString exponent else layout.plus ++ toString exponent)

/-- A finite float as text. -/
def write (layout : Layout) (x : Float) : String :=
  let negative := x.toBits >>> 63 == 1
  let size := x.abs
  (if negative then "-" else "")
    ++ (if size == 0.0 then "0.0" else layout.decimal ((Binary.ofFloat size).shortest tie))

end Layout

/-- The digits of a positive decimal, with a point only where digits follow it. -/
def positional (d : Decimal) : String :=
  let digits := Nat.toDigits 10 d.coefficient
  let point := d.exponent + digits.length
  if 0 ≤ d.exponent then String.ofList digits ++ Layout.zeros d.exponent.toNat
  else if 0 < point then
    String.ofList (digits.take point.toNat) ++ "." ++ String.ofList (digits.drop point.toNat)
  else "0." ++ Layout.zeros (-point).toNat ++ String.ofList digits

/-- A float as text without an exponent. Of two equally near decimals the larger one is written. -/
def plainText (x : Float) : String :=
  let size := x.abs
  if x.isNaN then "NaN"
  else
    (if x.toBits >>> 63 == 1 then "-" else "")
      ++ if size.isInf then "inf"
        else if size == 0.0 then "0"
        else positional ((Binary.ofFloat size).shortest .upward)

end DecisionFlow.Decimal
