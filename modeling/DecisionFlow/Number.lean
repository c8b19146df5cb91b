/-!
# Numbers

The numbers of a document or payload come in two kinds that never compare equal: whole numbers of
64 bits, and binary floating-point numbers.

- `Number`: a whole number within `Number.InRange`, or a float.
- `Number.ofInt?`: the whole number, where it fits.
- `Number.same`: equality of numbers as values, where `0.0` and `-0.0` are equal.
- `Number.toFloat`, `Number.signed?`, `Number.unsigned?`: the views used by comparisons.
-/

namespace DecisionFlow

/-- A whole number that fits 64 bits: signed when negative, unsigned otherwise. -/
abbrev Number.InRange (n : Int) : Prop := -0x8000000000000000 ≤ n ∧ n < 0x10000000000000000

/-- A number of a document or payload. -/
inductive Number where
  /-- A whole number of 64 bits. -/
  | int (n : Int) (inRange : Number.InRange n)
  /-- A floating-point number. -/
  | float (x : Float)

namespace Number

/-- The whole number `n`, if it fits. -/
def ofInt? (n : Int) : Option Number :=
  if h : InRange n then some (.int n h) else none

/-- A signed number of 64 bits. -/
def ofInt64 (n : Int64) : Number :=
  .int n.toInt (by have := n.toInt_lt; have := n.le_toInt; constructor <;> omega)

instance : Inhabited Number := ⟨.int 0 (by decide)⟩

/-- Equality of numbers as values: a whole number never equals a float, and floats compare
numerically. -/
def same : Number → Number → Bool
  | .int m _, .int n _ => m == n
  | .float x, .float y => x == y
  | _, _ => false

/-- The nearest floating-point number. -/
def toFloat : Number → Float
  | .int n _ => if n < 0 then (Int64.ofInt n).toFloat else (UInt64.ofNat n.toNat).toFloat
  | .float x => x

/-- The value as an unsigned number of 64 bits, if it is a whole number that is one. -/
def unsigned? : Number → Option Nat
  | .int n _ => if 0 ≤ n then some n.toNat else none
  | .float _ => none

/-- The value as a signed number of 64 bits, if it is a whole number that is one. -/
def signed? : Number → Option Int
  | .int n _ => if n < 0x8000000000000000 then some n else none
  | .float _ => none

@[simp] theorem ofInt?_eq_some_iff {n : Int} {x : Number} :
    ofInt? n = some x ↔ ∃ h : InRange n, x = .int n h := by
  unfold ofInt?
  split
  · next h => exact ⟨fun e => ⟨h, (Option.some.inj e).symm⟩, fun ⟨_, e⟩ => e ▸ rfl⟩
  · next h => exact ⟨nofun, fun ⟨h', _⟩ => absurd h' h⟩

end Number

end DecisionFlow
