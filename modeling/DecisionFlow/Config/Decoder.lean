import DecisionFlow.Config.Problem

/-!
# Decoding configurations

A decoder turns the fields of a configuration into a value. The fields are looked at in the order in
which the configuration has them, and the first one that holds the wrong thing is reported. After
that, missing fields are reported in the order in which the decoder names them. Fields that the
decoder does not name are ignored.

- `Config.Decoder`: an applicative family, with `Decoder.required` and `Decoder.optional` for single
  fields.
- `Config.Decoder.decode`: runs a decoder.
-/

namespace DecisionFlow.Config

/-- Reads the value of one field. -/
abbrev FieldReader (α : Type) := Value → Except Problem α

/-- A text. -/
def text : FieldReader String
  | .text s => .ok s
  | other => .error (.wrongType other .text)

/-- A boolean. -/
def boolean : FieldReader Bool
  | .bool b => .ok b
  | other => .error (.wrongType other .boolean)

/-- Any number, as a float. -/
def float : FieldReader Float
  | .number n => .ok n.toFloat
  | other => .error (.wrongType other .float)

/-- A whole number from `low` up to but not including `high`. -/
def whole (low high : Int) (type : FieldType) : FieldReader Int
  | .number (.int n h) =>
    if low ≤ n ∧ n < high then .ok n else .error (.outOfRange (.number (.int n h)) type)
  | other => .error (.wrongType other type)

/-- A count. -/
def size : FieldReader Nat := fun value => Int.toNat <$> whole 0 0x10000000000000000 .size value

/-- An unsigned number of 64 bits. -/
def unsigned : FieldReader Nat :=
  fun value => Int.toNat <$> whole 0 0x10000000000000000 .unsigned value

/-- A signed number of 64 bits. -/
def signed : FieldReader Int := whole (-0x8000000000000000) 0x8000000000000000 .signed

/-- Any value. -/
def anything : FieldReader Value := .ok

/-- Turns the fields of a configuration into a value. -/
structure Decoder (α : Type) where
  /-- What is asked of the fields that the decoder names. -/
  checks : List (String × FieldReader Unit)
  /-- Builds the value from a configuration whose fields pass the checks. -/
  build : Fields → Except Problem α

namespace Decoder

instance : Applicative Decoder where
  pure a := ⟨[], fun _ => .ok a⟩
  seq f x :=
    ⟨f.checks ++ (x ()).checks, fun config => do
      return (← f.build config) (← (x ()).build config)⟩

/-- A field that has to be there. -/
def required {α : Type} (name : String) (read : FieldReader α) : Decoder α where
  checks := [(name, fun value => (read value).map fun _ => ())]
  build config :=
    match Fields.get? config name with
    | some value => read value
    | none => .error (.missingField name)

/-- A field that may be left out, with the value it then has. -/
def optional {α : Type} (name : String) (read : FieldReader α) (default : α) : Decoder α where
  checks := [(name, fun value => (read value).map fun _ => ())]
  build config :=
    match Fields.get? config name with
    | some value => read value
    | none => .ok default

/-- Runs a decoder on a configuration. -/
def decode {α : Type} (d : Decoder α) (config : Fields) : Except Problem α := do
  for (name, value) in config do
    if let some check := d.checks.lookup name then check value
  d.build config

end Decoder

end DecisionFlow.Config
