import DecisionFlow.Builtin

/-!
# Further types

Types beside the built-in ones, for flows over people, tags and counters. They may reject a
configuration for what its fields mean together, and they may fail in a run.

- `Extended.Test`, `Extended.Change`: the further tests and changes.
- `Extended.conditions`, `Extended.consumers`: the registries of all types.
-/

namespace DecisionFlow.Extended

/-- A range of signed numbers, both ends included. -/
structure Window where
  field : FieldPath
  low : Int
  high : Int
  nonempty : low ≤ high := by omega

/-- The signed whole number at a path. -/
def signedAt (payload : Value) (field : FieldPath) : Option Int :=
  ((payload.lookup field).bind Value.number?).bind Number.signed?

/-- A test of a payload. -/
inductive Test where
  /-- The field is an unsigned whole number of at least this size. -/
  | minimumAge (field : FieldPath) (min : Nat)
  /-- The field lies in a window. -/
  | window (w : Window)
  /-- The field `tags` is an array with this text in it. -/
  | hasTag (tag : String)
  /-- Always fails. -/
  | failing (message : String)

/-- The outcome of a test. -/
def Test.predicate : Test → Predicate Value
  | minimumAge field min => fun payload =>
    .ok ((((payload.lookup field).bind Value.number?).bind Number.unsigned?).any (min ≤ ·))
  | window w => fun payload =>
    match signedAt payload w.field with
    | some n => .ok (w.low ≤ n ∧ n ≤ w.high)
    | none => .error (.notInteger w.field.text)
  | hasTag tag => fun payload =>
    match payload.lookup ⟨"tags", []⟩ with
    | some (.array tags) => .ok (tags.any fun value => value.text? == some tag)
    | _ => .ok false
  | failing message => fun _ => .error (.stated message)

/-- A change of a payload. -/
inductive Change where
  /-- Moves a whole number into a window. -/
  | clamp (w : Window)
  /-- Adds one to a whole number; the greatest one stays. -/
  | increment (field : FieldPath)
  /-- Always fails. -/
  | fail (message : String)

/-- A signed number of 64 bits as a value; one beyond their range becomes the nearest one in it. -/
def signedValue (n : Int) : Value :=
  .number (.ofInt64 (Int64.ofInt (max (-0x8000000000000000) (min n 0x7fffffffffffffff))))

/-- What a change does. -/
def Change.apply : Change → Consumer Value
  | clamp w => fun payload =>
    match signedAt payload w.field with
    | some n => Builtin.Change.setField w.field (signedValue (max w.low (min n w.high))) payload
    | none => .ok () payload
  | increment field => fun payload =>
    let n := (signedAt payload field).getD 0
    Builtin.Change.setField field (signedValue (n + 1)) payload
  | fail message => fun payload => .error (.stated message) payload

/-! ## Configurations -/

open Config

/-- The settings of a window. -/
def windowFields : Decoder (FieldPath × Int × Int) :=
  (fun field low high => (field, low, high)) <$> Builtin.Test.fieldNamed "field"
    <*> .required "low" signed <*> .required "high" signed

/-- The window of these settings, unless it is empty. -/
def window? : FieldPath × Int × Int → Except Problem Window
  | (field, low, high) =>
    if h : low ≤ high then .ok ⟨field, low, high, h⟩ else .error (.stated "empty window")

/-- The message that a configuration states. -/
def statedMessage (config : Fields) : Except Problem String :=
  match (Fields.get? config "message").bind Value.text? with
  | some message => .ok message
  | none => .error (.stated "message required")

/-- The factories of the tests by kind. -/
def Test.types : List (String × Factory (Predicate Value)) := [
  ("minimum_age",
    .decoded (minimumAge <$> Builtin.Test.fieldNamed "field" <*> .required "min" unsigned)
      predicate),
  ("window", .adapted windowFields fun settings =>
    (window? settings).map fun w => (window w).predicate),
  ("has_tag", .decoded (hasTag <$> .required "tag" text) predicate),
  ("failing", fun config => (statedMessage config).map fun message => (failing message).predicate)]

/-- The factories of the changes by kind. -/
def Change.types : List (String × Factory (Consumer Value)) := [
  ("clamp", .adapted windowFields fun settings => (window? settings).map fun w => (clamp w).apply),
  ("increment", .decoded (increment <$> Builtin.Test.fieldNamed "field") apply),
  ("fail", fun config => (statedMessage config).map fun message => (fail message).apply)]

/-- The built-in and the further condition types. -/
def conditions : Registry (Predicate Value) :=
  .ofList .condition (Builtin.Test.types ++ Test.types)

/-- The built-in and the further consumer types. -/
def consumers : Registry (Consumer Value) :=
  .ofList .consumer (Builtin.Change.types ++ Change.types)

end DecisionFlow.Extended
