import DecisionFlow.Builtin.Test
import DecisionFlow.Text.Case

/-!
# Built-in changes

Consumers that change the fields of a payload, which has to be an object.

- `Builtin.Change`: the changes with their settings.
- `Builtin.Change.apply`: what a change does to a payload.
- `Builtin.Change.paths`: the fields that a change looks at or writes.
- `Builtin.Change.types`: the factories by kind.
-/

namespace DecisionFlow.Builtin

/-- A change of a payload. -/
inductive Change where
  /-- Puts a text into upper case. -/
  | uppercase (field : FieldPath)
  /-- Puts a text into lower case. -/
  | lowercase (field : FieldPath)
  /-- Removes the white space around a text. -/
  | trim (field : FieldPath)
  /-- Adds a suffix to a text. -/
  | append (field : FieldPath) (suffix : String)
  /-- Sets a field. -/
  | set (field : FieldPath) (value : Value)
  /-- Removes a field. -/
  | remove (field : FieldPath)
  /-- Moves the value of a field to another field. -/
  | rename (source target : FieldPath)

namespace Change

/-- Changes a text in a field. A field that is not there or holds no text stays as it is. -/
def mapText (f : String → String) (field : FieldPath) : Consumer Value := fun payload =>
  let onText := fun value =>
    match value with
    | .text s => .text (f s)
    | other => other
  match payload.requireObject with
  | .error failure => .error failure payload
  | .ok _ => .ok () ((payload.modify? field onText).getD payload)

/-- Sets a field. -/
def setField (field : FieldPath) (value : Value) : Consumer Value := Value.assignInPlace field value

/-- Removes a field. -/
def removeField (field : FieldPath) : Consumer Value := fun payload =>
  match payload.take field with
  | .ok (_, changed) => .ok () changed
  | .error failure => .error failure payload

/-- Moves the value of a field. Whether the target can be set is asked after the value has been
taken out, since the target may lead through the source; if it cannot, the value is put back. -/
def renameField (source target : FieldPath) : Consumer Value := fun payload =>
  match payload.take source with
  | .error failure => .error failure payload
  | .ok (none, _) => .ok () payload
  | .ok (some value, remainder) =>
    match remainder.checkAssign target with
    | .ok () => setField target value remainder
    | .error failure =>
      match setField source value remainder with
      | .ok () restored => .error failure restored
      | .error failure remainder => .error failure remainder

/-- What the change does. -/
def apply : Change → Consumer Value
  | uppercase field => mapText Text.toUpper field
  | lowercase field => mapText Text.toLower field
  | trim field => mapText Text.trim field
  | append field suffix => mapText (· ++ suffix) field
  | set field value => setField field value
  | remove field => removeField field
  | rename source target => renameField source target

/-- The fields that the change looks at or writes. -/
def paths : Change → List FieldPath
  | uppercase field | lowercase field | trim field | append field _ | set field _ | remove field =>
    [field]
  | rename source target => [source, target]

/-! ## Configurations -/

open Config Test in
/-- The factories of the built-in changes by kind. -/
def types : List (String × Factory (Consumer Value)) := [
  ("uppercase", .decoded (uppercase <$> fieldNamed "field") apply),
  ("lowercase", .decoded (lowercase <$> fieldNamed "field") apply),
  ("trim", .decoded (trim <$> fieldNamed "field") apply),
  ("set", .decoded (set <$> fieldNamed "field" <*> .optional "value" anything .null) apply),
  ("remove", .decoded (remove <$> fieldNamed "field") apply),
  ("rename", .decoded (rename <$> fieldNamed "from" <*> fieldNamed "to") apply),
  ("append", .decoded (append <$> fieldNamed "field" <*> .required "suffix" text) apply)]

end Change

end DecisionFlow.Builtin
