import DecisionFlow.Json.Skip
import DecisionFlow.Settings

/-!
# Settings in JSON

Settings are an object, in which no name of a setting repeats and other names do not count, or an
array of the settings in their order. What is left out has its default.

- `Settings.ofJson?`: the settings of a text.
-/

namespace DecisionFlow.Settings

/-- The format that a value names: a string, or an object whose only field has the name
and is null. -/
def formatOf? : Value → Option Format
  | .text name | .object [(name, .null)] => [Format.json, Format.yaml].find? (·.name == name)
  | _ => none

/-- The settings with one more of them read from a value. -/
def withValue? (settings : Settings) (name : String) (value : Value) : Option Settings :=
  match name, value with
  | "max_depth", .number n => n.unsigned?.map ({ settings with maxDepth := · })
  | "discriminator", .text s => some { settings with discriminator := s }
  | "default_format", value => (formatOf? value).map ({ settings with defaultFormat := · })
  | "accept_object_shape", .bool b => some { settings with acceptObjectShape := b }
  | _, _ => none

/-- The names of the settings, in order. -/
def names : List String := ["max_depth", "discriminator", "default_format", "accept_object_shape"]

/-- Reads a field. The value is kept only if the name is that of a setting. -/
def field : Json.Reader (Option (String × Value)) := fun chars =>
  match Json.skipSpace chars with
  | '"' :: rest => do
    let (name, rest) ← Json.string rest
    match Json.skipSpace rest with
    | ':' :: rest =>
      if names.contains name then
        let (value, rest) ← Json.value (Json.depthLimit - 1) rest
        return (some (name, value), rest)
      else
        let (_, rest) ← Json.skip (rest.length + 1) rest
        return (none, rest)
    | c :: _ => throw (.unexpectedCharacter c)
    | [] => throw .unexpectedEnd
  | c :: _ => .error (.unexpectedCharacter c)
  | [] => .error .unexpectedEnd

/-- The values of settings in a text, with the names of these settings. -/
def valuesOf? (text : String) : Option (List (String × Value)) := do
  let atEnd := fun (rest : List Char) => (Json.skipSpace rest).isEmpty
  match Json.skipSpace text.toList with
  | '{' :: rest =>
    let (fields, rest) ← (Json.bracketed '}' field rest).toOption
    guard (atEnd rest)
    return fields.filterMap id
  | '[' :: rest =>
    let (items, rest) ← (Json.bracketed ']' (Json.value (Json.depthLimit - 1)) rest).toOption
    guard (atEnd rest && items.length ≤ names.length)
    return names.zip items
  | _ => failure

/-- The settings of a text; none if it is malformed or gives something that is no such setting. -/
def ofJson? (text : String) : Option Settings := do
  let values ← valuesOf? text
  guard !Fields.repeats values
  values.foldlM (fun settings (name, value) => settings.withValue? name value) {}

end DecisionFlow.Settings
