import DecisionFlow.Text.Case

/-!
# Settings

- `Format`: the text formats of documents.
- `Settings`: how documents are read, with `Settings.validate`.
-/

namespace DecisionFlow

/-- A text format of documents. -/
inductive Format where
  | json
  | yaml
deriving DecidableEq, Repr

/-- The name of a format. -/
def Format.name : Format → String
  | .json => "json"
  | .yaml => "yaml"

/-- The format with a name or file extension; the case of ASCII letters does not count. -/
def Format.lookup (name : String) : Option Format :=
  match Text.toLowerAscii name with
  | "json" => some .json
  | "yaml" | "yml" => some .yaml
  | _ => none

/-- How documents are read. -/
structure Settings where
  /-- How deep branches and groups may nest, counted together. -/
  maxDepth : Nat := 64
  /-- The field of a condition that names its kind. -/
  discriminator : String := "type"
  /-- The format used where nothing else decides. -/
  defaultFormat : Format := .yaml
  /-- Whether one object may stand for an array of single-field objects. -/
  acceptObjectShape : Bool := true
deriving DecidableEq, Repr

/-- Why settings cannot be worked with. -/
inductive Settings.Problem where
  | noDepth
  | noDiscriminator
deriving DecidableEq, Repr

/-- The text of a problem with settings. -/
def Settings.Problem.message : Settings.Problem → String
  | .noDepth => "max_depth must be at least 1"
  | .noDiscriminator => "discriminator must not be empty"

/-- Settings have to allow some depth and to name a discriminator that is not blank. -/
def Settings.validate (s : Settings) : Except Settings.Problem Unit :=
  if s.maxDepth = 0 then .error .noDepth
  else if (Text.trim s.discriminator).isEmpty then .error .noDiscriminator
  else .ok ()

end DecisionFlow
