import DecisionFlow.Json.Parse
import DecisionFlow.Settings.Ini
import DecisionFlow.Settings.Json5
import DecisionFlow.Settings.Ron
import DecisionFlow.Settings.Yaml.Parse
import DecisionFlow.Toml.Parse

/-!
# Sources of settings

- `Setting.ofJson`, `Setting.ofToml`: a setting in the formats of settings files.
- `SourceFormat`, `SourceFormat.setting?`, `SourceFormat.entries?`: what a settings file gives.
- `Setting.ofVariable`, `Variables.entries`: what the variables of the environment give.
-/

namespace DecisionFlow

namespace Setting

/-! ## JSON -/

mutual

/-- A setting in JSON. Whole numbers that need more than 63 bits are floats. -/
def ofJson : Value → Setting
  | .null => .nothing
  | .bool b => .flag b
  | .number n =>
    match n.signed? with
    | some n => .whole n
    | none => .float n.toFloat
  | .text s => .text s
  | .array items => .list (ofJsonItems items)
  | .object fields => .table (ofJsonFields fields)

/-- Settings in an array of JSON. -/
def ofJsonItems : List Value → List Setting
  | [] => []
  | item :: rest => ofJson item :: ofJsonItems rest

/-- Settings in an object of JSON. -/
def ofJsonFields : List (String × Value) → List (String × Setting)
  | [] => []
  | (name, value) :: rest => (name, ofJson value) :: ofJsonFields rest

end

/-! ## TOML -/

mutual

/-- A setting in TOML. -/
def ofToml : Toml.Value → Setting
  | .text s | .time s => .text s
  | .whole n => .whole n
  | .float x => .float x
  | .bool b => .flag b
  | .array items => .list (ofTomlItems items)
  | .table entries => .table (ofTomlEntries entries)

/-- Settings in an array of TOML. -/
def ofTomlItems : List Toml.Value → List Setting
  | [] => []
  | item :: rest => ofToml item :: ofTomlItems rest

/-- Settings in a table of TOML. -/
def ofTomlEntries : List (String × Toml.Value) → List (String × Setting)
  | [] => []
  | (name, value) :: rest => (name, ofToml value) :: ofTomlEntries rest

end

end Setting

/-! ## Files -/

/-- The formats of settings files. -/
inductive SourceFormat where
  | toml
  | json
  | yaml
  | ini
  | json5
  | ron
deriving DecidableEq, Repr

namespace SourceFormat

/-- The extensions of settings files. -/
def extensions : List (String × SourceFormat) :=
  [("toml", .toml), ("json", .json), ("yaml", .yaml), ("yml", .yaml), ("ini", .ini),
    ("json5", .json5), ("ron", .ron)]

/-- The setting that the text of a settings file stands for; none if it is malformed. -/
def setting? (format : SourceFormat) (text : String) : Option Setting :=
  match format with
  | .toml => (Toml.parse text).map fun entries => .table (Setting.ofTomlEntries entries)
  | .json => (Json.parseMerged text).toOption.map Setting.ofJson
  | .yaml => SettingsYaml.parse? text
  | .ini => (Ini.entries? text).map .table
  | .json5 => Json5.parse? text
  | .ron => Ron.parse? text

/-- What the text of a settings file gives; none if it is malformed or no table. -/
def entries? (format : SourceFormat) (text : String) : Option Layer := do
  match ← format.setting? text with
  | .table entries => return entries
  | _ => failure

end SourceFormat

/-! ## Variables -/

/-- The variables of an environment, by name. -/
abbrev Variables := List (String × String)

/-- The setting that the value of a variable stands for. -/
def Setting.ofVariable (value : String) : Setting :=
  let word := Text.toLower value
  if word == "true" then .flag true
  else if word == "false" then .flag false
  else if let some n := Text.whole64? value.toList then .whole n
  else if let some x := Text.float? value.toList then .float x
  else .text value

/-- What the variables give whose names begin with `start`, in whatever case: the rest of the name
is that of the setting. -/
def Variables.entries (start : String) (environment : Variables) : Layer :=
  environment.filterMap fun (name, value) =>
    let name := (Text.toLower name).toList
    if start.toList.isPrefixOf name then
      some (String.ofList (name.drop start.length), Setting.ofVariable value)
    else none

end DecisionFlow
