import DecisionFlow.Json.Parse
import DecisionFlow.Json.Print
import DecisionFlow.Settings
import DecisionFlow.Yaml.Parse
import DecisionFlow.Yaml.Print

/-!
# Formats of documents

- `Format.ofName`, `Format.ofPath`: the format with a name, and that of a file by its extension.
- `Format.parse`, `Format.render`: a document as text. An object that repeats a field is read as the
  array of its fields, so that none is lost.
-/

namespace DecisionFlow

/-- A file extension or a name that belongs to no format. -/
structure UnsupportedFormat where
  name : String
deriving DecidableEq, Repr

/-- The text for an unsupported format. -/
def UnsupportedFormat.message (u : UnsupportedFormat) : String :=
  "Unsupported flow format: " ++ u.name

namespace Format

/-- The format with a name. -/
def ofName (name : String) : Except UnsupportedFormat Format :=
  match lookup name with
  | some format => .ok format
  | none => .error ⟨Text.toLowerAscii name⟩

/-- Splits characters at a separator. -/
def splitAt (separator : Char) : List Char → List (List Char)
  | [] => [[]]
  | c :: rest =>
    if c == separator then [] :: splitAt separator rest
    else
      match splitAt separator rest with
      | first :: others => (c :: first) :: others
      | [] => [[c]]

/-- The name of a file in a path: its last part, apart from empty parts and dots. -/
def fileName? (path : String) : Option (List Char) :=
  ((splitAt '/' path.toList).filter fun part => !part.isEmpty && part != ['.']).getLast?

/-- The extension of a path: what follows the last dot of the file name, unless that dot begins the
name. -/
def extension? (path : String) : Option String := do
  let name ← fileName? path
  guard (name != ['.', '.'])
  let extension := (name.reverse.takeWhile (· != '.')).reverse
  guard (extension.length + 1 < name.length)
  return String.ofList extension

/-- The format of a file by its extension. -/
def ofPath (path : String) : Except UnsupportedFormat Format :=
  match (extension? path).bind lookup with
  | some format => .ok format
  | none => .error ⟨path⟩

/-- Reads a document; none if the text is no text of the format. -/
def parse (format : Format) (text : String) : Option Value :=
  match format with
  | .json => (Json.parse text).toOption.map Value.splitRepeats
  | .yaml => (Yaml.parse text).map Value.splitRepeats

/-- Writes a document. -/
def render (format : Format) (document : Value) : String :=
  match format with
  | .json => Json.pretty document
  | .yaml => Yaml.render document

end Format

end DecisionFlow
