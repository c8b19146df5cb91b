import DecisionFlow.Files
import DecisionFlow.Format
import DecisionFlow.Settings.Source

/-!
# Loading settings

From the lowest layer to the highest: the defaults, the settings file of the directory, a given
settings file, and the variables of the environment.

- `Settings.load`.
- `SourceFormat.locate`: the file that a path stands for, also without its extension.
-/

namespace DecisionFlow

/-- Why settings cannot be loaded. -/
inductive Settings.LoadProblem where
  /-- The given file is missing or unknown, a file is malformed, or a setting does not stand for
  what is wanted. -/
  | source
  | invalid (problem : Settings.Problem)
deriving DecidableEq, Repr

/-- The text for settings that cannot be worked with. -/
def Settings.LoadProblem.message? : Settings.LoadProblem → Option String
  | .source => none
  | .invalid problem => some ("Settings error: " ++ problem.message)

/-- What is found under the name of a settings file. -/
inductive SourceFile where
  | absent
  /-- The extension belongs to no format. -/
  | unknown
  | found (format : SourceFormat) (text : String)

variable {m : Type → Type} [Monad m] (files : Files m)

namespace SourceFormat

/-- A path without what stands behind the name of its file; none if no name of a file ends it. -/
def stem? (path : String) : Option String :=
  let behind (name : List Char) := name.isEmpty || name == ['.']
  match (Format.splitAt '/' path.toList).reverse.dropWhile behind with
  | [] | ['.', '.'] :: _ => none
  | names => some (String.ofList (['/'].intercalate names.reverse))

/-- The first file that the path and one of the extensions make. -/
def locateAmong (stem : String) : List (String × SourceFormat) → m SourceFile
  | [] => return .absent
  | (extension, format) :: rest => do
    match ← files.read? (stem ++ "." ++ extension) with
    | some text => return .found format text
    | none => locateAmong stem rest

/-- The file at this path, or else the first one that an extension makes of it. -/
def locate (path : String) : m SourceFile := do
  match ← files.read? path with
  | some text =>
    match (Format.extension? path).bind (extensions.lookup ·) with
    | some format => return .found format text
    | none => return .unknown
  | none =>
    match stem? path with
    | some stem => locateAmong files stem extensions
    | none => return .absent

end SourceFormat

/-- What a settings file gives; none if it is malformed, or if it is needed and not there. -/
def SourceFile.entries? (needed : Bool) : SourceFile → Option Layer
  | .absent | .unknown => if needed then none else some []
  | .found format text => format.entries? text

namespace Settings

/-- The name of the settings file of a directory, without its extension. -/
def fileName : String := "flow-engine"

/-- What the names of the variables for settings begin with. -/
def variableStart : String := "flow_"

/-- The settings that a directory's file, a given file and variables make. -/
def ofSources (common given : SourceFile) (isGiven : Bool) (environment : Variables) :
    Except LoadProblem Settings := do
  let layer? : Option Layer := do
    let layer := Layer.source (← common.entries? false) []
    let layer := Layer.source (← given.entries? isGiven) layer
    return Layer.source (environment.entries variableStart) layer
  match layer?.bind Layer.settings? with
  | none => throw .source
  | some settings =>
    settings.validate.mapError .invalid
    return settings

/-- Loads settings, also from a given file. -/
def load (file : Option String) (environment : Variables) : m (Except LoadProblem Settings) := do
  let common ← SourceFormat.locate files fileName
  match file with
  | none => return ofSources common .absent false environment
  | some file => return ofSources common (← SourceFormat.locate files file) true environment

end Settings

end DecisionFlow
