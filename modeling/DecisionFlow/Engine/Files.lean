import DecisionFlow.Document.Read
import DecisionFlow.Document.Write
import DecisionFlow.Files
import DecisionFlow.Format

/-!
# Flows as text and in files

- `Engine.parse`, `Engine.render`: the flow of a text, and the text of a flow.
- `Engine.load`, `Engine.save`: the same with files, whose extensions tell the format.
-/

namespace DecisionFlow

/-- Why a flow cannot be loaded. -/
inductive LoadProblem where
  | unsupported (format : UnsupportedFormat)
  /-- There is no text to read. -/
  | unreadable
  /-- The text is none of the format. -/
  | malformed (format : Format)
  | document (error : Document.Error)

/-- The text of a problem with loading. -/
def LoadProblem.message : LoadProblem → String
  | .unsupported format => format.message
  | .unreadable => "I/O error"
  | .malformed .json => "Serialization error"
  | .malformed .yaml => "YAML error"
  | .document error => error.message

/-- Why a flow cannot be saved. -/
inductive SaveProblem where
  | unsupported (format : UnsupportedFormat)
  /-- No text can be written there. -/
  | unwritable

namespace Engine

variable {T : Type} (engine : Engine T)

/-- The flow of a text. -/
def parse (format : Format) (text : String) : Except LoadProblem (Flow T) :=
  match format.parse text with
  | none => .error (.malformed format)
  | some document => (engine.read document).mapError .document

/-- The text of a flow. -/
def render (flow : Flow T) (format : Format) : String := format.render (engine.write flow)

variable {m : Type → Type} [Monad m] (files : Files m)

/-- The flow in a file. -/
def load (path : String) : m (Except LoadProblem (Flow T)) := do
  match Format.ofPath path with
  | .error format => return .error (.unsupported format)
  | .ok format =>
    match ← files.read? path with
    | none => return .error .unreadable
    | some text => return engine.parse format text

/-- Writes a flow to a file. -/
def save (flow : Flow T) (path : String) : m (Except SaveProblem Unit) := do
  match Format.ofPath path with
  | .error format => return .error (.unsupported format)
  | .ok format =>
    if ← files.write path (engine.render flow format) then return .ok ()
    else return .error .unwritable

end Engine

end DecisionFlow
