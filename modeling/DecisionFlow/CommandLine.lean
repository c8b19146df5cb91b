import DecisionFlow.Builtin
import DecisionFlow.CommandLine.Arguments
import DecisionFlow.CommandLine.Dotenv
import DecisionFlow.Engine.Files
import DecisionFlow.Settings.Load

/-!
# The command line

- `Machine`: what the program can use of the machine it runs on.
- `Exit`: how the program ends, and what it says.
- `CommandLine.execute`: carries out a command.
- `CommandLine.run`: the whole program.
-/

namespace DecisionFlow

/-- What the program can use of the machine it runs on. -/
structure Machine (m : Type → Type) where
  files : Files m
  /-- The text of the standard input, if it can be read. -/
  input : m (Option String)
  /-- The text of the file of variables, if there is one. -/
  variableFile : m (Option String)
  /-- The variables of the environment. -/
  environment : Variables

/-- What a command says when it succeeds. -/
structure Output where
  text : String
  /-- Lines beside the text. -/
  notes : List String := []

/-- Why a command fails. -/
structure Complaint where
  summary : String
  cause : Option String := none

/-- How the program ends. -/
inductive Exit where
  | done (output : Output)
  | failed (complaint : Complaint)
  | usage (usage : Usage)

/-- The number that tells how the program ended. -/
def Exit.code : Exit → Nat
  | .done _ | .usage .help | .usage .version => 0
  | .failed _ => 1
  | .usage .misuse => 2

namespace CommandLine

/-- The name of the program and its version. -/
def version : String := "flow 0.1.0"

/-- How the program is used. -/
def help : String := String.intercalate "\n" [
  "Check, run and format declarative flow documents",
  "",
  "Usage: flow [--config FILE] [-v] COMMAND",
  "",
  "  check FILE                        Parse a flow and print its statistics",
  "  run FILE -i PAYLOAD [--trace]     Run a flow on a JSON payload, or - for the standard input",
  "  fmt FILE [--to FORMAT]            Write a flow in canonical form",
  "  statements                        List the statements of the flow grammar",
  "  types                             List the condition and consumer types",
  ""]

/-- A text of at least `width` characters, filled up with spaces. -/
def padded (width : Nat) (text : String) : String :=
  text ++ String.ofList (List.replicate (width - text.length) ' ')

/-- Lines as a text. -/
def ofLines (lines : List String) : String := String.join (lines.map (· ++ "\n"))

/-! ## What the commands say -/

/-- The counts of a flow's parts. -/
def checked (file : String) (s : Statistics) : String := ofLines [
  "✓ " ++ file,
  "  branches:   " ++ toString s.branches,
  "  groups:     " ++ toString s.groups,
  "  predicates: " ++ toString s.predicates,
  "  consumers:  " ++ toString s.consumers,
  "  max depth:  " ++ toString s.maxDepth]

/-- The line for a decision. -/
def decided (d : Decision) : String :=
  "  " ++ padded 40 d.path.text ++ " condition=" ++ padded 5 (toString d.condition) ++ " → "
    ++ d.outcome.name

/-- The lines for a run. -/
def traced (trace : Trace) : List String :=
  ["trace"] ++ trace.decisions.map decided
    ++ ["  consumers invoked: " ++ toString trace.consumersInvoked]

/-- The list of statements. -/
def statements : String :=
  ofLines ("Statements" :: Statement.all.map fun s => "  " ++ padded 10 s.name ++ " " ++ s.summary)

/-- The lists of types. -/
def types (engine : Engine Value) : String :=
  ofLines (["Conditions (discriminator field: " ++ engine.settings.discriminator ++ ")"]
    ++ engine.conditions.kinds.map ("  " ++ ·) ++ ["Consumers"]
    ++ engine.consumers.kinds.map ("  " ++ ·))

/-! ## The commands -/

variable {m : Type → Type} [Monad m] (machine : Machine m)

/-- Loads a flow. -/
def loadFlow (engine : Engine Value) (file : String) : ExceptT Complaint m (Flow Value) := do
  let loaded : m (Except LoadProblem (Flow Value)) := engine.load machine.files file
  match ← loaded with
  | .ok flow => return flow
  | .error problem => throw ⟨"failed to load " ++ file, some problem.message⟩

/-- The text of a payload: that of a file, or the standard input for a dash. -/
def payloadText (input : String) : ExceptT Complaint m String := do
  if input == "-" then
    match ← machine.input with
    | some text => return text
    | none => throw ⟨"failed to read payload from stdin", none⟩
  else
    match ← machine.files.read? input with
    | some text => return text
    | none => throw ⟨"failed to read payload " ++ input, none⟩

/-- Runs a flow on a payload. -/
def runFlow (flow : Flow Value) (payload : Value) (trace : Bool) : Except Complaint Output :=
  let output := fun (payload : Value) (notes : List String) =>
    (⟨Json.pretty payload ++ "\n", notes⟩ : Output)
  if trace then
    match flow.runTraced payload with
    | .ok record payload => .ok (output payload (traced record))
    | .error failure _ => .error ⟨failure.message, none⟩
  else
    match flow.run payload with
    | .ok () payload => .ok (output payload [])
    | .error failure _ => .error ⟨failure.message, none⟩

/-- Carries out a command. -/
def execute (engine : Engine Value) : Command → ExceptT Complaint m Output
  | .check file => do
    let flow ← loadFlow machine engine file
    return { text := checked file flow.statistics }
  | .run file input trace => do
    let flow ← loadFlow machine engine file
    match Json.parseMerged (← payloadText machine input) with
    | .error _ => throw ⟨"payload is not valid JSON", none⟩
    | .ok payload => MonadExcept.ofExcept (runFlow flow payload trace)
  | .format file target => do
    let flow ← loadFlow machine engine file
    return { text := engine.render flow (target.getD engine.settings.defaultFormat) }
  | .statements => return { text := statements }
  | .types => return { text := types engine }

/-- The engine of the built-in types with the settings of the machine. -/
def loadEngine (config : Option String) (environment : Variables) :
    ExceptT Complaint m (Engine Value) := do
  let loaded : m (Except Settings.LoadProblem Settings) :=
    Settings.load machine.files config environment
  match ← loaded with
  | .error problem => throw ⟨"failed to load settings", problem.message?⟩
  | .ok settings => return { Builtin.engine with settings }

/-- The variable that names a settings file. -/
def configVariable : String := "FLOW_CONFIG"

/-- Runs the program. -/
def run (args : List String) : m Exit := do
  let environment := match ← machine.variableFile with
    | some text => machine.environment.withFile text
    | none => machine.environment
  match Arguments.parse (environment.lookup configVariable) args with
  | .error usage => return .usage usage
  | .ok ⟨command, config, _⟩ =>
    let output ← (do execute machine (← loadEngine machine config environment) command).run
    match output with
    | .ok output => return .done output
    | .error complaint => return .failed complaint

end CommandLine

end DecisionFlow
