import DecisionFlow.CommandLine

/-!
# The program

The outermost layer, which gives the command line its files, its input and its environment.
-/

namespace DecisionFlow.CommandLine

/-- The text of a file, if it can be read. -/
def readText? (path : String) : IO (Option String) := do
  try return some (← IO.FS.readFile path)
  catch _ => return none

/-- Writes a text, and says whether that was possible. -/
def writeText (path text : String) : IO Bool := do
  try
    IO.FS.writeFile path text
    return true
  catch _ => return false

/-- The text of the standard input, if it can be read. -/
def readInput? : IO (Option String) := do
  try return some (← (← IO.getStdin).readToEnd)
  catch _ => return none

/-- The text of the first file of variables in the directory `up` or one of the `fuel` above it. -/
def findVariableFile (up : String) : Nat → IO (Option String)
  | 0 => readText? (up ++ ".env")
  | fuel + 1 => do
    match ← readText? (up ++ ".env") with
    | some text => return some text
    | none => findVariableFile (up ++ "../") fuel

/-- The text of the file of variables that is closest to the working directory. -/
def variableFile : IO (Option String) := do
  let depth := ((← IO.currentDir).toString.toList.filter (· == '/')).length
  findVariableFile "" depth

/-- The variables for settings. -/
def settingVariables : List String :=
  [configVariable, "FLOW_MAX_DEPTH", "FLOW_DISCRIMINATOR", "FLOW_DEFAULT_FORMAT",
    "FLOW_ACCEPT_OBJECT_SHAPE"]

/-- A variable written with an equals sign. -/
def assignment (text : String) : String × String :=
  (String.ofList (text.toList.takeWhile (· != '=')),
    String.ofList ((text.toList.dropWhile (· != '=')).drop 1))

/-- The variables of the environment; only those for settings where there is no list of them. -/
def readEnvironment : IO Variables := do
  match ← readText? "/proc/self/environ" with
  | some text => return ((text.splitOn "\x00").filter (!·.isEmpty)).map assignment
  | none =>
    settingVariables.filterMapM fun name => do
      return (← IO.getEnv name).map (name, ·)

/-- The machine that the program runs on. -/
def thisMachine : IO (Machine IO) := do
  return {
    files := ⟨readText?, writeText⟩
    input := readInput?
    variableFile
    environment := ← readEnvironment }

/-- Says how the program ended. -/
def report : Exit → IO Unit
  | .done output => do
    output.notes.forM (IO.eprintln ·)
    IO.print output.text
  | .failed complaint => do
    IO.eprintln ("Error: " ++ complaint.summary)
    if let some cause := complaint.cause then
      IO.eprintln ("\nCaused by:\n    " ++ cause)
  | .usage .help => IO.print help
  | .usage .version => IO.println version
  | .usage .misuse => IO.eprint help

end DecisionFlow.CommandLine

/-- Runs the program on its arguments. -/
def main (args : List String) : IO UInt32 := do
  let exit ← DecisionFlow.CommandLine.run (← DecisionFlow.CommandLine.thisMachine) args
  DecisionFlow.CommandLine.report exit
  return exit.code.toUInt32
