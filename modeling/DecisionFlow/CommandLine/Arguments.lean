import DecisionFlow.Settings

/-!
# Arguments

The first argument that is no option names a command, and the options of that command may stand
before and after its files. Two options belong to every command and may also stand in front of it.

- `Command`, `Invocation`: what the arguments ask for.
- `Usage`: what they are if they ask for no command.
- `Arguments.parse`: reads arguments from left to right. The first one out of place decides.
-/

namespace DecisionFlow

/-- What the program does. -/
inductive Command where
  /-- Reads a flow and counts its parts. -/
  | check (file : String)
  /-- Runs a flow on a payload. -/
  | run (file input : String) (trace : Bool)
  /-- Writes a flow in its canonical form. -/
  | format (file : String) (target : Option Format)
  /-- Lists the statements. -/
  | statements
  /-- Lists the types of conditions and consumers. -/
  | types
deriving DecidableEq, Repr

/-- A command with the options that belong to every command. -/
structure Invocation where
  command : Command
  /-- A settings file. -/
  config : Option String
  /-- Whether to tell more of what is done. -/
  verbose : Bool
deriving DecidableEq, Repr

/-- What arguments are that ask for no command. -/
inductive Usage where
  /-- They ask for help. -/
  | help
  /-- They ask for the version. -/
  | version
  /-- They make no sense. -/
  | misuse
deriving DecidableEq, Repr

namespace Arguments

/-- The options. -/
inductive Switch where
  | config
  | verbose
  | input
  | trace
  | target
  | help
  | version
deriving DecidableEq, Repr

namespace Switch

/-- The name of an option. -/
def name : Switch → String
  | .config => "config"
  | .verbose => "verbose"
  | .input => "input"
  | .trace => "trace"
  | .target => "to"
  | .help => "help"
  | .version => "version"

/-- The letter of an option. -/
def letter? : Switch → Option Char
  | .verbose => some 'v'
  | .input => some 'i'
  | .help => some 'h'
  | .version => some 'V'
  | _ => none

/-- Whether an option has a value. -/
def hasValue : Switch → Bool
  | .config | .input | .target => true
  | _ => false

/-- Whether a value makes sense for an option. -/
def accepts : Switch → String → Bool
  | .config, value => !value.isEmpty
  | .target, value => (Format.lookup value).isSome
  | _, _ => true

end Switch

/-- The names of commands. -/
inductive Verb where
  | check
  | run
  | format
  | statements
  | types
deriving DecidableEq, Repr

namespace Verb

/-- The command with a name. -/
def lookup : String → Option Verb
  | "check" => some .check
  | "run" => some .run
  | "fmt" => some .format
  | "statements" => some .statements
  | "types" => some .types
  | _ => none

/-- The options of a command. -/
def switches : Verb → List Switch
  | .run => [.config, .verbose, .help, .input, .trace]
  | .format => [.config, .verbose, .help, .target]
  | _ => [.config, .verbose, .help]

/-- How many files a command has. -/
def fileCount : Verb → Nat
  | .check | .run | .format => 1
  | .statements | .types => 0

end Verb

/-- The options and files that have been read. -/
structure Given where
  options : List (Switch × String) := []
  files : List String := []
deriving Repr

namespace Given

/-- Whether an option was given. -/
def has (g : Given) (s : Switch) : Bool := (g.options.lookup s).isSome

/-- Takes an option. None may be given twice. -/
def take (g : Given) (s : Switch) (value : String) : Except Usage Given :=
  match s with
  | .help => .error .help
  | .version => .error .version
  | s =>
    if g.has s || !s.accepts value then .error .misuse
    else .ok { g with options := (s, value) :: g.options }

end Given

/-! ## Options -/

/-- Whether an argument looks like options. A single dash does not. -/
def isOption (arg : String) : Bool :=
  match arg.toList with
  | '-' :: _ :: _ => true
  | _ => false

/-- What the letters behind a dash give: the options, and the one whose value is the
next argument. -/
def takeLetters (switches : List Switch) (g : Given) :
    List Char → Except Usage (Given × Option Switch)
  | [] => .ok (g, none)
  | c :: rest =>
    match switches.find? (·.letter? == some c) with
    | none => .error .misuse
    | some s =>
      if !s.hasValue then do takeLetters switches (← g.take s "") rest
      else
        match rest with
        | [] => .ok (g, some s)
        | '=' :: value => return (← g.take s (String.ofList value), none)
        | value => return (← g.take s (String.ofList value), none)

/-- What a name behind two dashes gives: an option, or the one whose value is the next argument. -/
def takeName (switches : List Switch) (g : Given) (chars : List Char) :
    Except Usage (Given × Option Switch) :=
  let name := String.ofList (chars.takeWhile (· != '='))
  match switches.find? (·.name == name), chars.dropWhile (· != '=') with
  | none, _ => .error .misuse
  | some s, [] => if s.hasValue then .ok (g, some s) else return (← g.take s "", none)
  | some s, _ :: value =>
    if s.hasValue then return (← g.take s (String.ofList value), none) else .error .misuse

/-- What an argument with options gives. -/
def takeOption (switches : List Switch) (g : Given) (arg : String) :
    Except Usage (Given × Option Switch) :=
  match arg.toList with
  | '-' :: '-' :: name => takeName switches g name
  | chars => takeLetters switches g (chars.drop 1)

/-! ## Commands -/

/-- Takes a file. -/
def takeFile (verb : Verb) (g : Given) (arg : String) : Except Usage Given :=
  if verb.fileCount ≤ g.files.length || arg.isEmpty then .error .misuse
  else .ok { g with files := g.files ++ [arg] }

/-- Reads the arguments behind the name of a command. Behind two dashes alone, everything is a file.
An option that still needs its value is `pending`. -/
def readRest (verb : Verb) (g : Given) (pending : Option Switch) :
    List String → Except Usage Given
  | [] => if pending.isSome then .error .misuse else .ok g
  | arg :: rest =>
    match pending with
    | some s => do
      if isOption arg then throw .misuse
      readRest verb (← g.take s arg) none rest
    | none =>
      if arg == "--" then rest.foldlM (takeFile verb) g
      else if isOption arg then do
        let (g, pending) ← takeOption verb.switches g arg
        readRest verb g pending rest
      else do readRest verb (← takeFile verb g arg) none rest

/-- The command that options and files make. -/
def command? (verb : Verb) (g : Given) : Option Command := do
  match verb with
  | .check => return .check (← g.files.head?)
  | .run => return .run (← g.files.head?) (← g.options.lookup .input) (g.has .trace)
  | .format => return .format (← g.files.head?) ((g.options.lookup .target).bind Format.lookup)
  | .statements => return .statements
  | .types => return .types

/-- What is given in front of the name of a command, the name, and the arguments behind it. -/
structure Split where
  front : Given
  name : String
  rest : List String
deriving Repr

/-- The options that may stand in front of a command. -/
def frontSwitches : List Switch := [.config, .verbose, .help, .version]

/-- Reads the arguments in front of the name of a command. -/
def readFront (g : Given) (pending : Option Switch) : List String → Except Usage Split
  | [] => .error .misuse
  | arg :: rest =>
    match pending with
    | some s => do
      if isOption arg then throw .misuse
      readFront (← g.take s arg) none rest
    | none =>
      if isOption arg then do
        let (g, pending) ← takeOption frontSwitches g arg
        readFront g pending rest
      else .ok ⟨g, arg, rest⟩

/-- What asking for help with the names of commands gives. -/
def help : List String → Usage
  | [] | ["help"] => .help
  | [name] => if (Verb.lookup name).isSome then .help else .misuse
  | _ => .misuse

/-- Reads arguments. The settings file may also be named by a variable of the environment; the
option closest to the end counts. -/
def parse (configVariable : Option String) (args : List String) : Except Usage Invocation := do
  let ⟨front, name, rest⟩ ← readFront {} none args
  match Verb.lookup name with
  | none => throw (if name == "help" then help rest else .misuse)
  | some verb =>
    let given ← readRest verb {} none rest
    if configVariable == some "" && !(front.has .config && given.has .config) then throw .misuse
    match command? verb given with
    | none => throw .misuse
    | some command =>
      let config := (given.options.lookup .config).or
        ((front.options.lookup .config).or configVariable)
      return { command, config, verbose := front.has .verbose || given.has .verbose }

end Arguments

end DecisionFlow
