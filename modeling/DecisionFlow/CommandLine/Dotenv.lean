import DecisionFlow.Settings.Source
import DecisionFlow.Text.Case
import DecisionFlow.Unicode.Newest

/-!
# Variables in a file

A file may give variables, one on a line. They do not replace variables of the environment. Reading
stops at the first line that is malformed.

- `Dotenv.assignment?`: the name and the value on a line.
- `Dotenv.value?`: a value, with its quotes, escapes and the variables in it.
- `Variables.withFile`: the variables together with those of a file.
-/

namespace DecisionFlow

/-- What a line of a file of variables says. -/
inductive Dotenv.Line where
  | empty
  | assignment (name value : String)

namespace Dotenv

/-! ## Values -/

/-- What part of a value is being read. -/
inductive Mode where
  | plain
  /-- After a blank outside quotes: only a comment may follow. -/
  | finished
  /-- Between single quotes, where every character stands for itself. -/
  | strong
  /-- The name of a variable behind a dollar sign, in reverse. -/
  | named (name : List Char)
  /-- The name of a variable in braces, in reverse. -/
  | braced (name : List Char)
deriving DecidableEq, Repr

/-- A value that has been read up to some place. -/
structure State where
  mode : Mode := .plain
  /-- Whether the place is between double quotes. -/
  weak : Bool := false
  /-- Whether the last character was a backslash. -/
  escaped : Bool := false
  /-- The text so far, in reverse. -/
  before : List Char := []
deriving Repr

namespace State

/-- Adds characters to the text. -/
def add (s : State) (chars : List Char) : State := { s with before := chars.reverse ++ s.before }

/-- Adds the value of a variable, whose name is given in reverse. -/
def addVariable (valueOf : String → String) (s : State) (name : List Char) : State :=
  { s.add (valueOf (String.ofList name.reverse)).toList with mode := .plain }

/-- Whether a character may stand in the name of a variable that has no braces. -/
def isNamePart (c : Char) : Bool :=
  Unicode.Newest.alphabetic.contains c || Unicode.Newest.number.contains c

/-- The state after one more character; none if it is out of place. -/
def next? (valueOf : String → String) (s : State) (c : Char) : Option State :=
  if s.mode == .finished then if c == ' ' || c == '\t' then some s else none
  else if s.escaped then
    if ['\\', '\'', '"', '$', ' '].contains c then some { s.add [c] with escaped := false }
    else if c == 'n' then some { s.add ['\n'] with escaped := false }
    else none
  else
    match s.mode with
    | .strong => some (if c == '\'' then { s with mode := .plain } else s.add [c])
    | .named name =>
      if isNamePart c then some { s with mode := .named (c :: name) }
      else if c == '{' && name.isEmpty then some { s with mode := .braced [] }
      else
        let s := s.addVariable valueOf name
        some (if c == '$' then { s with mode := .named [] } else s.add [c])
    | .braced name =>
      if c == '}' then some (s.addVariable valueOf name)
      else some { s with mode := .braced (c :: name) }
    | _ =>
      some <|
        if c == '$' then { s with mode := .named [] }
        else if c == '\\' then { s with escaped := true }
        else if c == '"' then { s with weak := !s.weak }
        else if s.weak then s.add [c]
        else if c == '\'' then { s with mode := .strong }
        else if c == ' ' || c == '\t' then { s with mode := .finished }
        else s.add [c]

/-- The text of a value that has been read to its end; none if quotes or braces are open. -/
def finish? (valueOf : String → String) (s : State) : Option String :=
  if s.weak then none
  else
    match s.mode with
    | .strong | .braced _ => none
    | .named name => some (String.ofList (s.addVariable valueOf name).before.reverse)
    | _ => some (String.ofList s.before.reverse)

end State

/-- The text of a value, which starts at the front. A comment ends it behind a blank. -/
def value? (valueOf : String → String) : State → List Char → Option String
  | s, [] => s.finish? valueOf
  | s, c :: rest =>
    if s.mode == .finished && c == '#' then s.finish? valueOf
    else (s.next? valueOf c).bind fun s => value? valueOf s rest

/-! ## Lines -/

/-- The characters behind white space. -/
def skipBlank (chars : List Char) : List Char := chars.dropWhile Text.isBlank

/-- The name at the front, and the rest behind white space. -/
def name? (chars : List Char) : Option (String × List Char) := do
  let start ← chars.head?
  guard (start.isAlpha || start == '_')
  let isPart := fun (c : Char) => c.isAlphanum || c == '_' || c == '.'
  return (String.ofList (chars.takeWhile isPart), skipBlank (chars.dropWhile isPart))

/-- The rest behind an equals sign. -/
def afterEquals? : List Char → Option (List Char)
  | '=' :: rest => some rest
  | _ => none

/-- Whether nothing but a comment follows. -/
def isOver (chars : List Char) : Bool := chars.isEmpty || chars.head? == some '#'

/-- The name and the value that a line gives. The word `export` may stand in front of the name. -/
def assignment? (valueOf : String → String) (chars : List Char) : Option (String × String) := do
  let (first, rest) ← name? chars
  let (name, rest) ← match afterEquals? rest with
    | some rest => pure (first, rest)
    | none =>
      guard (first == "export")
      let (name, rest) ← name? rest
      pure (name, ← afterEquals? rest)
  let rest := skipBlank rest
  if isOver rest then return (name, "") else return (name, ← value? valueOf {} rest)

/-- What a line says; none if it is malformed. -/
def line? (valueOf : String → String) (line : String) : Option Line :=
  let chars := skipBlank (Text.trim line).toList
  if isOver chars then some .empty
  else (assignment? valueOf chars).map fun (name, value) => .assignment name value

/-- What follows a name and an equals sign at the front. -/
def after? (name chars : List Char) : Option (List Char) :=
  if name.isPrefixOf chars then afterEquals? (chars.drop name.length) else none

/-- The value that an environment gives for a name. An assignment is looked up as it is written,
name and value together: a name may go on behind an equals sign into the value. -/
def environmentValue? (environment : Variables) (name : String) : Option String :=
  if name.isEmpty then none
  else
    environment.findSome? fun (key, value) =>
      (after? name.toList (key ++ "=" ++ value).toList).map String.ofList

/-- The variables with those of lines. A variable in a value stands for that of the environment, or
else for the last one that the lines have given. -/
def addLines (environment given : Variables) : List String → Variables
  | [] => environment
  | line :: rest =>
    let valueOf := fun name =>
      ((environmentValue? environment name).or (given.lookup name)).getD ""
    match line? valueOf line with
    | none => environment
    | some .empty => addLines environment given rest
    | some (.assignment name value) =>
      let environment :=
        if (environment.lookup name).isSome then environment else environment ++ [(name, value)]
      addLines environment ((name, value) :: given) rest

end Dotenv

/-- The variables together with those that the text of a file gives. -/
def Variables.withFile (environment : Variables) (text : String) : Variables :=
  Dotenv.addLines environment [] (text.splitOn "\n")

end DecisionFlow
