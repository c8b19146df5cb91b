import DecisionFlow.Toml.Scalar

/-!
# Reading TOML

- `Toml.value`: reads a value.
- `Toml.Line`, `Toml.line`: what one line, or the lines of one value, say.
- `Toml.parse`: the table of a whole text.
-/

namespace DecisionFlow.Toml

/-- How deep arrays and tables in braces may nest. -/
def depthLimit : Nat := 79

/-- Passes over a comment, if there is one. -/
def comment : Reader Unit := do
  match ← get with
  | '#' :: rest => set (rest.dropWhile isText)
  | _ => return

/-- Passes over the end of a line, or stays at the end of the text. -/
def lineEnd : Reader Unit := do
  let chars ← get
  unless chars.isEmpty do set (← afterBreak? chars)

/-- Passes over what may follow on a line: blanks and a comment. -/
def trailing : Reader Unit := do
  blanks
  comment
  lineEnd

/-- Passes over blanks, line breaks and comments, at most `fuel` times each. -/
def spaceAndComments : Nat → Reader Unit
  | 0 => failure
  | fuel + 1 => do
    blanks
    comment
    match afterBreak? (← get) with
    | some rest =>
      set rest
      spaceAndComments fuel
    | none => return

/-- The space and comments between the items of an array. -/
def spacing : Reader Unit := do spaceAndComments ((← get).length + 1)

/-- Reads the items of an array up to its end, at most `fuel`. -/
def items (value : Reader Value) : Nat → Reader (List Value)
  | 0 => failure
  | fuel + 1 => do
    spacing
    match ← get with
    | ']' :: rest =>
      set rest
      return []
    | _ =>
      let first ← value
      spacing
      match ← get with
      | ',' :: rest =>
        set rest
        return first :: (← items value fuel)
      | _ =>
        exactly [']']
        return [first]

/-- Reads the entries of a table in braces up to its end, at most `fuel`. -/
def entries (value : Reader Value) (before : Entries) : Nat → Reader Entries
  | 0 => failure
  | fuel + 1 => do
    let (path, name) ← key
    exactly ['=']
    blanks
    let given ← value
    blanks
    let now ← before.define [] path name given
    match ← get with
    | ',' :: rest =>
      set rest
      entries value now fuel
    | _ =>
      exactly ['\x7d']
      return now

/-- Reads a value. The values inside brackets are read by `inner`; without it there may be none. -/
def valueWith (inner : Option (Reader Value)) : Reader Value := do
  match ← get with
  | '"' :: _ => return .text (← string '"')
  | '\'' :: _ => return .text (← string '\'')
  | '[' :: rest =>
    let value ← inner
    set rest
    return .array (← items value (rest.length + 1))
  | '{' :: rest =>
    let value ← inner
    set (rest.dropWhile isBlank)
    match ← get with
    | '}' :: rest =>
      set rest
      return .table []
    | _ => return .table (Entries.values (← entries value [] (rest.length + 1)))
  | _ => scalar

/-- Reads a value in which brackets nest at most `depth` deep. -/
def value : Nat → Reader Value
  | 0 => valueWith none
  | depth + 1 => valueWith (some (value depth))

/-- What a line of a document says. -/
inductive Line where
  /-- Nothing. -/
  | empty
  /-- The lines that follow define entries of this table. -/
  | table (path : List String) (name : String)
  /-- The lines that follow define entries of a new element of this array of tables. -/
  | element (path : List String) (name : String)
  | entry (path : List String) (name : String) (value : Value)

/-- Reads a line, or the lines of one value, up to the next line. -/
def line : Reader Line := do
  blanks
  match ← get with
  | [] => return .empty
  | '[' :: '[' :: rest =>
    set rest
    let (path, name) ← key
    exactly [']', ']']
    trailing
    return .element path name
  | '[' :: rest =>
    set rest
    let (path, name) ← key
    exactly [']']
    trailing
    return .table path name
  | c :: _ =>
    if c == '#' || c == '\n' || c == '\r' then
      trailing
      return .empty
    else
      let (path, name) ← key
      exactly ['=']
      blanks
      let value ← value depthLimit
      trailing
      return .entry path name value

/-- Adds what a line says to the entries of a document, of which the table `header` is open. -/
def addLine (header : List String) (root : Entries) : Line → Option (List String × Entries)
  | .empty => some (header, root)
  | .table path name => (root.openTable path name).map (path ++ [name], ·)
  | .element path name => (root.openElement path name).map (path ++ [name], ·)
  | .entry path name value => (root.define header path name value).map (header, ·)

/-- Reads at most `fuel` lines, up to the end of the text. -/
def lines : Nat → List String → Entries → Reader Entries
  | 0, _, _ => failure
  | fuel + 1, header, root => do
    if (← get).isEmpty then return root
    let (header, root) ← addLine header root (← line)
    lines fuel header root

/-- The table of a whole text; none if the text is malformed or defines something twice. The mark
that may stand in front for the order of bytes does not count. -/
def parse (text : String) : Option (List (String × Value)) := do
  let chars := match text.toList with
    | '\uFEFF' :: chars => chars
    | chars => chars
  let (root, _) ← (lines (chars.length + 1) [] []).run chars
  return Entries.values root

end DecisionFlow.Toml
