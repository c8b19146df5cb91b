/-!
# Files

What a program does with files is written against `Files`, so that it can be run on a real file
system as well as on a `Directory`, which is nothing but data.

- `Files`: reading and writing text by path.
- `Directory`: named texts. A folder is there as soon as a file is in it.
- `Directory.read?`, `Directory.write?`, `Directory.files`.
-/

namespace DecisionFlow

/-- Access to the texts of files by their paths. -/
structure Files (m : Type → Type) where
  /-- The text of a file, if there is one that can be read. -/
  read? : String → m (Option String)
  /-- Writes the text of a file, and says whether that was possible. -/
  write : String → String → m Bool

/-- The names on the way to a file. -/
abbrev Place := List String

/-- Texts by their places. -/
structure Directory where
  texts : List (Place × String)

namespace Directory

/-- The names in a path. -/
def namesOf : List Char → List (List Char)
  | [] => [[]]
  | '/' :: rest => [] :: namesOf rest
  | c :: rest =>
    match namesOf rest with
    | first :: others => (c :: first) :: others
    | [] => [[c]]

/-- Whether a place is the directory itself or a folder in it. -/
def isFolder (d : Directory) (place : Place) : Bool :=
  place.isEmpty || d.texts.any fun (other, _) =>
    place.length < other.length && place.isPrefixOf other

/-- The place that names lead to from another place; none if they pass through what is no folder or
leave the directory. -/
def follow? (d : Directory) : Place → List String → Option Place
  | place, [] => some place
  | place, name :: rest =>
    if !d.isFolder place then none
    else if name == "" || name == "." then d.follow? place rest
    else if name == ".." then
      if place.isEmpty then none else d.follow? place.dropLast rest
    else d.follow? (place ++ [name]) rest

/-- Whether a name can be that of a file: it has at most 255 bytes and no null character. -/
def isName (name : String) : Bool := name.utf8ByteSize ≤ 255 && !name.toList.contains '\x00'

/-- The place that a path leads to. Paths that begin with a slash lead out of the directory, and
paths of 4096 bytes lead nowhere. -/
def place? (d : Directory) (path : String) : Option Place :=
  match path.toList with
  | '/' :: _ => none
  | chars =>
    let names := (namesOf chars).map String.ofList
    if path.utf8ByteSize < 4096 && names.all isName then d.follow? [] names else none

/-- The text of the file at a path. -/
def read? (d : Directory) (path : String) : Option String := do
  d.texts.lookup (← d.place? path)

/-- Sets the text at a place. -/
def put (place : Place) (text : String) : List (Place × String) → List (Place × String)
  | [] => [(place, text)]
  | (other, old) :: rest =>
    if other = place then (place, text) :: rest else (other, old) :: put place text rest

/-- The directory with a text written at a path; none if the path leads to a folder or nowhere. -/
def write? (d : Directory) (path text : String) : Option Directory := do
  let place ← d.place? path
  if d.isFolder place then none else some ⟨put place text d.texts⟩

/-- The directory with these texts. -/
def ofTexts (texts : List (String × String)) : Directory where
  texts := texts.map fun (path, text) => ((namesOf path.toList).map String.ofList, text)

/-- Access to the texts of a directory. -/
def files : Files (StateM Directory) where
  read? path := do return (← get).read? path
  write path text := do
    match (← get).write? path text with
    | some changed =>
      set changed
      return true
    | none => return false

end Directory

end DecisionFlow
