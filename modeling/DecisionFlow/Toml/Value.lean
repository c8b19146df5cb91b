/-!
# TOML values

- `Toml.Value`: what a key stands for. A date or time is kept as its text.
- `Toml.Item`: a key while a document is being read, which remembers how tables came to be.
- `Toml.Entries.define`, `Toml.Entries.openTable`, `Toml.Entries.openElement`: what the lines of a
  document add. No key is defined twice, and a table that was closed stays as it is.
- `Toml.Entries.values`: the finished table.
-/

namespace DecisionFlow.Toml

/-- A value of a document. -/
inductive Value where
  | text (s : String)
  | whole (n : Int)
  | float (x : Float)
  | bool (b : Bool)
  | time (s : String)
  | array (items : List Value)
  | table (entries : List (String × Value))
deriving Inhabited

/-- How a table came to be. -/
inductive Origin where
  /-- A longer header passed through it. -/
  | passed
  /-- A dotted key passed through it. -/
  | dotted
  /-- It has a header of its own. -/
  | header
deriving DecidableEq, Repr

/-- What a key stands for while a document is being read. -/
inductive Item where
  | value (v : Value)
  | table (origin : Origin) (entries : List (String × Item))
  /-- An array of tables, of which the last one is still open. -/
  | tables (closed : List (List (String × Item))) (last : List (String × Item))

/-- The entries of a table that is still open. -/
abbrev Entries := List (String × Item)

namespace Entries

/-- Sets an entry: in its place if there is one of that name, at the end otherwise. -/
def put : Entries → String → Item → Entries
  | [], name, item => [(name, item)]
  | (key, old) :: rest, name, item =>
    if key = name then (key, item) :: rest else (key, old) :: put rest name item

/-- Changes the table at a path, making the tables on the way that are missing. A dotted key passes
through no table that has a header. -/
def change (dotted : Bool) (act : Origin → Entries → Option Entries) :
    List String → Origin → Entries → Option Entries
  | [], origin, entries => act origin entries
  | name :: path, _, entries => do
    let item ← match entries.lookup name with
      | none =>
        let origin := if dotted then .dotted else .passed
        return entries.put name (.table origin (← change dotted act path origin []))
      | some (.value _) => none
      | some (.table origin inner) =>
        if dotted && origin == .header then none
        else pure (.table origin (← change dotted act path origin inner))
      | some (.tables closed last) =>
        pure (.tables closed (← change dotted act path .header last))
    return entries.put name item

/-- Gives a value to a new key of the table with the header `header`. The table that holds it is the
one with the header or one that dotted keys have made. -/
def define (header path : List String) (name : String) (value : Value) (entries : Entries) :
    Option Entries :=
  let add := fun (origin : Origin) (entries : Entries) =>
    if (origin == .dotted) == path.isEmpty || (entries.lookup name).isSome then none
    else some (entries.put name (.value value))
  entries.change false (fun origin inner => change true add path origin inner) header .header

/-- Opens the table at a path by a header. -/
def openTable (path : List String) (name : String) (entries : Entries) : Option Entries :=
  let add := fun (_ : Origin) (entries : Entries) =>
    match entries.lookup name with
    | none => some (entries.put name (.table .header []))
    | some (.table .passed inner) => some (entries.put name (.table .header inner))
    | some _ => none
  entries.change false add path .header

/-- Opens a new element of the array of tables at a path. -/
def openElement (path : List String) (name : String) (entries : Entries) : Option Entries :=
  let add := fun (_ : Origin) (entries : Entries) =>
    match entries.lookup name with
    | none => some (entries.put name (.tables [] []))
    | some (.tables closed last) => some (entries.put name (.tables (closed ++ [last]) []))
    | some _ => none
  entries.change false add path .header

end Entries

mutual

/-- The value of an item. -/
def Item.toValue : Item → Value
  | .value v => v
  | .table _ entries => .table (Entries.values entries)
  | .tables closed last =>
    .array (Entries.elements closed ++ [.table (Entries.values last)])

/-- The values of entries. -/
def Entries.values : List (String × Item) → List (String × Value)
  | [] => []
  | (name, item) :: rest => (name, item.toValue) :: Entries.values rest

/-- The values of tables. -/
def Entries.elements : List (List (String × Item)) → List Value
  | [] => []
  | entries :: rest => .table (Entries.values entries) :: Entries.elements rest

end

end DecisionFlow.Toml
