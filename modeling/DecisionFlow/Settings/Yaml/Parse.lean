import DecisionFlow.Settings.Layer
import DecisionFlow.Settings.Yaml.Scan

/-!
# Values in YAML settings

- `SettingsYaml.Datum`: a value, before it is taken for a setting.
- `SettingsYaml.Datum.ofPlain`, `SettingsYaml.Datum.ofTagged`: what a scalar stands for.
- `SettingsYaml.Datum.setting?`, `SettingsYaml.Datum.layer?`: the setting of a value, with the
  entries of a mapping by their names.
- `SettingsYaml.parse?`: the setting that a text stands for.
-/

namespace DecisionFlow.SettingsYaml

open Yaml (Token)

/-- A value. -/
inductive Datum where
  /-- What a tag does not allow, or an alias of what it stands in. -/
  | missing
  | nothing
  | flag (b : Bool)
  | whole (n : Int)
  /-- A number in the form it is written in, or an infinity or not-a-number. -/
  | decimal (form : String)
  | text (s : String)
  | list (items : List Datum)
  | table (entries : List (Datum × Datum))

/-- A tag: it names a type of the standard or something else. -/
inductive Tag where
  | standard (name : String)
  | other
deriving DecidableEq, Repr

namespace Datum

/-! ## Scalars -/

/-- Whether a text is the form of a number or of what is none. -/
def isDecimal (s : String) : Bool :=
  [".inf", ".Inf", ".INF", "+.inf", "+.Inf", "+.INF", "-.inf", "-.Inf", "-.INF", ".nan",
    ".NAN"].contains s || (Text.float? s.toList).isSome

/-- What a scalar without quotes stands for. -/
def ofPlain (s : String) : Datum :=
  let chars := s.toList
  let whole? := match chars with
    | '0' :: 'x' :: digits => (Text.whole64In? 16 digits).or (Text.whole64? chars)
    | '0' :: 'o' :: digits => (Text.whole64In? 8 digits).or (Text.whole64? chars)
    | '+' :: digits => (Text.whole64? digits).or (Text.whole64? chars)
    | _ => Text.whole64? chars
  if s == "~" || s == "null" then .nothing
  else if s == "true" then .flag true
  else if s == "false" then .flag false
  else if let some n := whole? then .whole n
  else if isDecimal s then .decimal s
  else .text s

/-- What a scalar without quotes stands for behind a tag. -/
def ofTagged (tag : Tag) (s : String) : Datum :=
  match tag with
  | .standard "bool" =>
    if s == "true" then .flag true else if s == "false" then .flag false else .missing
  | .standard "int" => ((Text.whole64? s.toList).map .whole).getD .missing
  | .standard "float" => if isDecimal s then .decimal s else .missing
  | .standard "null" => if s == "~" || s == "null" then .nothing else .missing
  | _ => .text s

/-- What a scalar stands for. -/
def ofScalar (tag : Option Tag) (plain : Bool) (s : String) : Datum :=
  if !plain then .text s
  else
    match tag with
    | some tag => ofTagged tag s
    | none => ofPlain s

/-! ## Mappings -/

/-- Whether two keys of a mapping are the same scalar. -/
def sameKey : Datum → Datum → Bool
  | nothing, nothing => true
  | flag a, flag b => a == b
  | whole a, whole b => a == b
  | decimal a, decimal b => a == b
  | text a, text b => a == b
  | _, _ => false

/-- The entries of a mapping whose keys and values follow one another; none if a key repeats. What
is missing is no key: the next value stands in its place. -/
def entries? : Option Datum → List (Datum × Datum) → List Datum →
    Option (List (Datum × Datum))
  | _, found, [] => some found.reverse
  | none, found, .missing :: rest => entries? none found rest
  | none, found, key :: rest => entries? (some key) found rest
  | some key, found, value :: rest =>
    if found.any fun entry => entry.1.sameKey key then none
    else entries? none ((key, value) :: found) rest

/-- The mapping of these keys and values. -/
def mapping? (entries : List (Datum × Datum)) : Option Datum :=
  (entries? none [] (entries.flatMap fun (key, value) => [key, value])).map .table

end Datum

/-! ## Nodes -/

/-- Tokens that have been read up to some place. -/
structure Composer where
  tokens : List Token
  /-- The meaning of a tag handle, given by the last directive. -/
  handle : Option (String × String) := none
  /-- The numbers of the names of anchors. -/
  names : List (String × Nat) := []
  anchors : Nat := 0
  /-- The values with anchors, by number. -/
  anchored : List (Nat × Datum) := []

/-- A step of reading tokens; none if they form no document. -/
abbrev Compose := StateT Composer Option

namespace Composer

/-- The next token. -/
def peek : Compose Token := do (← get).tokens.head?

/-- Passes over a token. -/
def advance : Compose Unit := modify fun s => { s with tokens := s.tokens.drop 1 }

/-- Passes over a given token. -/
def expect (t : Token) : Compose Unit := do
  guard ((← peek) == t)
  advance

/-- Passes over a given token if it comes next, and says whether it did. -/
def skips (t : Token) : Compose Bool := do
  if (← peek) == t then advance; return true else return false

/-- What the handles of the types of the standard mean. -/
def standardMeaning : String := "tag:yaml.org,2002:"

/-- The tag that a handle and a suffix stand for. Only handles with a name have to be declared. -/
def resolveTag (handle suffix : String) : Compose Tag := do
  let declared := match (← get).handle with
    | some (name, meaning) => if name == handle then some meaning else none
    | none => none
  let meaning ← match declared with
    | some meaning => pure meaning
    | none =>
      if handle == "!!" then pure standardMeaning
      else if 1 < handle.length && handle.endsWith "!" then failure
      else pure handle
  return if meaning == standardMeaning then .standard suffix else .other

/-- Gives a number to the name of an anchor. -/
def number (name : String) : Compose Nat := do
  let s ← get
  let n := s.anchors
  set { s with names := (name, n) :: s.names, anchors := n + 1 }
  return n

/-- Reads an anchor and a tag, in any order: the number of the one and the other. -/
def properties : Compose (Option Nat × Option Tag) := do
  match ← peek with
  | .anchor name =>
    advance
    let n ← number name
    match ← peek with
    | .tag handle suffix =>
      advance
      return (some n, some (← resolveTag handle suffix))
    | _ => return (some n, none)
  | .tag handle suffix =>
    advance
    let tag ← resolveTag handle suffix
    match ← peek with
    | .anchor name =>
      advance
      return (some (← number name), some tag)
    | _ => return (none, some tag)
  | _ => return (none, none)

mutual

/-- Reads a node. Blocks are allowed outside brackets, and items without indentation of their own
below a key. -/
def node : Nat → Bool → Bool → Compose Datum
  | 0, _, _ => failure
  | fuel + 1, block, unindented => do
    match ← peek with
    | .alias name =>
      advance
      let n ← (← get).names.lookup name
      return ((← get).anchored.lookup n).getD .missing
    | _ =>
      let (anchor, tag) ← properties
      let datum ← content fuel block unindented tag (anchor.isSome || tag.isSome)
      match anchor with
      | some n => modify fun s => { s with anchored := (n, datum) :: s.anchored }
      | none => pure ()
      return datum

/-- Reads what follows anchor and tag. With one of these, the scalar may be missing. -/
def content : Nat → Bool → Bool → Option Tag → Bool → Compose Datum
  | 0, _, _, _, _ => failure
  | fuel + 1, block, unindented, tag, marked => do
    let unwritten : Compose Datum := do
      guard marked
      return .ofScalar tag true ""
    match ← peek with
    | .scalar text plain =>
      advance
      return .ofScalar tag plain text
    | .flowSequenceStart =>
      advance
      return .list (← flowItems fuel true)
    | .flowMappingStart =>
      advance
      (Datum.mapping? (← flowEntries fuel true) : Option Datum)
    | .blockEntry => if unindented then return .list (← unindentedItems fuel) else unwritten
    | .blockSequenceStart =>
      if !block then unwritten
      else
        advance
        return .list (← blockItems fuel)
    | .blockMappingStart =>
      if !block then unwritten
      else
        advance
        (Datum.mapping? (← blockEntries fuel) : Option Datum)
    | _ => unwritten

/-- Reads the items of a block up to its end. -/
def blockItems : Nat → Compose (List Datum)
  | 0 => failure
  | fuel + 1 => do
    if ← skips .blockEnd then return []
    expect .blockEntry
    let item ← match ← peek with
      | .blockEntry | .blockEnd => pure Datum.nothing
      | _ => node fuel true false
    return item :: (← blockItems fuel)

/-- Reads items that are not indented more than the key above them. -/
def unindentedItems : Nat → Compose (List Datum)
  | 0 => failure
  | fuel + 1 => do
    if !(← skips .blockEntry) then return []
    let item ← match ← peek with
      | .blockEntry | .key | .value | .blockEnd => pure Datum.nothing
      | _ => node fuel true false
    return item :: (← unindentedItems fuel)

/-- Reads the entries of a block up to its end. -/
def blockEntries : Nat → Compose (List (Datum × Datum))
  | 0 => failure
  | fuel + 1 => do
    if ← skips .blockEnd then return []
    let part : Compose Datum := do
      match ← peek with
      | .key | .value | .blockEnd => return .nothing
      | _ => node fuel true true
    let key ← if ← skips .key then part
      else do
        guard ((← peek) == .value)
        pure Datum.nothing
    let value ← if ← skips .value then part else pure Datum.nothing
    return (key, value) :: (← blockEntries fuel)

/-- Reads the items between brackets up to the closing one. An item may be a single entry of a
mapping. -/
def flowItems : Nat → Bool → Compose (List Datum)
  | 0, _ => failure
  | fuel + 1, first => do
    if ← skips .flowSequenceEnd then return []
    unless first do expect .flowEntry
    match ← peek with
    | .flowSequenceEnd =>
      advance
      return []
    | .key =>
      advance
      let key ← match ← peek with
        | .value | .flowEntry | .flowSequenceEnd =>
          advance
          pure Datum.nothing
        | _ => node fuel false false
      let value ← if ← skips .value then
          match ← peek with
          | .flowEntry | .flowSequenceEnd => pure Datum.nothing
          | _ => node fuel false false
        else pure Datum.nothing
      let pair ← (Datum.mapping? [(key, value)] : Option Datum)
      return pair :: (← flowItems fuel false)
    | _ =>
      let item ← node fuel false false
      return item :: (← flowItems fuel false)

/-- Reads the entries between braces up to the closing one. A key may stand without a value, and a
value without a key. -/
def flowEntries : Nat → Bool → Compose (List (Datum × Datum))
  | 0, _ => failure
  | fuel + 1, first => do
    if ← skips .flowMappingEnd then return []
    unless first do expect .flowEntry
    let value : Compose Datum := do
      if ← skips .value then
        match ← peek with
        | .flowEntry | .flowMappingEnd => return .nothing
        | _ => node fuel false false
      else return .nothing
    match ← peek with
    | .flowMappingEnd =>
      advance
      return []
    | .key =>
      advance
      let key ← match ← peek with
        | .value | .flowEntry | .flowMappingEnd => pure Datum.nothing
        | _ => node fuel false false
      let entry := (key, ← value)
      return entry :: (← flowEntries fuel false)
    | .value =>
      let entry := (Datum.nothing, ← value)
      return entry :: (← flowEntries fuel false)
    | _ =>
      let key ← node fuel false false
      return (key, .nothing) :: (← flowEntries fuel false)

end

/-! ## Documents -/

/-- The directives in front of a document: at most one version. Of the meanings of tag handles only
that of the last directive is kept. -/
def directives : Nat → Bool → Compose Unit
  | 0, _ => failure
  | fuel + 1, versioned => do
    match ← peek with
    | .version _ _ =>
      guard !versioned
      modify fun s => { s with handle := none }
      advance
      directives fuel true
    | .tagHandle handle meaning =>
      modify fun s => { s with handle := some (handle, meaning) }
      advance
      directives fuel versioned
    | _ => return

/-- Reads the root of the document. -/
def root (fuel : Nat) : Compose Datum := do
  match ← peek with
  | .version .. | .tagHandle .. | .documentStart =>
    directives fuel false
    expect .documentStart
    match ← peek with
    | .version .. | .tagHandle .. | .documentStart | .documentEnd | .streamEnd => return .nothing
    | _ => node fuel true false
  | _ => node fuel true false

/-- Passes over the ends of documents. -/
def skipEnds : Compose Unit :=
  modify fun s => { s with tokens := s.tokens.dropWhile (· == .documentEnd) }

/-- Reads the only document of a text. A text without a document is an empty mapping. -/
def single (fuel : Nat) : Compose Datum := do
  skipEnds
  if (← peek) == .streamEnd then return .table []
  let root ← root fuel
  skipEnds
  expect .streamEnd
  return root

end Composer

/-! ## Settings -/

/-- The name that a key stands for: that of a text or a whole number. -/
def Datum.name? : Datum → Option String
  | text s => some s
  | whole n => some (toString n)
  | _ => none

mutual

/-- The setting that a value stands for. Infinities in the forms of YAML stand for none, nor do
mappings with keys that are no names. -/
def Datum.setting? : Datum → Option Setting
  | .missing | .nothing => some .nothing
  | .flag b => some (.flag b)
  | .whole n => some (.whole n)
  | .decimal form => (Text.float? form.toList).map .float
  | .text s => some (.text s)
  | .list items => (Datum.settings? items).map .list
  | .table entries => (Datum.layer? entries).map .table

/-- The settings that values stand for. -/
def Datum.settings? : List Datum → Option (List Setting)
  | [] => some []
  | item :: rest => do return (← item.setting?) :: (← Datum.settings? rest)

/-- The named settings that the entries of a mapping stand for. -/
def Datum.layer? : List (Datum × Datum) → Option (List (String × Setting))
  | [] => some []
  | (key, value) :: rest => do
    let name ← key.name?
    return (name, ← value.setting?) :: (← Datum.layer? rest)

end

/-- The setting that a text stands for; none if the text is malformed, has several documents, or
gives what is no setting. -/
def parse? (text : String) : Option Setting := do
  let tokens ← tokens? text
  let (datum, _) ← (Composer.single (4 * tokens.length + 8)).run { tokens }
  datum.setting?

end DecisionFlow.SettingsYaml
