import DecisionFlow.Yaml.Token

/-!
# Documents of YAML

The tokens of a text as a tree of nodes, before aliases are followed and scalars get their meaning.

- `Yaml.Node`: scalars, sequences, mappings and aliases.
- `Yaml.Document`: a root node with the nodes that anchors stand for.
- `Yaml.document?`: the single document of a text.
-/

namespace DecisionFlow.Yaml

/-- A node of a document. -/
inductive Node where
  | scalar (tag : Option String) (plain : Bool) (text : String)
  | sequence (tag : Option String) (items : List Node)
  | mapping (tag : Option String) (entries : List (Node × Node))
  /-- Stands for the node with this number. -/
  | alias (number : Nat)

namespace Node

mutual

/-- How many marks the node consists of: one for a scalar or alias, and two for the ends of a
collection. -/
def size : Node → Nat
  | .scalar .. | .alias _ => 1
  | .sequence _ items => 2 + sizeItems items
  | .mapping _ entries => 2 + sizeEntries entries

/-- The size of items. -/
def sizeItems : List Node → Nat
  | [] => 0
  | item :: rest => item.size + sizeItems rest

/-- The size of entries. -/
def sizeEntries : List (Node × Node) → Nat
  | [] => 0
  | (key, value) :: rest => key.size + value.size + sizeEntries rest

end

/-- The scalar that is not written. -/
def absent : Node := .scalar none true ""

end Node

/-- A node that an anchor stands in front of. -/
structure Anchored where
  number : Nat
  /-- How many anchors come before it in the text. -/
  order : Nat
  node : Node

/-- A document. -/
structure Document where
  root : Node
  anchored : List Anchored := []

/-- The node with a number: of several the last one in the text. -/
def Document.find? (d : Document) (number : Nat) : Option Node :=
  let latest := (d.anchored.filter (·.number == number)).foldl
    (fun best next =>
      match best with
      | some (b : Anchored) => if b.order < next.order then some next else best
      | none => some next) none
  latest.map (·.node)

/-- Tokens that have been read up to some place. -/
structure Composer where
  tokens : List Token
  /-- The meanings of tag handles. -/
  handles : List (String × String) := []
  /-- The numbers of the names of anchors. A name that is used again gets the number of names. -/
  names : List (String × Nat) := []
  anchors : Nat := 0
  anchored : List Anchored := []

/-- A step of reading tokens; none if they form no document. -/
abbrev Compose := StateT Composer Option

namespace Composer

/-- The next token. -/
def peek : Compose Token := do (← get).tokens.head?

/-- Passes over a token. -/
def advance : Compose Unit := modify fun s => { s with tokens := s.tokens.drop 1 }

/-- Passes over a given token. -/
def expect (t : Token) : Compose Unit := do
  guard ((← peek) == t)
  advance

/-- Passes over a given token if it comes next, and says whether it did. -/
def skips (t : Token) : Compose Bool := do
  if (← peek) == t then advance; return true else return false

/-- The meanings that tag handles have unless a directive says otherwise. -/
def usualHandles : List (String × String) := [("!", "!"), ("!!", "tag:yaml.org,2002:")]

/-- The tag that a handle and a suffix stand for. -/
def resolveTag (handle suffix : String) : Compose String := do
  if handle.isEmpty then return suffix
  else
    let meaning ← ((← get).handles ++ usualHandles).lookup handle
    return meaning ++ suffix

/-- Reads an anchor and a tag, in any order. -/
def properties : Compose (Option String × Option String) := do
  match ← peek with
  | .anchor name =>
    advance
    match ← peek with
    | .tag handle suffix =>
      advance
      return (some name, some (← resolveTag handle suffix))
    | _ => return (some name, none)
  | .tag handle suffix =>
    advance
    match ← peek with
    | .anchor name =>
      advance
      return (some name, some (← resolveTag handle suffix))
    | _ => return (none, some (← resolveTag handle suffix))
  | _ => return (none, none)

/-- Gives a number to the name of an anchor. -/
def number (name : String) : Compose (Nat × Nat) := do
  let s ← get
  let n := s.names.length
  set { s with names := (name, n) :: s.names.filter (·.1 != name), anchors := s.anchors + 1 }
  return (n, s.anchors)

mutual

/-- Reads a node. Blocks are allowed outside brackets, and items without indentation of their own
below a key. -/
def node : Nat → Bool → Bool → Compose Node
  | 0, _, _ => failure
  | fuel + 1, block, unindented => do
    match ← peek with
    | .alias name =>
      advance
      return .alias (← (← get).names.lookup name)
    | _ =>
      let (anchor, tag) ← properties
      match anchor with
      | none => content fuel block unindented tag tag.isSome
      | some name =>
        let (n, order) ← number name
        let content ← content fuel block unindented tag true
        modify fun s => { s with anchored := ⟨n, order, content⟩ :: s.anchored }
        return content

/-- Reads what follows anchor and tag. With one of these, the scalar may be missing. -/
def content : Nat → Bool → Bool → Option String → Bool → Compose Node
  | 0, _, _, _, _ => failure
  | fuel + 1, block, unindented, tag, marked => do
    match ← peek with
    | .scalar text plain =>
      advance
      return .scalar tag plain text
    | .flowSequenceStart =>
      advance
      return .sequence tag (← flowItems fuel true)
    | .flowMappingStart =>
      advance
      return .mapping tag (← flowEntries fuel true)
    | .blockEntry =>
      if unindented then return .sequence tag (← unindentedItems fuel)
      else
        guard marked
        return .scalar tag true ""
    | .blockSequenceStart =>
      if block then
        advance
        return .sequence tag (← blockItems fuel)
      else
        guard marked
        return .scalar tag true ""
    | .blockMappingStart =>
      if block then
        advance
        return .mapping tag (← blockEntries fuel)
      else
        guard marked
        return .scalar tag true ""
    | _ =>
      guard marked
      return .scalar tag true ""

/-- Reads the items of a block up to its end. -/
def blockItems : Nat → Compose (List Node)
  | 0 => failure
  | fuel + 1 => do
    if ← skips .blockEnd then return []
    expect .blockEntry
    let item ← match ← peek with
      | .blockEntry | .blockEnd => pure Node.absent
      | _ => node fuel true false
    return item :: (← blockItems fuel)

/-- Reads items that are not indented more than the key above them. -/
def unindentedItems : Nat → Compose (List Node)
  | 0 => failure
  | fuel + 1 => do
    if !(← skips .blockEntry) then return []
    let item ← match ← peek with
      | .blockEntry | .key | .value | .blockEnd => pure Node.absent
      | _ => node fuel true false
    return item :: (← unindentedItems fuel)

/-- Reads the entries of a block up to its end. -/
def blockEntries : Nat → Compose (List (Node × Node))
  | 0 => failure
  | fuel + 1 => do
    if ← skips .blockEnd then return []
    expect .key
    let part : Compose Node := do
      match ← peek with
      | .key | .value | .blockEnd => return Node.absent
      | _ => node fuel true true
    let key ← part
    let value ← if ← skips .value then part else pure Node.absent
    return (key, value) :: (← blockEntries fuel)

/-- Reads the items between brackets up to the closing one. An item may be a single entry of a
mapping. -/
def flowItems : Nat → Bool → Compose (List Node)
  | 0, _ => failure
  | fuel + 1, first => do
    if ← skips .flowSequenceEnd then return []
    unless first do expect .flowEntry
    match ← peek with
    | .flowSequenceEnd =>
      advance
      return []
    | .key =>
      advance
      let key ← match ← peek with
        | .value | .flowEntry | .flowSequenceEnd =>
          advance
          pure Node.absent
        | _ => node fuel false false
      let value ← if ← skips .value then
          match ← peek with
          | .flowEntry | .flowSequenceEnd => pure Node.absent
          | _ => node fuel false false
        else pure Node.absent
      return .mapping none [(key, value)] :: (← flowItems fuel false)
    | _ =>
      let item ← node fuel false false
      return item :: (← flowItems fuel false)

/-- Reads the entries between braces up to the closing one. A key may stand without a value. -/
def flowEntries : Nat → Bool → Compose (List (Node × Node))
  | 0, _ => failure
  | fuel + 1, first => do
    if ← skips .flowMappingEnd then return []
    unless first do expect .flowEntry
    match ← peek with
    | .flowMappingEnd =>
      advance
      return []
    | .key =>
      advance
      let part : Compose Node := do
        match ← peek with
        | .value | .flowEntry | .flowMappingEnd => return Node.absent
        | _ => node fuel false false
      let key ← part
      let value ← if ← skips .value then
          match ← peek with
          | .flowEntry | .flowMappingEnd => pure Node.absent
          | _ => node fuel false false
        else pure Node.absent
      return (key, value) :: (← flowEntries fuel false)
    | _ =>
      let key ← node fuel false false
      return (key, Node.absent) :: (← flowEntries fuel false)

end

/-- The directives in front of a document: at most one version, which has to be 1.1 or 1.2, and one
meaning for each tag handle. -/
def directives : Nat → Bool → Compose Unit
  | 0, _ => failure
  | fuel + 1, versioned => do
    match ← peek with
    | .version major minor =>
      guard (!versioned && major == 1 && (minor == 1 || minor == 2))
      advance
      directives fuel true
    | .tagHandle handle meaning =>
      let s ← get
      guard (s.handles.lookup handle).isNone
      set { s with handles := (handle, meaning) :: s.handles }
      advance
      directives fuel versioned
    | _ => return

/-- Reads the root of the document. The one that is not written is null. -/
def root (fuel : Nat) : Compose Node := do
  match ← peek with
  | .streamEnd => return Node.absent
  | .version .. | .tagHandle .. | .documentStart =>
    directives fuel false
    expect .documentStart
    match ← peek with
    | .version .. | .tagHandle .. | .documentStart | .documentEnd | .streamEnd => return Node.absent
    | _ => node fuel true false
  | _ => node fuel true false

/-- Reads the only document of a text. -/
def single (fuel : Nat) : Compose Document := do
  let root ← root fuel
  modify fun s => { s with tokens := s.tokens.dropWhile (· == .documentEnd) }
  expect .streamEnd
  return { root, anchored := (← get).anchored }

end Composer

/-- The only document of a text; none if the text is malformed or has a second document. -/
def document? (tokens : List Token) : Option Document :=
  (·.1) <$> (Composer.single (4 * tokens.length + 8)).run { tokens }

end DecisionFlow.Yaml
