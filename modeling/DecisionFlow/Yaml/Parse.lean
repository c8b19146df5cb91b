import DecisionFlow.Yaml.Node
import DecisionFlow.Yaml.Scan

/-!
# Reading YAML

- `Yaml.valueOf`: the value of a node. Aliases are followed, and scalars get their meaning from
  their tag or from their form.
- `Yaml.parse`: the value of a text.
-/

namespace DecisionFlow.Yaml

/-- How deep sequences and mappings may nest. -/
def depthLimit : Nat := 128

/-- How many aliases may be followed, for each mark of the document. -/
def aliasLimit : Nat := 100

/-- Whether a tag names a type that belongs to no standard. -/
def isLocal (tag : Option String) : Bool := tag.any (·.startsWith "!")

/-- The value of a scalar with a tag. -/
def scalarValue? (tag : Option String) (plain : Bool) (text : String) : Option Value :=
  if isLocal tag then none
  else
    match tag with
    | none => if plain then (Scalar.ofPlain text).value? else some (.text text)
    | some "tag:yaml.org,2002:bool" => (Scalar.boolean? text).map .bool
    | some "tag:yaml.org,2002:int" => (Scalar.whole? text).bind fun n => (Scalar.whole n).value?
    | some "tag:yaml.org,2002:float" => (Scalar.float? text).bind fun x => (Scalar.float x).value?
    | some "tag:yaml.org,2002:null" => if Scalar.isNull text then some .null else none
    | some _ => some (.text text)

/-- Follows a node, if it is an alias, counting down the aliases that may be followed. -/
def follow (document : Document) (node : Node) : StateT Nat Option Node := do
  match node with
  | .alias number =>
    let left ← get
    guard (0 < left)
    set (left - 1)
    document.find? number
  | _ => return node

/-- The name of a field: the text of a scalar, whatever its tag. -/
def nameOf (document : Document) (node : Node) : StateT Nat Option String := do
  match ← follow document node with
  | .scalar _ _ text => return text
  | _ => failure

/-- The value of a node in which collections nest at most `depth` deep. -/
def valueOf (document : Document) : Nat → Node → StateT Nat Option Value
  | depth, node => do
    match ← follow document node with
    | .scalar tag plain text => scalarValue? tag plain text
    | .alias _ => failure
    | .sequence tag items =>
      guard !isLocal tag
      match depth with
      | 0 => failure
      | depth + 1 => return .array (← items.mapM (valueOf document depth))
    | .mapping tag entries =>
      guard !isLocal tag
      match depth with
      | 0 => failure
      | depth + 1 =>
        return .object (← entries.mapM fun (key, value) => do
          let name ← nameOf document key
          return (name, ← valueOf document depth value))

/-- Reads a whole text; none if it is no YAML, or has several documents. Mappings keep every
occurrence of a repeated name. -/
def parse (text : String) : Option Value := do
  let document ← document? (← tokens? text)
  let (value, _) ←
    (valueOf document depthLimit document.root).run (aliasLimit * document.root.size)
  return value

end DecisionFlow.Yaml
