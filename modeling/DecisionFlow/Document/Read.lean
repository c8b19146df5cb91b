import DecisionFlow.Document
import DecisionFlow.Engine
import DecisionFlow.Flow

/-!
# Reading documents

A document is read by recursive descent, one function for each position of the grammar. Reading
stops at the first problem.

- `readBody`: branches and consumers.
- `readBranch`: exactly one condition, one `then`, and at most one `else`, in any order.
- `readGroup`: conditions and groups.
- `readPredicate`, `readConsumer`: the nodes that the registries build.
- `Engine.read`: a whole document.

Branches and groups draw on one budget of levels, which starts at the greatest depth allowed.
-/

namespace DecisionFlow.Document

variable {T : Type} (engine : Engine T)

/-! ## Nodes from the registries -/

/-- Reads a condition node: one field names its kind, the others configure it. -/
def readPredicate (node : Value) (path : Locator) : Except Error (PredicateNode T) :=
  match node with
  | .object fields =>
    let discriminator := engine.settings.discriminator
    match (Fields.get? fields discriminator).bind Value.text? with
    | none => fail path (.missingDiscriminator discriminator)
    | some kind => located path (engine.conditions.build kind (Fields.without fields discriminator))
  | other => fail path (.invalidNode .object other.kind)

/-- Reads a consumer node: its name is its kind, its value the configuration. -/
def readConsumer (kind : String) (node : Value) (path : Locator) :
    Except Error (ConsumerNode T) :=
  match node with
  | .null => located path (engine.consumers.build kind [])
  | .object fields => located path (engine.consumers.build kind fields)
  | other => fail path (.invalidNode .objectOrNull other.kind)

/-! ## Conditions -/

/-- Reads a condition of any form, given how to read a group. -/
def readCondition (readGroup : Bool → Value → Locator → Except Error (Condition T))
    (statement : Statement) (node : Value) (path : Locator) : Except Error (Condition T) :=
  match statement with
  | .allOf => readGroup false node path
  | .anyOf => readGroup true node path
  | _ => return .predicate (← readPredicate engine node path)

/-- Reads a member of a group, given how to read a group. -/
def readMember (readGroup : Bool → Value → Locator → Except Error (Condition T)) (any : Bool)
    (child : Child) : Except Error (Condition T) :=
  match (Statement.lookup child.name).filter (·.isCondition) with
  | some statement => readCondition engine readGroup statement child.value child.path
  | none => fail child.path (.unexpectedStatement child.name (Condition.groupStatement any))

/-- Reads a group, with `budget` levels left. -/
def readGroup : Nat → Bool → Value → Locator → Except Error (Condition T)
  | 0, _, _, path => fail path (.tooDeep engine.settings.maxDepth)
  | budget + 1, any, node, path => do
    let children ← children engine.settings node path
    return .group any (← children.mapM (readMember engine (readGroup budget) any))

/-! ## Branches and bodies -/

/-- What has been read of a branch. -/
structure BranchParts (T : Type) where
  condition : Option (Condition T) := none
  thenBody : Option (Option (Step T)) := none
  elseBody : Option (Option (Step T)) := none

/-- Reads a child of a branch, given how to read a group and a body. -/
def readPart (readGroup : Bool → Value → Locator → Except Error (Condition T))
    (readBody : Body → Value → Locator → Except Error (Option (Step T))) (parent : Statement)
    (parts : BranchParts T) (child : Child) : Except Error (BranchParts T) :=
  match (Statement.lookup child.name).filter (parent.permitted.contains ·) with
  | none => fail child.path (.unexpectedStatement child.name parent)
  | some .thenBody =>
    if parts.thenBody.isSome then fail child.path (.duplicateStatement .thenBody parent)
    else return { parts with thenBody := some (← readBody .thenSide child.value child.path) }
  | some .elseBody =>
    if parts.elseBody.isSome then fail child.path (.duplicateStatement .elseBody parent)
    else return { parts with elseBody := some (← readBody .elseSide child.value child.path) }
  | some statement =>
    if parts.condition.isSome then fail child.path (.duplicateCondition statement parent)
    else do
      let condition ← readCondition engine readGroup statement child.value child.path
      return { parts with condition := some condition }

/-- The branch of the parts read, at a place. -/
def finishBranch (negated : Bool) (parts : BranchParts T) (path : Locator) :
    Except Error (Branch T) :=
  let parent := Branch.statementOf negated
  match parts.condition, parts.thenBody with
  | none, _ => fail path (.missingCondition parent)
  | some _, none => fail path (.missingThen parent)
  | some condition, some thenBody => .ok ⟨negated, condition, thenBody, parts.elseBody.join⟩

/-- Reads an entry of a body, given how to read a branch. -/
def readEntry (readBranch : Bool → Value → Locator → Except Error (Branch T)) (body : Body)
    (child : Child) : Except Error (Step T) :=
  match Statement.lookup child.name with
  | some .ifHolds => return (← readBranch false child.value child.path).toStep
  | some .ifNot => return (← readBranch true child.value child.path).toStep
  | some statement => fail child.path (.misplacedStatement statement body)
  | none => return .consumer (← readConsumer engine child.name child.value child.path)

/-- Reads a body, given how to read a branch. -/
def readBodyWith (readBranch : Bool → Value → Locator → Except Error (Branch T)) (body : Body)
    (node : Value) (path : Locator) : Except Error (Option (Step T)) := do
  let children ← children engine.settings node path
  return Step.compose (← children.mapM (readEntry engine readBranch body))

/-- Reads a branch, with `budget` levels left. -/
def readBranch : Nat → Bool → Value → Locator → Except Error (Branch T)
  | 0, _, _, path => fail path (.tooDeep engine.settings.maxDepth)
  | budget + 1, negated, node, path => do
    let children ← children engine.settings node path
    let parts ← children.foldlM
      (readPart engine (readGroup engine budget) (readBodyWith engine (readBranch budget))
        (Branch.statementOf negated)) {}
    finishBranch negated parts path

/-- Reads a body, with `budget` levels left. -/
def readBody (budget : Nat) : Body → Value → Locator → Except Error (Option (Step T)) :=
  readBodyWith engine (readBranch engine budget)

end DecisionFlow.Document

namespace DecisionFlow

/-- Reads a whole document: its root is a body. -/
def Engine.read {T : Type} (engine : Engine T) (document : Value) :
    Except Document.Error (Flow T) := do
  return ⟨← Document.readBody engine engine.settings.maxDepth .root document []⟩

end DecisionFlow
