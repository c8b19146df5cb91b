import DecisionFlow.Locator
import DecisionFlow.Registry
import DecisionFlow.Settings
import DecisionFlow.Statement

/-!
# Documents and their problems

What can be wrong with a document, and how the children of one of its nodes are listed.

- `Document.Problem`, `Document.Error`: a cause, and a cause with its place.
- `Document.children`: the child fields of a node. A node with children is null, an array of objects
  or, where the settings allow it, one object.
-/

namespace DecisionFlow.Document

/-- A sort of node, as messages name it. -/
inductive Shape where
  | object
  | objectOrNull
  | arrayOfObjects
deriving DecidableEq, Repr

/-- The words for a sort of node. -/
def Shape.phrase : Shape → String
  | .object => "object"
  | .objectOrNull => "object or null"
  | .arrayOfObjects => "array of objects"

/-- A body of a document: the root, or a side of a branch. -/
inductive Body where
  | root
  | thenSide
  | elseSide
deriving DecidableEq, Repr

/-- The name of a body. -/
def Body.name : Body → String
  | .root => "root"
  | .thenSide => Statement.thenBody.name
  | .elseSide => Statement.elseBody.name

/-- What is wrong at some place of a document. -/
inductive Problem where
  /-- A name that the statement around it does not permit. -/
  | unexpectedStatement (name : String) (parent : Statement)
  /-- A statement other than a branch stands in a body. -/
  | misplacedStatement (statement : Statement) (parent : Body)
  /-- A branch has a second condition. -/
  | duplicateCondition (statement : Statement) (parent : Statement)
  /-- A branch has a second body of one side. -/
  | duplicateStatement (statement : Statement) (parent : Statement)
  /-- A branch has no condition. -/
  | missingCondition (parent : Statement)
  /-- A branch has no `then`. -/
  | missingThen (parent : Statement)
  /-- The node is of another sort. -/
  | invalidNode (expected : Shape) (found : Value.Kind)
  /-- Branches and groups nest deeper than allowed. -/
  | tooDeep (maxDepth : Nat)
  /-- A condition does not name its kind. -/
  | missingDiscriminator (field : String)
  /-- The node cannot be built. -/
  | build (problem : BuildProblem)

/-- The text of a problem at a place that is given by its text. -/
def Problem.message (path : String) : Problem → String
  | .unexpectedStatement name parent =>
    "Unexpected '" ++ name ++ "' inside '" ++ parent.name ++ "' at " ++ path
  | .misplacedStatement statement parent =>
    "Statement '" ++ statement.name ++ "' cannot be placed inside '" ++ parent.name ++ "' at "
      ++ path
  | .duplicateCondition statement parent =>
    "Duplicate condition '" ++ statement.name ++ "' in '" ++ parent.name ++ "' at " ++ path
      ++ ": a branch takes exactly one condition"
  | .duplicateStatement statement parent =>
    "Duplicate '" ++ statement.name ++ "' in '" ++ parent.name ++ "' at " ++ path
  | .missingCondition parent => "Missing condition in '" ++ parent.name ++ "' at " ++ path
  | .missingThen parent => "Missing 'then' in '" ++ parent.name ++ "' at " ++ path
  | .invalidNode expected found =>
    "Invalid node at " ++ path ++ ": expected " ++ expected.phrase ++ ", found " ++ found.name
  | .tooDeep maxDepth =>
    "Flow too deeply nested at " ++ path ++ ": maximum depth is " ++ toString maxDepth
  | .missingDiscriminator field => "Missing '" ++ field ++ "' type discriminator at " ++ path
  | .build (.unknownKind family kind) =>
    "Unknown " ++ family.name ++ " type '" ++ kind ++ "' at " ++ path
  | .build (.invalidConfig family kind cause) =>
    "Invalid configuration for " ++ family.name ++ " type '" ++ kind ++ "' at " ++ path ++ ": "
      ++ cause.message

/-- A problem and the place where it is. -/
structure Error where
  problem : Problem
  path : Locator

/-- The text of an error. -/
def Error.message (e : Error) : String := e.problem.message e.path.text

/-- Fails with a problem at a place. -/
def fail {α : Type} (path : Locator) (problem : Problem) : Except Error α :=
  .error ⟨problem, path⟩

/-- A node that a registry builds, or its problem at a place. -/
def located {α : Type} (path : Locator) : Except BuildProblem α → Except Error α
  | .ok a => .ok a
  | .error problem => fail path (.build problem)

/-! ## Children -/

/-- A field below a node. -/
structure Child where
  name : String
  value : Value
  path : Locator

/-- The children given by the fields of an object at a place. -/
def childrenOfFields (path : Locator) (fields : Fields) : List Child :=
  fields.map fun (name, value) => ⟨name, value, path.field name⟩

/-- The children given by the items of an array, which have to be objects. The first item is item
`index` of the array at `path`. -/
def childrenOfItems (path : Locator) (index : Nat) : List Value → Except Error (List Child)
  | [] => .ok []
  | .object fields :: rest => do
    return childrenOfFields (path.item index) fields ++ (← childrenOfItems path (index + 1) rest)
  | item :: _ => fail (path.item index) (.invalidNode .object item.kind)

/-- The children of a node, in document order. -/
def children (settings : Settings) (node : Value) (path : Locator) : Except Error (List Child) :=
  match node with
  | .null => .ok []
  | .array items => childrenOfItems path 0 items
  | .object fields =>
    if settings.acceptObjectShape then .ok (childrenOfFields path fields)
    else fail path (.invalidNode .arrayOfObjects .object)
  | other => fail path (.invalidNode .arrayOfObjects other.kind)

end DecisionFlow.Document
