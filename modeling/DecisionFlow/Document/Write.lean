import DecisionFlow.Engine
import DecisionFlow.Flow

/-!
# Writing documents

A flow is written in one canonical shape: every node with children is an array of single-field
objects. In a branch the condition comes first, then `then`, which is always written, and `else` if
the branch has that side.

- `Flow.write`: the document of a flow.
- `Engine.write`: the document of a flow with the engine's discriminator.
-/

namespace DecisionFlow.Document

variable {T : Type}

/-- Writes a predicate: its kind first, then its configuration. -/
def writePredicate (discriminator : String) (node : PredicateNode T) : Value :=
  .object ((discriminator, .text node.kind) :: Fields.without node.config discriminator)

mutual

/-- Writes a condition as a single-field object. -/
def writeCondition (discriminator : String) : Condition T → Value
  | .predicate node =>
    Value.single Statement.condition.name (writePredicate discriminator node)
  | .group any members =>
    Value.single (Condition.groupStatement any).name
      (.array (writeConditions discriminator members))

/-- Writes conditions in order. -/
def writeConditions (discriminator : String) : List (Condition T) → List Value
  | [] => []
  | member :: rest => writeCondition discriminator member :: writeConditions discriminator rest

end

mutual

/-- The entries that a step is written as: those of nested sequences are written in line. -/
def writeStep (discriminator : String) : Step T → List Value
  | .consumer node => [Value.single node.kind (.object node.config)]
  | .branch negated condition thenBody elseBody =>
    let elsePart := match elseBody with
      | none => []
      | some _ => [Value.single Statement.elseBody.name (.array (writeBody discriminator elseBody))]
    [Value.single (Branch.statementOf negated).name
      (.array (writeCondition discriminator condition
        :: Value.single Statement.thenBody.name (.array (writeBody discriminator thenBody))
        :: elsePart))]
  | .sequence steps => writeSteps discriminator steps

/-- The entries of a body. -/
def writeBody (discriminator : String) : Option (Step T) → List Value
  | none => []
  | some step => writeStep discriminator step

/-- The entries of steps, in order. -/
def writeSteps (discriminator : String) : List (Step T) → List Value
  | [] => []
  | step :: rest => writeStep discriminator step ++ writeSteps discriminator rest

end

end DecisionFlow.Document

namespace DecisionFlow

/-- The document of a flow, whose conditions name their kinds in the field `discriminator`. -/
def Flow.write {T : Type} (flow : Flow T) (discriminator : String) : Value :=
  .array (Document.writeBody discriminator flow.root)

/-- The document of a flow. -/
def Engine.write {T : Type} (engine : Engine T) (flow : Flow T) : Value :=
  flow.write engine.settings.discriminator

end DecisionFlow
