import DecisionFlow.Trace

/-!
# Flows

A flow is a root body. It can be run on any number of payloads.

- `Flow`, `Flow.run`, `Flow.runTraced`.
- `Flow.statistics`: how many nodes of each sort there are, and how deep they nest.
-/

namespace DecisionFlow

/-- An executable graph: the body of a whole document. -/
structure Flow (T : Type) where
  /-- The step of the root body; none if the document has no entries. -/
  root : Option (Step T)

/-- Counts of the nodes of a flow. -/
structure Statistics where
  branches : Nat := 0
  groups : Nat := 0
  predicates : Nat := 0
  consumers : Nat := 0
  /-- How deep branches and groups nest, counted together. -/
  maxDepth : Nat := 0
deriving DecidableEq, Repr

namespace Statistics

/-- The counts of two parts of a flow that stand side by side. -/
def beside (s t : Statistics) : Statistics :=
  ⟨s.branches + t.branches, s.groups + t.groups, s.predicates + t.predicates,
    s.consumers + t.consumers, max s.maxDepth t.maxDepth⟩

instance : Add Statistics := ⟨beside⟩

end Statistics

mutual

/-- The groups and predicates of a condition. -/
def Condition.statistics {T : Type} : Condition T → Statistics
  | .predicate _ => ⟨0, 0, 1, 0, 0⟩
  | .group _ members =>
    let inner := Condition.statisticsAll members
    { inner with groups := inner.groups + 1, maxDepth := inner.maxDepth + 1 }

/-- The groups and predicates of conditions side by side. -/
def Condition.statisticsAll {T : Type} : List (Condition T) → Statistics
  | [] => {}
  | member :: rest => member.statistics + Condition.statisticsAll rest

end

mutual

/-- The nodes of a step. -/
def Step.statistics {T : Type} : Step T → Statistics
  | .consumer _ => ⟨0, 0, 0, 1, 0⟩
  | .branch _ condition thenBody elseBody =>
    let inner :=
      condition.statistics + Step.statisticsBody thenBody + Step.statisticsBody elseBody
    { inner with branches := inner.branches + 1, maxDepth := inner.maxDepth + 1 }
  | .sequence steps => Step.statisticsAll steps

/-- The nodes of a body. -/
def Step.statisticsBody {T : Type} : Option (Step T) → Statistics
  | none => {}
  | some step => step.statistics

/-- The nodes of steps side by side. -/
def Step.statisticsAll {T : Type} : List (Step T) → Statistics
  | [] => {}
  | step :: rest => step.statistics + Step.statisticsAll rest

end

namespace Flow

variable {T : Type}

/-- The flow with these entries in its root body. -/
def ofSteps (steps : List (Step T)) : Flow T := ⟨Step.compose steps⟩

/-- The flow that does nothing. -/
def empty : Flow T := ⟨none⟩

/-- Whether the root body has no step. -/
def isEmpty (flow : Flow T) : Bool := flow.root.isNone

/-- Runs the flow on the payload. -/
def run (flow : Flow T) : Consumer T := Step.runBody flow.root

/-- Runs the flow on the payload with a record. -/
def runTraced (flow : Flow T) : TracedRun T := Step.runBodyTraced [] flow.root

/-- Counts the nodes of the flow. -/
def statistics (flow : Flow T) : Statistics := Step.statisticsBody flow.root

/-- How deep branches and groups nest. -/
def depth (flow : Flow T) : Nat := Step.depthBody flow.root

end Flow

end DecisionFlow
