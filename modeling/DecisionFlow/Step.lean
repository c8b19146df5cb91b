import DecisionFlow.Condition

/-!
# Steps

A body is an ordered list of steps. A step is a consumer, a branch or a sequence of steps.

- `Step`, `Branch`: the graph, and a branch with its parts named.
- `Step.compose`: the smallest step that stands for a list of steps, without nested sequences.
- `Step.run`, `Branch.run`: running steps in order; the first failure ends the run.
- `Step.depth`: how deep branches and groups nest.
-/

namespace DecisionFlow

/-- One entry of a body. -/
inductive Step (T : Type) where
  /-- Changes the payload. -/
  | consumer (node : ConsumerNode T)
  /-- Runs one of two bodies. A negated branch takes its first body when the condition fails. -/
  | branch (negated : Bool) (condition : Condition T) (thenBody elseBody : Option (Step T))
  /-- Runs steps in order. -/
  | sequence (steps : List (Step T))

/-- The parts of a branch. -/
structure Branch (T : Type) where
  /-- Whether the condition is inverted before a side is chosen. -/
  negated : Bool
  /-- The condition tested. -/
  condition : Condition T
  /-- The body for when the condition, inverted or not, holds. -/
  thenBody : Option (Step T)
  /-- The body for when it does not. -/
  elseBody : Option (Step T)

namespace Branch

variable {T : Type}

/-- The branch of a statement, if the statement stands for one. -/
def ofStatement? (statement : Statement) (condition : Condition T)
    (thenBody elseBody : Option (Step T)) : Option (Branch T) :=
  match statement with
  | .ifHolds => some ⟨false, condition, thenBody, elseBody⟩
  | .ifNot => some ⟨true, condition, thenBody, elseBody⟩
  | _ => none

/-- The statement of a branch. -/
def statementOf (negated : Bool) : Statement := if negated then .ifNot else .ifHolds

/-- The statement that the branch is written as. -/
def statement (b : Branch T) : Statement := statementOf b.negated

/-- The branch as a step. -/
def toStep (b : Branch T) : Step T := .branch b.negated b.condition b.thenBody b.elseBody

/-- Whether the `then` side is the one to take. -/
def decide (b : Branch T) : Predicate T := fun payload =>
  (b.condition.test payload).map (· != b.negated)

/-- The body of the chosen side. -/
def side (b : Branch T) (takeThen : Bool) : Option (Step T) :=
  if takeThen then b.thenBody else b.elseBody

end Branch

namespace Step

variable {T : Type}

/-! ## Composition -/

mutual

/-- The consumers and branches that a step stands for, in order. -/
def flatten : Step T → List (Step T)
  | .sequence steps => flattenAll steps
  | step => [step]

/-- The consumers and branches of a list of steps, in order. -/
def flattenAll : List (Step T) → List (Step T)
  | [] => []
  | step :: rest => step.flatten ++ flattenAll rest

end

/-- The step for a body with these entries: none for no entry, the entry itself for one, and a
sequence for more. Nested sequences are dissolved first. -/
def compose (steps : List (Step T)) : Option (Step T) :=
  match flattenAll steps with
  | [] => none
  | [step] => some step
  | steps => some (.sequence steps)

/-- The entries that a step stands for: the steps of a sequence, or the step itself. -/
def members : Step T → List (Step T)
  | .sequence steps => steps
  | step => [step]

/-! ## Depth -/

mutual

/-- How deep branches and groups nest, each counting one. -/
def depth : Step T → Nat
  | .consumer _ => 0
  | .branch _ condition thenBody elseBody =>
    1 + max condition.depth (max (depthBody thenBody) (depthBody elseBody))
  | .sequence steps => depthAll steps

/-- The depth of a body; an absent one has none. -/
def depthBody : Option (Step T) → Nat
  | none => 0
  | some step => step.depth

/-- The greatest depth among the steps. -/
def depthAll : List (Step T) → Nat
  | [] => 0
  | step :: rest => max step.depth (depthAll rest)

end

/-! ## Running -/

mutual

/-- Runs a step on the payload. -/
def run : Step T → Consumer T
  | .consumer node => node.behaviour
  | .branch negated condition thenBody elseBody => fun payload =>
    match condition.test payload with
    | .error failure => .error failure payload
    | .ok passed => if passed != negated then runBody thenBody payload else runBody elseBody payload
  | .sequence steps => runAll steps

/-- Runs a body; an absent one changes nothing. -/
def runBody : Option (Step T) → Consumer T
  | none => Consumer.skip
  | some step => step.run

/-- Runs steps in order, up to the first that fails. -/
def runAll : List (Step T) → Consumer T
  | [] => Consumer.skip
  | step :: rest => fun payload =>
    match step.run payload with
    | .ok _ payload => runAll rest payload
    | .error failure payload => .error failure payload

end

end Step

/-- Runs a branch on its own. -/
def Branch.run {T : Type} (b : Branch T) : Consumer T := b.toStep.run

end DecisionFlow
