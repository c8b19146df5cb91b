import DecisionFlow.Proofs.Flow.Sequential

/-!
# The nodes of a flow

The predicates and the consumers of a flow, in the order in which they are written. Conditions on
every node of a flow are stated with these lists.

- `Flow.predicates`, `Flow.consumers`.
- `sequential_predicates`, `sequential_consumers`: the nodes of a sequence are those of its members.
-/

namespace DecisionFlow

variable {T : Type}

mutual

/-- The predicates of a condition. -/
def Condition.predicates : Condition T → List (PredicateNode T)
  | .predicate node => [node]
  | .group _ members => Condition.predicatesAll members

/-- The predicates of conditions side by side. -/
def Condition.predicatesAll : List (Condition T) → List (PredicateNode T)
  | [] => []
  | member :: rest => member.predicates ++ Condition.predicatesAll rest

end

namespace Step

mutual

/-- The predicates of a step. -/
def predicates : Step T → List (PredicateNode T)
  | .consumer _ => []
  | .branch _ condition thenBody elseBody =>
    condition.predicates ++ predicatesBody thenBody ++ predicatesBody elseBody
  | .sequence steps => predicatesAll steps

/-- The predicates of a body. -/
def predicatesBody : Option (Step T) → List (PredicateNode T)
  | none => []
  | some step => step.predicates

/-- The predicates of steps in order. -/
def predicatesAll : List (Step T) → List (PredicateNode T)
  | [] => []
  | step :: rest => step.predicates ++ predicatesAll rest

end

mutual

/-- The consumers of a step. -/
def consumers : Step T → List (ConsumerNode T)
  | .consumer node => [node]
  | .branch _ _ thenBody elseBody => consumersBody thenBody ++ consumersBody elseBody
  | .sequence steps => consumersAll steps

/-- The consumers of a body. -/
def consumersBody : Option (Step T) → List (ConsumerNode T)
  | none => []
  | some step => step.consumers

/-- The consumers of steps in order. -/
def consumersAll : List (Step T) → List (ConsumerNode T)
  | [] => []
  | step :: rest => step.consumers ++ consumersAll rest

end

end Step

namespace Flow

/-- The predicates of a flow. -/
def predicates (flow : Flow T) : List (PredicateNode T) := Step.predicatesBody flow.root

/-- The consumers of a flow. -/
def consumers (flow : Flow T) : List (ConsumerNode T) := Step.consumersBody flow.root

end Flow

/-! ## Nodes of lists -/

/-- An absent body has no predicates. -/
theorem Step.predicatesBody_eq_elim (body : Option (Step T)) :
    Step.predicatesBody body = body.elim [] Step.predicates := by
  cases body <;> rw [Step.predicatesBody] <;> rfl

theorem Step.consumersBody_eq_elim (body : Option (Step T)) :
    Step.consumersBody body = body.elim [] Step.consumers := by
  cases body <;> rw [Step.consumersBody] <;> rfl

/-- The predicates of a sequence are those of its steps, in order. -/
theorem sequential_predicates :
    Sequential (· ++ ·) [] (Step.predicates (T := T)) Step.predicatesAll where
  assoc := List.append_assoc
  unit_op := List.nil_append
  op_unit := List.append_nil
  nil := by rw [Step.predicatesAll]
  cons step rest := by rw [Step.predicatesAll]
  sequence steps := by rw [Step.predicates]

/-- So are the consumers. -/
theorem sequential_consumers :
    Sequential (· ++ ·) [] (Step.consumers (T := T)) Step.consumersAll where
  assoc := List.append_assoc
  unit_op := List.nil_append
  op_unit := List.append_nil
  nil := by rw [Step.consumersAll]
  cons step rest := by rw [Step.consumersAll]
  sequence steps := by rw [Step.consumers]

end DecisionFlow
