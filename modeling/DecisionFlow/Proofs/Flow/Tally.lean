import DecisionFlow.Proofs.Flow.Normal
import DecisionFlow.Proofs.Flow.Tracing

/-!
# Counting the consumers of a run

A traced run reports how many consumers ran. The number does not depend on where steps stand in a
document, so it is that of a run without places.

- `Step.tally`: a run that counts its consumers.
- `TracedRun.tally`, `Flow.tally_runTraced`: what a traced run counts.
- `Flow.tally_runTraced_normal`: the normal form of a flow counts alike.
-/

namespace DecisionFlow

variable {T : Type}

namespace Step

/-- The run that changes nothing and counts nothing. -/
def idle : EStateM Failure T Nat := fun payload => .ok 0 payload

mutual

/-- Runs a step and counts the consumers that run to their end. -/
def tally : Step T → EStateM Failure T Nat
  | .consumer node => fun payload =>
    match node.behaviour payload with
    | .ok _ payload => .ok 1 payload
    | .error failure payload => .error failure payload
  | .branch negated condition thenBody elseBody => fun payload =>
    match condition.test payload with
    | .error failure => .error failure payload
    | .ok passed =>
      if passed != negated then tallyBody thenBody payload else tallyBody elseBody payload
  | .sequence steps => tallyAll steps

/-- Runs a body and counts. -/
def tallyBody : Option (Step T) → EStateM Failure T Nat
  | none => idle
  | some step => step.tally

/-- Runs steps in order and counts. -/
def tallyAll : List (Step T) → EStateM Failure T Nat
  | [] => idle
  | step :: rest => inTurn (· + ·) step.tally (tallyAll rest)

end

end Step

theorem tallyBody_eq_elim (body : Option (Step T)) :
    Step.tallyBody body = body.elim Step.idle Step.tally := by
  cases body <;> rw [Step.tallyBody] <;> rfl

/-- Counting consumers is one of the walks that take steps in order. -/
theorem sequential_tally :
    Sequential (inTurn (· + ·)) Step.idle (Step.tally (T := T)) Step.tallyAll where
  assoc := inTurn_assoc Nat.add_assoc
  unit_op := pure_inTurn Nat.zero_add
  op_unit := inTurn_pure Nat.add_zero
  nil := by rw [Step.tallyAll]
  cons step rest := by rw [Step.tallyAll]
  sequence steps := by rw [Step.tally]

/-! ## What traced runs count -/

/-- A traced run with nothing kept of its record but the number of consumers. -/
def TracedRun.tally (run : TracedRun T) : EStateM Failure T Nat := fun payload =>
  match run payload with
  | .ok trace payload => .ok trace.consumersInvoked payload
  | .error failure payload => .error failure payload

theorem TracedRun.tally_eq_viewed (run : TracedRun T) :
    run.tally = viewed Trace.consumersInvoked run := by
  funext payload
  rw [TracedRun.tally, viewed]
  cases run payload <;> rfl

/-- The run that counts is what the number of consumers shows of a traced run. -/
theorem follows_tally :
    Follows Trace.consumersInvoked (· + ·) (Step.tally (T := T)) Step.tallyAll where
  view_append := Trace.consumersInvoked_append
  view_decision _ t := Nat.zero_add t.consumersInvoked
  consumer node := by
    funext payload
    simp only [Step.tally, viewed]
    cases node.behaviour payload <;> rfl
  branch negated condition thenBody elseBody payload := by
    simp only [Step.tally]
    cases condition.test payload with
    | error failure => rfl
    | ok passed =>
      dsimp only
      cases passed != negated with
      | true => exact congrFun (tallyBody_eq_elim thenBody) payload
      | false => exact congrFun (tallyBody_eq_elim elseBody) payload
  sequence := sequential_tally.sequence
  nil := sequential_tally.nil
  cons := sequential_tally.cons

/-- A traced run of a flow counts the consumers that run. -/
theorem Flow.tally_runTraced (flow : Flow T) :
    TracedRun.tally flow.runTraced = Step.tallyBody flow.root := by
  rw [TracedRun.tally_eq_viewed, tallyBody_eq_elim]
  exact follows_tally.viewed_runBodyTraced [] flow.root

/-- As many consumers are invoked in normal form. -/
theorem Flow.tally_runTraced_normal (flow : Flow T) :
    TracedRun.tally flow.normal.runTraced = TracedRun.tally flow.runTraced := by
  rw [Flow.tally_runTraced, Flow.tally_runTraced, Flow.normal, tallyBody_eq_elim, tallyBody_eq_elim]
  refine sequential_tally.normalBody ?_ flow.root
  intro negated condition thenBody thenBody' elseBody elseBody' hthen helse
  rw [Step.tally, Step.tally, tallyBody_eq_elim, tallyBody_eq_elim, hthen, helse,
    ← tallyBody_eq_elim, ← tallyBody_eq_elim]

end DecisionFlow
