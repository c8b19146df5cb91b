import DecisionFlow.Proofs.Flow.Tracing
import Mathlib.Data.List.Forall2

/-!
# Replaying a record

A record says enough of a run to repeat it without a test: wherever a branch is met, the next
recorded result stands in for its condition. Conditions may depend on what earlier consumers did, so
the results have to be recorded once each, in the order in which branches are met, and a branch
before the branches in its body.

- `Step.replay`, `Flow.replay`: a run that takes the results of conditions from a list of answers.
- `Turn.Explains`: a branch met by a replay, as a decision tells of it.
- `replayStep_of_runTraced`: what the record of a step makes a replay of the step do, whatever
  answers follow those of the record.
- `Flow.replay_of_runTraced`: the record of a flow explains its run completely.
-/

namespace DecisionFlow

variable {T : Type}

/-! ## Replays -/

/-- A branch met by a replay. -/
structure Turn (T : Type) where
  branch : Branch T
  /-- Whether the `then` side was taken. -/
  takeThen : Bool

/-- What a replay did. -/
structure Replay (T : Type) where
  /-- The branches met, in order. -/
  turns : List (Turn T)
  /-- How many consumers ran. -/
  consumersInvoked : Nat
  /-- The answers that were not used. -/
  unused : List Bool
  /-- The payload at the end. -/
  payload : T

/-- What a replay did that met a branch first. -/
def Replay.meeting (turn : Turn T) (replay : Replay T) : Replay T :=
  { replay with turns := turn :: replay.turns }

/-- What a replay did after another. -/
def Replay.following (first second : Replay T) : Replay T :=
  ⟨first.turns ++ second.turns, first.consumersInvoked + second.consumersInvoked, second.unused,
    second.payload⟩

namespace Step

mutual

/-- Runs a step, with answers in place of the results of conditions: each branch uses up one. None
if a branch finds no answer or a consumer fails. -/
def replay : Step T → List Bool → T → Option (Replay T)
  | .consumer node, answers, payload =>
    match node.behaviour payload with
    | .ok _ payload => some ⟨[], 1, answers, payload⟩
    | .error _ _ => none
  | .branch _ _ _ _, [], _ => none
  | .branch negated condition thenBody elseBody, passed :: answers, payload =>
    let turn := ⟨⟨negated, condition, thenBody, elseBody⟩, passed != negated⟩
    if passed != negated then (replayBody thenBody answers payload).map (Replay.meeting turn)
    else (replayBody elseBody answers payload).map (Replay.meeting turn)
  | .sequence steps, answers, payload => replayAll steps answers payload

/-- Replays a body; an absent one does nothing. -/
def replayBody : Option (Step T) → List Bool → T → Option (Replay T)
  | none, answers, payload => some ⟨[], 0, answers, payload⟩
  | some step, answers, payload => replay step answers payload

/-- Replays steps in order. -/
def replayAll : List (Step T) → List Bool → T → Option (Replay T)
  | [], answers, payload => some ⟨[], 0, answers, payload⟩
  | step :: rest, answers, payload =>
    match replay step answers payload with
    | none => none
    | some first => (replayAll rest first.unused first.payload).map first.following

end

end Step

/-- Replays a flow. -/
def Flow.replay (flow : Flow T) : List Bool → T → Option (Replay T) := Step.replayBody flow.root

/-- A branch that is met uses up one answer, which selects the side that is replayed. -/
theorem Step.replay_branch (branch : Branch T) (passed : Bool) (answers : List Bool) (payload : T) :
    Step.replay branch.toStep (passed :: answers) payload =
      (Step.replayBody (branch.side (passed != branch.negated)) answers payload).map
        (Replay.meeting ⟨branch, passed != branch.negated⟩) := by
  obtain ⟨negated, condition, thenBody, elseBody⟩ := branch
  rw [Branch.toStep, Step.replay, Branch.side]
  cases passed != negated <;> rfl

/-! ## What a record says of a replay -/

/-- A branch met by a replay, as a decision tells of it. -/
structure Turn.Explains (turn : Turn T) (decision : Decision) : Prop where
  statement : decision.statement = turn.branch.statement
  side : turn.takeThen = (decision.condition != turn.branch.negated)
  ranThen : decision.outcome = .ranThen ↔
    turn.takeThen = true ∧ turn.branch.thenBody.isSome = true
  ranElse : decision.outcome = .ranElse ↔
    turn.takeThen = false ∧ turn.branch.elseBody.isSome = true
  skipped : decision.outcome = .skipped ↔ turn.branch.side turn.takeThen = none

/-- The decision that a branch leaves is explained by the branch. -/
theorem Turn.explains_of_branch (branch : Branch T) (path : Locator) (passed : Bool) :
    Turn.Explains ⟨branch, passed != branch.negated⟩ ⟨path, branch.statement, passed,
      .of (passed != branch.negated) (branch.side (passed != branch.negated)).isSome⟩ := by
  refine ⟨rfl, rfl, Outcome.of_eq_ranThen_iff.trans ?_, Outcome.of_eq_ranElse_iff.trans ?_,
    Outcome.of_eq_skipped_iff.trans (Option.isSome_eq_false_iff.trans Option.isNone_iff_eq_none)⟩
  · refine and_congr_right fun hthen => ?_
    rw [Branch.side, if_pos hthen]
  · refine and_congr_right fun helse => ?_
    rw [Branch.side, helse, if_neg Bool.false_ne_true]

/-- With the answers of a record, and any after them, a replay from `payload` ends at `after`, has
used up the answers of the record and met the branches of its decisions, and ran as
many consumers. -/
def Replays (replay : List Bool → T → Option (Replay T)) (payload : T) (trace : Trace)
    (after : T) : Prop :=
  ∃ turns, List.Forall₂ Turn.Explains turns trace.decisions ∧
    ∀ more, replay (trace.decisions.map (·.condition) ++ more) payload
      = some ⟨turns, trace.consumersInvoked, more, after⟩

/-- Nothing is replayed from no answers. -/
theorem replays_empty (payload : T) :
    Replays (fun answers payload => some ⟨[], 0, answers, payload⟩) payload .empty payload :=
  ⟨[], .nil, fun _ => rfl⟩

mutual

/-- The record of a step makes a replay of the step repeat the run. -/
theorem replayStep_of_runTraced :
    ∀ (step : Step T) {body : Locator} {index : Nat} {payload after : T}
    {trace : Trace}, Step.runTraced body index step payload = .ok trace after →
      Replays step.replay payload trace after
  | .consumer node, body, index, payload, after, trace, h => by
    obtain ⟨hnode, rfl⟩ := runTraced_consumer_eq_ok_iff.mp h
    refine ⟨[], .nil, fun more => ?_⟩
    rw [Step.replay, hnode]
    rfl
  | .branch negated condition thenBody elseBody, body, index, payload, after, trace, h => by
    obtain ⟨passed, -, inner, hinner, rfl⟩ :=
      (runTraced_branch_eq_ok_iff ⟨negated, condition, thenBody, elseBody⟩).mp h
    -- The first answer selects the side whose record follows the decision.
    have hside := Branch.side_of_both ⟨negated, condition, thenBody, elseBody⟩
      (P := fun side => ∀ path trace, Step.runBodyTraced path side payload = .ok trace after →
        Replays (Step.replayBody side) payload trace after)
      (fun _ _ h => replayBody_of_runBodyTraced thenBody h)
      (fun _ _ h => replayBody_of_runBodyTraced elseBody h) (passed != negated)
    obtain ⟨turns, hturns, hreplay⟩ := hside _ _ hinner
    refine ⟨_ :: turns, .cons (Turn.explains_of_branch _ _ passed) hturns, fun more => ?_⟩
    have hmeets := Step.replay_branch ⟨negated, condition, thenBody, elseBody⟩ passed
      (inner.decisions.map (·.condition) ++ more) payload
    rw [hreplay more] at hmeets
    refine hmeets.trans ?_
    show some _ = some (Replay.mk _ (0 + inner.consumersInvoked) more after)
    rw [Nat.zero_add]
    rfl
  | .sequence steps, body, index, payload, after, trace, h => by
    rw [Step.runTraced] at h
    obtain ⟨turns, hturns, hreplay⟩ := replayAll_of_runAllTraced steps h
    refine ⟨turns, hturns, fun more => ?_⟩
    rw [Step.replay, hreplay more]

theorem replayBody_of_runBodyTraced : ∀ (step : Option (Step T)) {path : Locator}
    {payload after : T} {trace : Trace}, Step.runBodyTraced path step payload = .ok trace after →
      Replays (Step.replayBody step) payload trace after
  | none, path, payload, after, trace, h => by
    rw [Step.runBodyTraced] at h
    cases h
    exact replays_empty payload
  | some step, path, payload, after, trace, h => by
    rw [Step.runBodyTraced] at h
    obtain ⟨turns, hturns, hreplay⟩ := replayStep_of_runTraced step h
    refine ⟨turns, hturns, fun more => ?_⟩
    rw [Step.replayBody, hreplay more]

/-- Steps are replayed from the answers of their traced run. -/
theorem replayAll_of_runAllTraced : ∀ (steps : List (Step T)) {body : Locator} {index : Nat}
    {payload after : T} {trace : Trace},
    Step.runAllTraced body index steps payload = .ok trace after →
      Replays (Step.replayAll steps) payload trace after
  | [], body, index, payload, after, trace, h => by
    rw [Step.runAllTraced] at h
    cases h
    exact replays_empty payload
  | step :: rest, body, index, payload, after, trace, h => by
    obtain ⟨first, between, hfirst, more, hmore, rfl⟩ := runAllTraced_cons_eq_ok_iff.mp h
    obtain ⟨turns, hturns, hreplay⟩ := replayStep_of_runTraced step hfirst
    obtain ⟨turnsRest, hturnsRest, hreplayRest⟩ := replayAll_of_runAllTraced rest hmore
    refine ⟨turns ++ turnsRest, List.rel_append hturns hturnsRest, fun answers => ?_⟩
    -- What the first step leaves unused are the answers of the others.
    rw [Trace.decisions_append, List.map_append, List.append_assoc, Step.replayAll, hreplay]
    dsimp only
    rw [hreplayRest]
    rfl

end

/-- **A record explains its run completely.** If a traced run of a flow succeeds, then replaying the
flow on the same payload, with the recorded results as answers and no condition tested, uses up
exactly these answers. It meets one branch for each decision, with the recorded statement, and takes
the side that the recorded result selects: the outcome says that a side ran if that side has a body,
and that it was skipped if it has none. As many consumers run, and the payload at the end is the
same. -/
theorem Flow.replay_of_runTraced {flow : Flow T} {payload after : T} {trace : Trace}
    (h : flow.runTraced payload = .ok trace after) :
    ∃ turns, flow.replay (trace.decisions.map (·.condition)) payload
        = some ⟨turns, trace.consumersInvoked, [], after⟩ ∧
      List.Forall₂ Turn.Explains turns trace.decisions := by
  obtain ⟨turns, hturns, hreplay⟩ := replayBody_of_runBodyTraced flow.root h
  refine ⟨turns, ?_, hturns⟩
  have hall := hreplay []
  rwa [List.append_nil] at hall

/-- A flow over numbers in which consumers change what later conditions find. -/
def Flow.counting : Flow Nat :=
  let small : Condition Nat := .predicate ⟨"below", [], fun n => .ok (n < 3)⟩
  let add (k : Nat) : Step Nat := .consumer ⟨"add", [], fun n => .ok () (n + k)⟩
  ⟨some (.sequence [.branch false small (some (add 4)) none,
    .branch true small (some (.sequence [add 1, .branch false small none (some (add 7))])) none])⟩

theorem Flow.replay_counting :
    ∃ trace turns, Flow.counting.runTraced 2 = .ok trace 14 ∧
      Flow.counting.replay (trace.decisions.map (·.condition)) 2
        = some ⟨turns, trace.consumersInvoked, [], 14⟩ ∧
      List.Forall₂ Turn.Explains turns trace.decisions := by
  have hrun : Flow.counting.runTraced 2 = .ok _ 14 := rfl
  obtain ⟨turns, hreplay, hturns⟩ := Flow.replay_of_runTraced hrun
  exact ⟨_, turns, hrun, hreplay, hturns⟩

end DecisionFlow
