import DecisionFlow.Locator
import DecisionFlow.Step

/-!
# Traces

A traced run does what a plain run does and records, besides, every branch it met.

- `Decision`: one branch that was met, with its place in the written flow, the result of its
  condition and the side that ran.
- `Trace`: the decisions of a run, in order, and the number of consumers that ran. Traces of
  consecutive runs are appended.
- `Step.runTraced`: the traced run. Entries are numbered within their body as they are written.
-/

namespace DecisionFlow

/-- Which side of a branch ran. -/
inductive Outcome where
  | ranThen
  | ranElse
  /-- The chosen side has no body. -/
  | skipped
deriving DecidableEq, Repr

/-- The word for an outcome. -/
def Outcome.name : Outcome → String
  | .ranThen => "then"
  | .ranElse => "else"
  | .skipped => "skipped"

/-- The outcome of choosing a side, which may be absent. -/
def Outcome.of (takeThen present : Bool) : Outcome :=
  if present then (if takeThen then .ranThen else .ranElse) else .skipped

/-- One branch met by a run. -/
structure Decision where
  /-- Where the branch is in the written flow. -/
  path : Locator
  /-- The statement that the branch is written as. -/
  statement : Statement
  /-- The result of the condition, before any inversion. -/
  condition : Bool
  /-- The side that ran. -/
  outcome : Outcome
deriving DecidableEq, Repr

/-- The record of a run. -/
structure Trace where
  /-- The branches met, in order. -/
  decisions : List Decision
  /-- How many consumers ran to their end. -/
  consumersInvoked : Nat
deriving DecidableEq, Repr

namespace Trace

/-- The record of a run that meets nothing. -/
def empty : Trace := ⟨[], 0⟩

/-- The record of one consumer. -/
def consumer : Trace := ⟨[], 1⟩

/-- The record of one decision. -/
def decision (d : Decision) : Trace := ⟨[d], 0⟩

instance : Append Trace where
  append s t := ⟨s.decisions ++ t.decisions, s.consumersInvoked + t.consumersInvoked⟩

/-- The decisions whose `then` side ran. -/
def taken (t : Trace) : List Decision := t.decisions.filter (·.outcome = .ranThen)

@[simp] theorem decisions_append (s t : Trace) :
    (s ++ t).decisions = s.decisions ++ t.decisions := rfl

@[simp] theorem consumersInvoked_append (s t : Trace) :
    (s ++ t).consumersInvoked = s.consumersInvoked + t.consumersInvoked := rfl

@[simp] theorem empty_append (t : Trace) : empty ++ t = t := by
  show Trace.mk ([] ++ t.decisions) (0 + t.consumersInvoked) = t
  simp

@[simp] theorem append_empty (t : Trace) : t ++ empty = t := by
  show Trace.mk (t.decisions ++ []) (t.consumersInvoked + 0) = t
  simp

theorem append_assoc (s t u : Trace) : s ++ t ++ u = s ++ (t ++ u) := by
  show Trace.mk (s.decisions ++ t.decisions ++ u.decisions) _ = Trace.mk _ _
  congr 1
  · exact List.append_assoc ..
  · exact Nat.add_assoc ..

end Trace

/-- A run that yields a record unless it fails. -/
abbrev TracedRun (T : Type) := EStateM Failure T Trace

/-- Where the body of a side is in the written form of the branch at `path`. -/
def Branch.bodyPath (path : Locator) (takeThen : Bool) : Locator :=
  if takeThen then path.entry 1 "then" else path.entry 2 "else"

/-- A run with a decision put before its record. -/
def TracedRun.recorded {T : Type} (d : Decision) (run : TracedRun T) : TracedRun T := fun payload =>
  match run payload with
  | .ok trace payload => .ok (.decision d ++ trace) payload
  | .error failure payload => .error failure payload

namespace Step

variable {T : Type}

open TracedRun (recorded)

mutual

/-- Runs a step with a record. The step is entry `index` of the body at `body`; a sequence numbers
its own entries from zero. -/
def runTraced (body : Locator) (index : Nat) : Step T → TracedRun T
  | .consumer node => fun payload =>
    match node.behaviour payload with
    | .ok _ payload => .ok .consumer payload
    | .error failure payload => .error failure payload
  | .branch negated condition thenBody elseBody => fun payload =>
    let statement := Branch.statementOf negated
    let path := body.entry index statement.name
    match condition.test payload with
    | .error failure => .error failure payload
    | .ok passed =>
      if passed != negated then
        recorded ⟨path, statement, passed, .of true thenBody.isSome⟩
          (runBodyTraced (Branch.bodyPath path true) thenBody) payload
      else
        recorded ⟨path, statement, passed, .of false elseBody.isSome⟩
          (runBodyTraced (Branch.bodyPath path false) elseBody) payload
  | .sequence steps => runAllTraced body 0 steps

/-- Runs the body at `body` with a record. -/
def runBodyTraced (body : Locator) : Option (Step T) → TracedRun T
  | none => fun payload => .ok .empty payload
  | some step => runTraced body 0 step

/-- Runs steps in order with a record, the first being entry `index` of the body at `body`. -/
def runAllTraced (body : Locator) (index : Nat) : List (Step T) → TracedRun T
  | [] => fun payload => .ok .empty payload
  | step :: rest => fun payload =>
    match runTraced body index step payload with
    | .error failure payload => .error failure payload
    | .ok trace payload =>
      match runAllTraced body (index + 1) rest payload with
      | .error failure payload => .error failure payload
      | .ok more payload => .ok (trace ++ more) payload

end

end Step

end DecisionFlow
