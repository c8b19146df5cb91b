import DecisionFlow.Proofs.Flow.Sequential

/-!
# Runs with and without a record

A traced run goes through a flow as a plain run does and only adds to its record. What can be seen
of the record without a look at its decisions is therefore computed by a run that knows no places.

- `viewed`: a run, with what it yields seen through a view.
- `Follows`: a reading of steps as runs that treats consumers, branches and sequences as traced runs
  do, for a view that passes over decisions.
- `Follows.viewed_runTraced`: such a reading is what is seen of the traced run, wherever a step
  stands.
- `Step.runAllTraced_append`: steps run in turn with others, which are numbered on.
- `runTraced_branch_eq_ok_iff` and its companions: what a traced run did if it succeeded.
- `Branch.run_eq_decide`: a branch runs the side that its decision selects.
- `Flow.runs_agree`: tracing never changes a run, and flows, steps and branches run alike.
-/

namespace DecisionFlow

variable {T : Type}

/-! ## Views of a record -/

/-- A run, with what it yields seen through a view. -/
def viewed {A B : Type} (view : A → B) (run : EStateM Failure T A) : EStateM Failure T B :=
  fun payload =>
    match run payload with
    | .ok a payload => .ok (view a) payload
    | .error failure payload => .error failure payload

/-- What is seen of a run is seen of what it yields. -/
theorem viewed_eq_ok_iff {A B : Type} {view : A → B} {run : EStateM Failure T A}
    {payload after : T} {b : B} :
    viewed view run payload = .ok b after ↔
      ∃ a, run payload = .ok a after ∧ b = view a := by
  rw [viewed]
  cases run payload with
  | error failure between => simp
  | ok a between =>
    constructor
    · intro h
      cases h
      exact ⟨a, rfl, rfl⟩
    · rintro ⟨_, h, rfl⟩
      cases h
      rfl

/-- A reading of steps as runs that does what traced runs do, as far as a view shows their records.
The view puts records side by side by `join`, and passes over decisions. -/
structure Follows {M : Type} (view : Trace → M) (join : M → M → M)
    (one : Step T → EStateM Failure T M) (all : List (Step T) → EStateM Failure T M) :
    Prop where
  view_append : ∀ s t, view (s ++ t) = join (view s) (view t)
  view_decision : ∀ d t, view (.decision d ++ t) = view t
  consumer : ∀ node, one (.consumer node) = viewed (fun _ => view .consumer) node.behaviour
  branch : ∀ negated condition (thenBody elseBody : Option (Step T)) payload,
    one (.branch negated condition thenBody elseBody) payload =
      match condition.test payload with
      | .error failure => .error failure payload
      | .ok passed =>
        (if passed != negated then thenBody else elseBody).elim
          (fun payload => .ok (view .empty) payload) one payload
  sequence : ∀ steps, one (.sequence steps) = all steps
  nil : all [] = fun payload => .ok (view .empty) payload
  cons : ∀ step rest, all (step :: rest) = inTurn join (one step) (all rest)

namespace Follows

variable {M : Type} {view : Trace → M} {join : M → M → M}
  {one : Step T → EStateM Failure T M} {all : List (Step T) → EStateM Failure T M}

theorem viewed_recorded (h : Follows view join one all) (d : Decision) (run : TracedRun T) :
    viewed view (TracedRun.recorded d run) = viewed view run := by
  funext payload
  simp only [viewed, TracedRun.recorded]
  cases run payload with
  | error failure payload => rfl
  | ok trace payload => exact congrArg (EStateM.Result.ok · payload) (h.view_decision d trace)

mutual

/-- **A reading that follows traced runs is what is seen of them**, wherever the step stands. -/
theorem viewed_runTraced (h : Follows view join one all) (body : Locator) (index : Nat) :
    ∀ step : Step T, viewed view (Step.runTraced body index step) = one step
  | .consumer node => by
    rw [h.consumer]
    funext payload
    simp only [viewed, Step.runTraced]
    cases node.behaviour payload <;> rfl
  | .branch negated condition thenBody elseBody => by
    funext payload
    rw [h.branch]
    simp only [viewed, Step.runTraced]
    cases condition.test payload with
    | error failure => rfl
    | ok passed =>
      -- The decision is passed over, and the side that runs is seen alike.
      dsimp only
      cases passed != negated with
      | true =>
        exact congrFun ((h.viewed_recorded _ _).trans (h.viewed_runBodyTraced _ thenBody)) payload
      | false =>
        exact congrFun ((h.viewed_recorded _ _).trans (h.viewed_runBodyTraced _ elseBody)) payload
  | .sequence steps => by rw [Step.runTraced, h.viewed_runAllTraced body 0 steps, h.sequence]

theorem viewed_runBodyTraced (h : Follows view join one all) (path : Locator) :
    ∀ body : Option (Step T), viewed view (Step.runBodyTraced path body)
      = body.elim (fun payload => .ok (view .empty) payload) one
  | none => by rw [Step.runBodyTraced]; rfl
  | some step => by
    rw [Step.runBodyTraced]
    exact h.viewed_runTraced path 0 step

/-- A view of the traced run of steps is the walk that follows it. -/
theorem viewed_runAllTraced (h : Follows view join one all) (body : Locator) (index : Nat) :
    ∀ steps : List (Step T), viewed view (Step.runAllTraced body index steps) = all steps
  | [] => by rw [Step.runAllTraced, h.nil]; rfl
  | step :: rest => by
    rw [h.cons, ← h.viewed_runTraced body index step,
      ← h.viewed_runAllTraced body (index + 1) rest]
    funext payload
    simp only [viewed, Step.runAllTraced, inTurn]
    cases Step.runTraced body index step payload with
    | error failure payload => rfl
    | ok trace payload =>
      dsimp only
      cases Step.runAllTraced body (index + 1) rest payload with
      | error failure payload => rfl
      | ok more payload => exact congrArg (EStateM.Result.ok · payload) (h.view_append trace more)

end

end Follows

/-! ## Traced runs as views -/

/-- What is recorded of a branch whose condition came out so. -/
def Branch.decisionAt (b : Branch T) (path : Locator) (passed : Bool) : Decision :=
  ⟨path, b.statement, passed, .of (passed != b.negated) (b.side (passed != b.negated)).isSome⟩

namespace Step

theorem runTraced_consumer (node : ConsumerNode T) (body : Locator) (index : Nat) :
    runTraced body index (.consumer node) = viewed (fun _ => .consumer) node.behaviour := by
  funext payload
  simp only [runTraced, viewed]
  cases node.behaviour payload <;> rfl

/-- To record a decision is to put it in front of the trace. -/
theorem recorded_eq_viewed (d : Decision) (run : TracedRun T) :
    TracedRun.recorded d run = viewed (Trace.decision d ++ ·) run := by
  funext payload
  rw [TracedRun.recorded, viewed]
  cases run payload <;> rfl

/-- A branch whose condition is told is recorded, and the side that the decision selects runs. -/
theorem runTraced_branch {b : Branch T} {payload : T} {passed : Bool}
    (h : b.condition.test payload = .ok passed) (body : Locator) (index : Nat) :
    runTraced body index b.toStep payload
      = TracedRun.recorded (b.decisionAt (body.entry index b.statement.name) passed)
          (runBodyTraced (Branch.bodyPath (body.entry index b.statement.name) (passed != b.negated))
            (b.side (passed != b.negated))) payload := by
  obtain ⟨negated, condition, thenBody, elseBody⟩ := b
  simp only [Branch.toStep, runTraced, Branch.decisionAt, Branch.side]
  rw [h]
  dsimp only
  cases passed != negated <;> rfl

/-- A condition that fails ends the run of its branch, with nothing recorded. -/
theorem runTraced_branch_of_error {b : Branch T} {payload : T} {failure : Failure}
    (h : b.condition.test payload = .error failure) (body : Locator) (index : Nat) :
    runTraced body index b.toStep payload = .error failure payload := by
  simp only [Branch.toStep, runTraced]
  rw [h]

/-- Steps run in turn, each at the next index. -/
theorem runAllTraced_cons (step : Step T) (rest : List (Step T)) (body : Locator) (index : Nat) :
    runAllTraced body index (step :: rest)
      = inTurn (· ++ ·) (runTraced body index step) (runAllTraced body (index + 1) rest) := by
  funext payload
  simp only [runAllTraced, inTurn]
  cases runTraced body index step payload with
  | error failure payload => rfl
  | ok trace payload =>
    dsimp only
    cases runAllTraced body (index + 1) rest payload <;> rfl

/-- Steps run in turn with others, whose entries are numbered on. -/
theorem runAllTraced_append (steps more : List (Step T)) (body : Locator) (index : Nat) :
    runAllTraced body index (steps ++ more)
      = inTurn (· ++ ·) (runAllTraced body index steps)
          (runAllTraced body (index + steps.length) more) := by
  induction steps generalizing index with
  | nil =>
    have hnil : runAllTraced (T := T) body index [] = fun payload => .ok .empty payload := by
      rw [runAllTraced]
    rw [hnil]
    exact (pure_inTurn Trace.empty_append _).symm
  | cons step rest ih =>
    rw [List.cons_append, runAllTraced_cons, runAllTraced_cons, ih,
      inTurn_assoc Trace.append_assoc, List.length_cons, Nat.add_assoc, Nat.add_comm 1]

end Step

/-! ## Sides and outcomes -/

/-- What holds of both bodies of a branch holds of the one that is chosen. -/
theorem Branch.side_of_both {P : Option (Step T) → Prop} (branch : Branch T)
    (hthen : P branch.thenBody) (helse : P branch.elseBody) (takeThen : Bool) :
    P (branch.side takeThen) := by
  cases takeThen with
  | true => exact hthen
  | false => exact helse

theorem Outcome.of_eq_ranThen_iff {takeThen present : Bool} :
    Outcome.of takeThen present = .ranThen ↔ takeThen = true ∧ present = true := by
  cases takeThen <;> cases present <;> decide

theorem Outcome.of_eq_ranElse_iff {takeThen present : Bool} :
    Outcome.of takeThen present = .ranElse ↔ takeThen = false ∧ present = true := by
  cases takeThen <;> cases present <;> decide

/-- A side is skipped exactly when it is absent. -/
theorem Outcome.of_eq_skipped_iff {takeThen present : Bool} :
    Outcome.of takeThen present = .skipped ↔ present = false := by
  cases takeThen <;> cases present <;> decide

/-! ## Traced runs that succeed -/

section Success

variable {body : Locator} {index : Nat} {payload after : T} {trace : Trace}

theorem runTraced_consumer_eq_ok_iff {node : ConsumerNode T} :
    Step.runTraced body index (.consumer node) payload = .ok trace after ↔
      node.behaviour payload = .ok () after ∧ trace = .consumer := by
  rw [Step.runTraced_consumer, viewed_eq_ok_iff]
  exact ⟨fun ⟨_, hrun, htrace⟩ => ⟨hrun, htrace⟩,
    fun ⟨hrun, htrace⟩ => ⟨(), hrun, htrace⟩⟩

/-- A recorded run succeeds exactly when the run does, with the decision in front. -/
theorem recorded_eq_ok_iff {d : Decision} {run : TracedRun T} :
    TracedRun.recorded d run payload = .ok trace after ↔
      ∃ inner, run payload = .ok inner after ∧ trace = .decision d ++ inner := by
  rw [Step.recorded_eq_viewed, viewed_eq_ok_iff]

/-- A branch is met: its condition is tested, the decision is recorded, and the side that the
decision selects runs. -/
theorem runTraced_branch_eq_ok_iff (branch : Branch T) :
    Step.runTraced body index branch.toStep payload = .ok trace after ↔
      ∃ passed, branch.condition.test payload = .ok passed ∧
        ∃ inner,
          Step.runBodyTraced
              (Branch.bodyPath (body.entry index branch.statement.name) (passed != branch.negated))
              (branch.side (passed != branch.negated)) payload = .ok inner after ∧
          trace = .decision ⟨body.entry index branch.statement.name, branch.statement, passed,
            .of (passed != branch.negated) (branch.side (passed != branch.negated)).isSome⟩ ++
              inner := by
  cases htest : branch.condition.test payload with
  | error failure =>
    rw [Step.runTraced_branch_of_error htest]
    simp
  | ok passed =>
    rw [Step.runTraced_branch htest, recorded_eq_ok_iff]
    simp only [Except.ok.injEq, exists_eq_left']
    rfl

/-- Steps succeed exactly when the first does and the others do after it. -/
theorem runAllTraced_cons_eq_ok_iff {step : Step T} {rest : List (Step T)} :
    Step.runAllTraced body index (step :: rest) payload = .ok trace after ↔
      ∃ first between, Step.runTraced body index step payload = .ok first between ∧
        ∃ more, Step.runAllTraced body (index + 1) rest between = .ok more after ∧
          trace = first ++ more := by
  rw [Step.runAllTraced_cons, inTurn_eq_ok_iff]

end Success

/-! ## Runs without a record -/

/-- A traced run, with its record thrown away. -/
def TracedRun.untraced (run : TracedRun T) : Consumer T := viewed (fun _ => ()) run

/-- The plain run is what is left of a traced run when nothing of its record is kept. -/
theorem follows_run : Follows (fun _ => ()) (fun _ _ => ()) (Step.run (T := T)) Step.runAll where
  view_append _ _ := rfl
  view_decision _ _ := rfl
  consumer node := by
    funext payload
    rw [Step.run, viewed]
    cases node.behaviour payload <;> rfl
  branch negated condition thenBody elseBody payload := by
    simp only [Step.run]
    cases condition.test payload with
    | error failure => rfl
    | ok passed =>
      dsimp only
      cases passed != negated with
      | true => exact congrFun (runBody_eq_elim thenBody) payload
      | false => exact congrFun (runBody_eq_elim elseBody) payload
  sequence := sequential_run.sequence
  nil := sequential_run.nil
  cons := sequential_run.cons

/-- A branch runs the side that its decision selects, and fails where it cannot be decided. -/
theorem Branch.run_eq_decide (branch : Branch T) (payload : T) :
    branch.run payload =
      match branch.decide payload with
      | .error failure => .error failure payload
      | .ok takeThen => Step.runBody (branch.side takeThen) payload := by
  obtain ⟨negated, condition, thenBody, elseBody⟩ := branch
  simp only [Branch.run, Branch.toStep, Step.run, Branch.decide, Branch.side]
  cases condition.test payload with
  | error failure => rfl
  | ok passed =>
    show (if passed != negated then _ else _) = Step.runBody (if passed != negated then _ else _) _
    cases passed != negated <;> rfl

/-- **Tracing never changes a run, and a run does not depend on where it is entered.** A traced run
of a flow ends with the payload and the failure, if any, of the plain run; a flow runs like its root
step, and a branch that is a step runs like the branch. A branch either fails as its condition does,
with the payload left alone, or runs exactly the side that its decision selects. -/
theorem Flow.runs_agree (payload : T) :
    (∀ flow : Flow T, flow.runTraced.untraced payload = flow.run payload) ∧
    (∀ step : Step T, Flow.run ⟨some step⟩ payload = step.run payload) ∧
    ∀ branch : Branch T, branch.toStep.run payload = branch.run payload ∧
      match branch.decide payload with
      | .error failure =>
        branch.condition.test payload = .error failure ∧
        branch.run payload = .error failure payload
      | .ok takeThen =>
        (∃ passed, branch.condition.test payload = .ok passed ∧
          takeThen = (passed != branch.negated)) ∧
        branch.run payload = Step.runBody (branch.side takeThen) payload := by
  refine ⟨fun flow => ?_, fun step => ?_, fun branch => ⟨rfl, ?_⟩⟩
  · have hviewed : flow.runTraced.untraced = flow.root.elim Consumer.skip Step.run :=
      follows_run.viewed_runBodyTraced [] flow.root
    rw [hviewed, Flow.run, runBody_eq_elim]
  · rw [Flow.run, Step.runBody]
  · rw [Branch.run_eq_decide, Branch.decide]
    cases branch.condition.test payload with
    | error failure => exact ⟨rfl, rfl⟩
    | ok passed => exact ⟨⟨passed, rfl, rfl⟩, rfl⟩

end DecisionFlow
