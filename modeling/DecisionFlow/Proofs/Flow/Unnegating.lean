import DecisionFlow.Proofs.Flow.Places

/-!
# Branches that are turned

A branch that inverts its condition does what the branch with exchanged sides does that does not. So
inversion can be removed from a flow, one branch at a time and anywhere.

- `Branch.exchanged`: the branch that inverts its condition if this one does not, with the sides
  exchanged.
- `Step.Unnegated`: a step in which some inverting branches were exchanged, at any depth.
- `Encounter`, `Encounter.Agrees`: a branch that both runs evaluate, with what each records of it.
- `paired_of_unnegated`: **both runs evaluate the same branches, one by one**, and end alike.
- `Flow.unnegated_agree`: nothing else is told by a run, nor by the counts.
- `Step.unnegate`, `Step.negated_places_unnegate`: exchanging them all leaves no branch that
  inverts.
-/

namespace DecisionFlow

variable {T : Type}

/-! ## Exchanged sides -/

/-- The branch with its sides exchanged, and with the condition inverted if it was not. -/
def Branch.exchanged (b : Branch T) : Branch T :=
  ⟨!b.negated, b.condition, b.elseBody, b.thenBody⟩

/-- The outcome with the sides exchanged. -/
def Outcome.exchanged : Outcome → Outcome
  | .ranThen => .ranElse
  | .ranElse => .ranThen
  | .skipped => .skipped

/-- Taking the other side exchanges the outcome. -/
theorem Outcome.of_not (takeThen present : Bool) :
    Outcome.of (!takeThen) present = (Outcome.of takeThen present).exchanged := by
  cases takeThen <;> cases present <;> rfl

/-- The other side of an exchanged branch is the side. -/
theorem Branch.side_exchanged (b : Branch T) (takeThen : Bool) :
    b.exchanged.side (!takeThen) = b.side takeThen := by
  cases takeThen <;> rfl

namespace Step

mutual

/-- The second step is the first one with some of its inverting branches exchanged. -/
inductive Unnegated : Step T → Step T → Prop where
  | consumer (node : ConsumerNode T) : Unnegated (.consumer node) (.consumer node)
  | kept {negated : Bool} {condition : Condition T}
    {thenBody elseBody thenBody' elseBody' : Option (Step T)}
    (hthen : UnnegatedBody thenBody thenBody') (helse : UnnegatedBody elseBody elseBody') :
    Unnegated (.branch negated condition thenBody elseBody)
      (.branch negated condition thenBody' elseBody')
  | turned {condition : Condition T} {thenBody elseBody thenBody' elseBody' : Option (Step T)}
    (hthen : UnnegatedBody thenBody thenBody') (helse : UnnegatedBody elseBody elseBody') :
    Unnegated (.branch true condition thenBody elseBody)
      (.branch false condition elseBody' thenBody')
  | sequence {steps steps' : List (Step T)} (hsteps : UnnegatedAll steps steps') :
    Unnegated (.sequence steps) (.sequence steps')

/-- The second body is the first one with some of its inverting branches exchanged. -/
inductive UnnegatedBody : Option (Step T) → Option (Step T) → Prop where
  | none : UnnegatedBody none none
  | some {step step' : Step T} (hstep : Unnegated step step') :
    UnnegatedBody (some step) (some step')

/-- The second steps are the first ones with some of their inverting branches exchanged. -/
inductive UnnegatedAll : List (Step T) → List (Step T) → Prop where
  | nil : UnnegatedAll [] []
  | cons {step step' : Step T} {rest rest' : List (Step T)} (hstep : Unnegated step step')
    (hrest : UnnegatedAll rest rest') : UnnegatedAll (step :: rest) (step' :: rest')

end

theorem UnnegatedBody.isSome_eq {body body' : Option (Step T)} (h : UnnegatedBody body body') :
    body'.isSome = body.isSome := by
  cases h <;> rfl

end Step

namespace Branch

open Step (Unnegated UnnegatedBody)

/-- The branches invert alike; something may be exchanged in their sides. -/
structure Kept (b b' : Branch T) : Prop where
  negated : b'.negated = b.negated
  condition : b'.condition = b.condition
  thenBody : UnnegatedBody b.thenBody b'.thenBody
  elseBody : UnnegatedBody b.elseBody b'.elseBody

/-- The first branch inverts its condition, and the second one is it with its sides exchanged. -/
structure Turned (b b' : Branch T) : Prop where
  negated : b.negated = true
  kept : Kept b b'.exchanged

variable {b b' : Branch T}

/-- A branch that is kept has its sides changed in place. -/
theorem Kept.side (h : Kept b b') (takeThen : Bool) :
    UnnegatedBody (b.side takeThen) (b'.side takeThen) := by
  cases takeThen with
  | true => exact h.thenBody
  | false => exact h.elseBody

theorem Turned.not_negated (h : Turned b b') : b'.negated = false := by
  have hnegated := h.kept.negated.trans h.negated
  rwa [exchanged, Bool.not_eq_true'] at hnegated

/-- The turned branch takes its other side, which is the side that the first one takes. -/
theorem Turned.takes (h : Turned b b') (passed : Bool) :
    (passed != b'.negated) = !(passed != b.negated) := by
  rw [h.not_negated, h.negated]
  cases passed <;> rfl

/-- A branch becomes a branch, kept or turned. -/
theorem unnegated_toStep {step' : Step T} (h : Unnegated b.toStep step') :
    ∃ b' : Branch T, step' = b'.toStep ∧ (Kept b b' ∨ Turned b b') := by
  obtain ⟨negated, condition, thenBody, elseBody⟩ := b
  cases h with
  | @kept _ _ _ _ thenBody' elseBody' hthen helse =>
    exact ⟨⟨negated, condition, thenBody', elseBody'⟩, rfl,
      .inl ⟨rfl, rfl, hthen, helse⟩⟩
  | @turned _ _ _ thenBody' elseBody' hthen helse =>
    exact ⟨⟨false, condition, elseBody', thenBody'⟩, rfl,
      .inr ⟨rfl, rfl, rfl, hthen, helse⟩⟩

/-- Whichever way a branch was rewritten, its condition is the same. -/
theorem condition_eq (h : Kept b b' ∨ Turned b b') : b'.condition = b.condition := by
  obtain h | h := h
  · exact h.condition
  · exact h.kept.condition

/-- Whichever way a branch was rewritten, the sides that run are rewritten alike. -/
theorem unnegatedBody_side (h : Kept b b' ∨ Turned b b') (passed : Bool) :
    UnnegatedBody (b.side (passed != b.negated)) (b'.side (passed != b'.negated)) := by
  obtain h | h := h
  · rw [h.negated]
    exact h.side _
  · -- The turned branch decides the other way, and has its sides the other way round.
    rw [h.takes, ← Bool.not_not (passed != b.negated), ← b'.side_exchanged, Bool.not_not,
      Bool.not_not]
    exact h.kept.side _

end Branch

/-! ## Encounters -/

/-- A branch that is evaluated in both steps, with what is recorded of it. -/
structure Encounter (T : Type) where
  before : Branch T
  after : Branch T
  decision : Decision
  decision' : Decision

/-- The decisions belong to the branches and tell the same, except that the outcome is exchanged if
the branch is. -/
structure Encounter.Agrees (e : Encounter T) : Prop where
  statement : e.decision.statement = e.before.statement
  statement' : e.decision'.statement = e.after.statement
  condition : e.decision'.condition = e.decision.condition
  outcome : e.before.Kept e.after ∧ e.decision'.outcome = e.decision.outcome ∨
    e.before.Turned e.after ∧ e.decision'.outcome = e.decision.outcome.exchanged

/-- Decisions of a branch and of what it became agree on the condition and the outcome. -/
theorem Branch.agrees_decisionAt {b b' : Branch T} (h : b.Kept b' ∨ b.Turned b')
    (path path' : Locator) (passed : Bool) :
    Encounter.Agrees ⟨b, b', b.decisionAt path passed, b'.decisionAt path' passed⟩ where
  statement := rfl
  statement' := rfl
  condition := rfl
  outcome := by
    have hpresent := (unnegatedBody_side h passed).isSome_eq
    refine h.imp (fun h => ⟨h, ?_⟩) fun h => ⟨h, ?_⟩
    · rw [decisionAt, decisionAt, hpresent, h.negated]
    · rw [decisionAt, decisionAt, hpresent, h.takes, Outcome.of_not]

/-! ## Runs of both -/

/-- Two traced runs that end alike, each with the branches that are evaluated: both fail, or the
records and the branches are those of the same encounters. -/
inductive Paired : EStateM.Result Failure T Trace → EStateM.Result Failure T (List (Branch T)) →
    EStateM.Result Failure T Trace → EStateM.Result Failure T (List (Branch T)) → Prop where
  | failed (failure : Failure) (payload : T) :
    Paired (.error failure payload) (.error failure payload)
    (.error failure payload) (.error failure payload)
  | succeeded (found : List (Encounter T)) (hfound : ∀ e ∈ found, e.Agrees) (consumers : Nat)
    (payload : T) :
    Paired (.ok ⟨found.map (·.decision), consumers⟩ payload)
      (.ok (found.map (·.before)) payload)
      (.ok ⟨found.map (·.decision'), consumers⟩ payload) (.ok (found.map (·.after)) payload)

namespace Paired

variable {run run' more more' : TracedRun T}
  {met met' metMore metMore' : EStateM Failure T (List (Branch T))} {payload : T}

/-- An encounter is put before two runs. -/
theorem recorded (h : Paired (run payload) (met payload) (run' payload) (met' payload))
    {e : Encounter T} (he : e.Agrees) :
    Paired (TracedRun.recorded e.decision run payload) (viewed (e.before :: ·) met payload)
      (TracedRun.recorded e.decision' run' payload) (viewed (e.after :: ·) met' payload) := by
  simp only [TracedRun.recorded, viewed]
  generalize run payload = r, met payload = m, run' payload = r', met' payload = m' at h ⊢
  cases h with
  | failed failure after => exact .failed failure after
  | succeeded found hfound consumers after =>
    have hpaired :=
      succeeded (e :: found) (List.forall_mem_cons.mpr ⟨he, hfound⟩) (0 + consumers) after
    exact hpaired

/-- Runs in turn are paired if they are one by one. -/
theorem both (h : Paired (run payload) (met payload) (run' payload) (met' payload))
    (hmore : ∀ payload,
      Paired (more payload) (metMore payload) (more' payload) (metMore' payload)) :
    Paired (inTurn (· ++ ·) run more payload) (inTurn (· ++ ·) met metMore payload)
      (inTurn (· ++ ·) run' more' payload) (inTurn (· ++ ·) met' metMore' payload) := by
  simp only [inTurn]
  generalize run payload = r, met payload = m, run' payload = r', met' payload = m' at h ⊢
  cases h with
  | failed failure after => exact .failed failure after
  | succeeded found hfound consumers between =>
    dsimp only
    have hrest := hmore between
    generalize more between = r, metMore between = m, more' between = r',
      metMore' between = m' at hrest ⊢
    cases hrest with
    | failed failure after => exact .failed failure after
    | succeeded rest hrest consumersRest after =>
      have hpaired := succeeded (found ++ rest) (List.forall_mem_append.mpr ⟨hfound, hrest⟩)
        (consumers + consumersRest) after
      simp only [List.map_append] at hpaired
      exact hpaired

/-- The same is left of both runs if their records are thrown away. -/
theorem untraced (h : Paired (run payload) (met payload) (run' payload) (met' payload)) :
    run'.untraced payload = run.untraced payload := by
  simp only [TracedRun.untraced, viewed]
  generalize run payload = r, met payload = m, run' payload = r', met' payload = m' at h ⊢
  cases h <;> rfl

end Paired

/-- Branches that were rewritten into one another are evaluated together, if the sides
that run are. -/
theorem Paired.branch {b b' : Branch T} {payload : T} (h : b.Kept b' ∨ b.Turned b')
    (body body' : Locator) (index index' : Nat)
    (hside : ∀ passed path path',
      Paired (Step.runBodyTraced path (b.side (passed != b.negated)) payload)
        (Step.metBody (b.side (passed != b.negated)) payload)
        (Step.runBodyTraced path' (b'.side (passed != b'.negated)) payload)
        (Step.metBody (b'.side (passed != b'.negated)) payload)) :
    Paired (Step.runTraced body index b.toStep payload) (Step.met b.toStep payload)
      (Step.runTraced body' index' b'.toStep payload) (Step.met b'.toStep payload) := by
  have hcondition := congrFun (congrArg Condition.test (Branch.condition_eq h)) payload
  cases htest : b.condition.test payload with
  | error failure =>
    have htest' := hcondition.trans htest
    rw [Step.runTraced_branch_of_error htest, Step.met_branch_of_error htest,
      Step.runTraced_branch_of_error htest', Step.met_branch_of_error htest']
    exact .failed failure payload
  | ok passed =>
    have htest' := hcondition.trans htest
    rw [Step.runTraced_branch htest, Step.met_branch htest, Step.runTraced_branch htest',
      Step.met_branch htest']
    exact (hside passed _ _).recorded (Branch.agrees_decisionAt h _ _ passed)

namespace Step

mutual

/-- **Both runs evaluate the same branches, one by one**, wherever the steps stand. -/
theorem paired_of_unnegated : ∀ (step : Step T) {step' : Step T}, Unnegated step step' →
    ∀ (body body' : Locator) (index index' : Nat) (payload : T),
      Paired (runTraced body index step payload) (step.met payload)
        (runTraced body' index' step' payload) (step'.met payload)
  | .consumer node, _, .consumer _, body, body', index, index', payload => by
    rw [runTraced_consumer, runTraced_consumer, met, viewed, viewed]
    cases node.behaviour payload with
    | error failure after => exact .failed failure after
    | ok _ after => exact .succeeded [] (List.forall_mem_nil _) 1 after
  | .branch negated condition thenBody elseBody, step', h, body, body', index, index', payload => by
    obtain ⟨b', rfl, hbranch⟩ :=
      Branch.unnegated_toStep (b := ⟨negated, condition, thenBody, elseBody⟩) h
    refine Paired.branch hbranch body body' index index' fun passed path path' => ?_
    -- Whatever the condition comes to, a side of the branch runs and what was made of that side.
    exact Branch.side_of_both ⟨negated, condition, thenBody, elseBody⟩
      (P := fun side => ∀ side', UnnegatedBody side side' →
        Paired (runBodyTraced path side payload) (metBody side payload)
          (runBodyTraced path' side' payload) (metBody side' payload))
      (fun _ h => paired_of_unnegatedBody thenBody h path path' payload)
      (fun _ h => paired_of_unnegatedBody elseBody h path path' payload) _ _
      (Branch.unnegatedBody_side hbranch passed)
  | .sequence steps, _, .sequence h, body, body', index, index', payload => by
    rw [runTraced, runTraced, met, met]
    exact paired_of_unnegatedAll steps h body body' 0 0 payload

theorem paired_of_unnegatedBody : ∀ (step : Option (Step T)) {step' : Option (Step T)},
    UnnegatedBody step step' → ∀ (path path' : Locator) (payload : T),
      Paired (runBodyTraced path step payload) (metBody step payload)
        (runBodyTraced path' step' payload) (metBody step' payload)
  | none, _, .none, path, path', payload => by
    rw [runBodyTraced, runBodyTraced, metBody]
    exact .succeeded [] (List.forall_mem_nil _) 0 payload
  | some step, _, .some h, path, path', payload => by
    rw [runBodyTraced, runBodyTraced, metBody, metBody]
    exact paired_of_unnegated step h path path' 0 0 payload

/-- Steps and what they became meet paired branches. -/
theorem paired_of_unnegatedAll : ∀ (steps : List (Step T)) {steps' : List (Step T)},
    UnnegatedAll steps steps' → ∀ (body body' : Locator) (index index' : Nat) (payload : T),
      Paired (runAllTraced body index steps payload) (metAll steps payload)
        (runAllTraced body' index' steps' payload) (metAll steps' payload)
  | [], _, .nil, body, body', index, index', payload => by
    rw [runAllTraced, runAllTraced, metAll]
    exact .succeeded [] (List.forall_mem_nil _) 0 payload
  | step :: rest, _, .cons hstep hrest, body, body', index, index', payload => by
    rw [runAllTraced_cons, runAllTraced_cons, metAll, metAll]
    exact (paired_of_unnegated step hstep body body' index index' payload).both fun payload =>
      paired_of_unnegatedAll rest hrest body body' (index + 1) (index' + 1) payload

end

end Step

/-! ## Counts of both -/

theorem Statistics.add_right_comm (s t u : Statistics) : s + t + u = s + u + t := by
  simp only [add_def, beside, Nat.add_right_comm, Nat.max_right_comm]

namespace Step

mutual

/-- A step counts as before, turned or not. -/
theorem statistics_of_unnegated : ∀ (step : Step T) {step' : Step T}, Unnegated step step' →
    step'.statistics = step.statistics
  | .consumer _, _, .consumer _ => rfl
  | .branch _ _ thenBody elseBody, _, .kept hthen helse => by
    rw [statistics, statistics, statistics_of_unnegatedBody thenBody hthen,
      statistics_of_unnegatedBody elseBody helse]
  | .branch true _ thenBody elseBody, _, .turned hthen helse => by
    rw [statistics, statistics, statistics_of_unnegatedBody thenBody hthen,
      statistics_of_unnegatedBody elseBody helse, Statistics.add_right_comm]
  | .sequence steps, _, .sequence h => by
    rw [statistics, statistics, statistics_of_unnegatedAll steps h]

theorem statistics_of_unnegatedBody : ∀ (step : Option (Step T)) {step' : Option (Step T)},
    UnnegatedBody step step' → statisticsBody step' = statisticsBody step
  | none, _, .none => rfl
  | some step, _, .some h => by rw [statisticsBody, statisticsBody, statistics_of_unnegated step h]

theorem statistics_of_unnegatedAll : ∀ (steps : List (Step T)) {steps' : List (Step T)},
    UnnegatedAll steps steps' → statisticsAll steps' = statisticsAll steps
  | [], _, .nil => rfl
  | step :: rest, _, .cons hstep hrest => by
    rw [statisticsAll, statisticsAll, statistics_of_unnegated step hstep,
      statistics_of_unnegatedAll rest hrest]

end

/-! ## Exchanging them all -/

mutual

/-- The step with all of its inverting branches exchanged. -/
def unnegate : Step T → Step T
  | .consumer node => .consumer node
  | .branch true condition thenBody elseBody =>
    .branch false condition (unnegateBody elseBody) (unnegateBody thenBody)
  | .branch false condition thenBody elseBody =>
    .branch false condition (unnegateBody thenBody) (unnegateBody elseBody)
  | .sequence steps => .sequence (unnegateAll steps)

/-- The body with all of its inverting branches exchanged. -/
def unnegateBody : Option (Step T) → Option (Step T)
  | none => none
  | some step => some (unnegate step)

/-- The steps with all of their inverting branches exchanged. -/
def unnegateAll : List (Step T) → List (Step T)
  | [] => []
  | step :: rest => unnegate step :: unnegateAll rest

end

mutual

/-- Turning every negated branch is one of the changes. -/
theorem unnegated_unnegate : ∀ step : Step T, Unnegated step step.unnegate
  | .consumer node => .consumer node
  | .branch true _ thenBody elseBody =>
    .turned (unnegated_unnegateBody thenBody) (unnegated_unnegateBody elseBody)
  | .branch false _ thenBody elseBody =>
    .kept (unnegated_unnegateBody thenBody) (unnegated_unnegateBody elseBody)
  | .sequence steps => .sequence (unnegated_unnegateAll steps)

theorem unnegated_unnegateBody : ∀ step : Option (Step T), UnnegatedBody step (unnegateBody step)
  | none => .none
  | some step => .some (unnegated_unnegate step)

theorem unnegated_unnegateAll : ∀ steps : List (Step T), UnnegatedAll steps (unnegateAll steps)
  | [] => .nil
  | step :: rest => .cons (unnegated_unnegate step) (unnegated_unnegateAll rest)

end

mutual

/-- No branch is left that inverts its condition. -/
theorem negated_places_unnegate : ∀ (step : Step T) (body : Locator) (index : Nat),
    ∀ place ∈ places body index step.unnegate, place.branch.negated = false
  | .consumer _, body, index => by
    rw [unnegate, places]
    exact List.forall_mem_nil _
  | .branch true _ thenBody elseBody, body, index => by
    rw [unnegate, places]
    exact List.forall_mem_cons.mpr ⟨rfl, List.forall_mem_append.mpr
      ⟨negated_places_unnegateBody elseBody _, negated_places_unnegateBody thenBody _⟩⟩
  | .branch false _ thenBody elseBody, body, index => by
    rw [unnegate, places]
    exact List.forall_mem_cons.mpr ⟨rfl, List.forall_mem_append.mpr
      ⟨negated_places_unnegateBody thenBody _, negated_places_unnegateBody elseBody _⟩⟩
  | .sequence steps, body, index => by
    rw [unnegate, places]
    exact negated_places_unnegateAll steps body 0

theorem negated_places_unnegateBody : ∀ (step : Option (Step T)) (body : Locator),
    ∀ place ∈ placesBody body (unnegateBody step), place.branch.negated = false
  | none, body => by
    rw [unnegateBody, placesBody]
    exact List.forall_mem_nil _
  | some step, body => by
    rw [unnegateBody, placesBody]
    exact negated_places_unnegate step body 0

theorem negated_places_unnegateAll : ∀ (steps : List (Step T)) (body : Locator) (index : Nat),
    ∀ place ∈ placesAll body index (unnegateAll steps), place.branch.negated = false
  | [], body, index => by
    rw [unnegateAll, placesAll]
    exact List.forall_mem_nil _
  | step :: rest, body, index => by
    rw [unnegateAll, placesAll]
    exact List.forall_mem_append.mpr
      ⟨negated_places_unnegate step body index,
        negated_places_unnegateAll rest body (index + 1)⟩

end

end Step

/-! ## Flows -/

/-- **Branches that invert can be exchanged anywhere in a flow, and all of them can.** Whichever of
them are, the flow runs as before and has the same counts. Traced runs fail alike. If they succeed,
they evaluate the same branches one by one, with the same results of the conditions, and as many
consumers run; what ran of a branch is recorded as before, with the sides exchanged if the branch
is. -/
theorem Flow.unnegated_agree (flow : Flow T) :
    (∃ plain : Flow T, Step.UnnegatedBody flow.root plain.root ∧
      ∀ place ∈ plain.places, place.branch.negated = false) ∧
    ∀ flow' : Flow T, Step.UnnegatedBody flow.root flow'.root →
      flow'.run = flow.run ∧ flow'.statistics = flow.statistics ∧
      ∀ payload,
        (∀ failure after, flow.runTraced payload = .error failure after →
          flow'.runTraced payload = .error failure after) ∧
        ∀ trace after, flow.runTraced payload = .ok trace after →
          ∃ (trace' : Trace) (found : List (Encounter T)),
            flow'.runTraced payload = .ok trace' after ∧
            trace'.consumersInvoked = trace.consumersInvoked ∧
            trace'.decisions.length = trace.decisions.length ∧
            trace'.decisions.map (·.condition) = trace.decisions.map (·.condition) ∧
            trace.decisions = found.map Encounter.decision ∧
            trace'.decisions = found.map Encounter.decision' ∧
            flow.met payload = .ok (found.map (·.before)) after ∧
            flow'.met payload = .ok (found.map (·.after)) after ∧
            ∀ e ∈ found, e.Agrees := by
  refine ⟨⟨⟨Step.unnegateBody flow.root⟩, Step.unnegated_unnegateBody flow.root,
    Step.negated_places_unnegateBody flow.root []⟩, fun flow' h => ?_⟩
  have hpaired := Step.paired_of_unnegatedBody flow.root h [] []
  refine ⟨?_, Step.statistics_of_unnegatedBody flow.root h, fun payload => ?_⟩
  · funext payload
    rw [← (runs_agree payload).1, ← (runs_agree payload).1]
    exact (hpaired payload).untraced
  · have hboth := hpaired payload
    rw [runTraced, runTraced, met, met]
    generalize Step.runBodyTraced [] flow.root payload = r, Step.metBody flow.root payload = m,
      Step.runBodyTraced [] flow'.root payload = r',
      Step.metBody flow'.root payload = m' at hboth ⊢
    cases hboth with
    | failed failure after => exact ⟨fun _ _ h => h, nofun⟩
    | succeeded found hfound consumers after =>
      refine ⟨nofun, fun trace _ htrace => ?_⟩
      cases htrace
      refine ⟨_, found, rfl, rfl, ?_, ?_, rfl, rfl, rfl, rfl, hfound⟩
      · rw [List.length_map, List.length_map]
      · rw [List.map_map, List.map_map]
        exact List.map_congr_left fun e he => (hfound e he).condition

/-- An inverting branch over numbers, with another one in its first side. -/
def Branch.inverting : Branch Nat :=
  let below (k : Nat) : Condition Nat := .predicate ⟨"below", [], fun n => .ok (n < k)⟩
  let add (k : Nat) : Step Nat := .consumer ⟨"add", [], fun n => .ok () (n + k)⟩
  ⟨true, below 3, some (.branch true (below 9) none (some (add 4))), some (add 1)⟩

/-- Of a negated branch in a negated branch, the outer one is turned. -/
theorem Flow.unnegated_agree_inverting :
    ∃ (trace trace' : Trace) (found : List (Encounter Nat)),
      Flow.runTraced ⟨some Branch.inverting.toStep⟩ 5 = .ok trace 9 ∧
      Flow.runTraced ⟨some Branch.inverting.exchanged.toStep⟩ 5 = .ok trace' 9 ∧
      trace.decisions = found.map Encounter.decision ∧
      trace'.decisions = found.map Encounter.decision' ∧
      (∀ e ∈ found, e.Agrees) ∧
      trace.decisions.map (·.outcome) = [.ranThen, .ranElse] ∧
      trace'.decisions.map (·.outcome) = [.ranElse, .ranElse] := by
  -- Only the outer branch is exchanged.
  have hrewritten : Step.UnnegatedBody (some Branch.inverting.toStep)
      (some Branch.inverting.exchanged.toStep) :=
    .some (.turned (.some (.kept .none (.some (.consumer _)))) (.some (.consumer _)))
  have hrun : Flow.runTraced ⟨some Branch.inverting.toStep⟩ 5 = .ok _ 9 := rfl
  obtain ⟨-, -, hruns⟩ := (Flow.unnegated_agree ⟨some Branch.inverting.toStep⟩).2
    ⟨some Branch.inverting.exchanged.toStep⟩ hrewritten
  obtain ⟨trace', found, hrun', -, -, -, hdecisions, hdecisions', -, -, hagrees⟩ :=
    (hruns 5).2 _ _ hrun
  refine ⟨_, trace', found, hrun, hrun', hdecisions, hdecisions', hagrees, rfl, ?_⟩
  cases hrun'
  rfl

end DecisionFlow
