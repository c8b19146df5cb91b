import DecisionFlow.Proofs.Flow.Nodes
import DecisionFlow.Proofs.Flow.Tracing

/-!
# The consumers that a run calls

Nothing but a consumer changes a payload. If no condition fails, a run therefore comes to the calls
of some consumers, one after the other and up to the first that fails. What holds of every call then
holds of runs.

- `Step.reached`, `Flow.reached`: the consumers that a run comes to, in order.
- `Calls`: consumers that are called in turn, and how that ends.
- `Flow.calls_run`: **a run calls the consumers that it comes to**, and does nothing else.
- `Calls.preserves`, `Calls.exists_failed`, `Calls.refused`: what calls have in common, runs have.
- `Flow.length_reached`: a traced run counts the consumers that it comes to.
-/

namespace DecisionFlow

variable {T : Type}

/-! ## Conditions that never fail -/

/-- The predicate tells every payload whether it holds. -/
def Predicate.Total (predicate : Predicate T) : Prop :=
  ∀ payload, ∃ passed, predicate payload = .ok passed

namespace Condition

mutual

/-- A condition of predicates that never fail never fails. -/
theorem total_test : ∀ condition : Condition T,
    (∀ node ∈ condition.predicates, Predicate.Total node.behaviour) →
    Predicate.Total condition.test
  | .predicate node, h, payload => by
    rw [test]
    exact h node (by rw [predicates]; exact List.mem_singleton_self node) payload
  | .group any members, h, payload => by
    rw [test]
    rw [predicates] at h
    exact total_testMembers any members h payload

theorem total_testMembers (any : Bool) : ∀ members : List (Condition T),
    (∀ node ∈ predicatesAll members, Predicate.Total node.behaviour) →
      Predicate.Total (testMembers any members)
  | [], _, payload => ⟨!any, by rw [testMembers]⟩
  | member :: rest, h, payload => by
    rw [predicatesAll] at h
    obtain ⟨hmember, hrest⟩ := List.forall_mem_append.mp h
    obtain ⟨result, hresult⟩ := total_test member hmember payload
    rw [testMembers, hresult]
    dsimp only
    split
    · exact ⟨any, rfl⟩
    · exact total_testMembers any rest hrest payload

end

end Condition

/-! ## Consumers that are reached -/

namespace Step

mutual

/-- The consumers that a run of a step comes to, in order. If the run fails at a consumer, that is
the last. -/
def reached : Step T → T → List (ConsumerNode T)
  | .consumer node, _ => [node]
  | .branch negated condition thenBody elseBody, payload =>
    match condition.test payload with
    | .error _ => []
    | .ok passed =>
      if passed != negated then reachedBody thenBody payload else reachedBody elseBody payload
  | .sequence steps, payload => reachedAll steps payload

/-- The consumers that a run of a body comes to. -/
def reachedBody : Option (Step T) → T → List (ConsumerNode T)
  | none, _ => []
  | some step, payload => step.reached payload

/-- The consumers that a run of steps in order comes to. -/
def reachedAll : List (Step T) → T → List (ConsumerNode T)
  | [], _ => []
  | step :: rest, payload =>
    step.reached payload ++
      match step.run payload with
      | .ok _ between => reachedAll rest between
      | .error _ _ => []

end

mutual

/-- Only consumers of the step are reached. -/
theorem mem_consumers_of_reached : ∀ (step : Step T) {payload : T} {node : ConsumerNode T},
    node ∈ step.reached payload → node ∈ step.consumers
  | .consumer _, payload, node, h => by
    rw [reached] at h
    rwa [consumers]
  | .branch negated condition thenBody elseBody, payload, node, h => by
    rw [consumers]
    rw [reached] at h
    split at h
    · cases h
    · split at h
      · exact List.mem_append_left _ (mem_consumersBody_of_reached thenBody h)
      · exact List.mem_append_right _ (mem_consumersBody_of_reached elseBody h)
  | .sequence steps, payload, node, h => by
    rw [reached] at h
    rw [consumers]
    exact mem_consumersAll_of_reached steps h

theorem mem_consumersBody_of_reached :
    ∀ (step : Option (Step T)) {payload : T} {node : ConsumerNode T},
    node ∈ reachedBody step payload → node ∈ consumersBody step
  | none, payload, node, h => by
    rw [reachedBody] at h
    cases h
  | some step, payload, node, h => by
    rw [reachedBody] at h
    rw [consumersBody]
    exact mem_consumers_of_reached step h

theorem mem_consumersAll_of_reached :
    ∀ (steps : List (Step T)) {payload : T} {node : ConsumerNode T},
    node ∈ reachedAll steps payload → node ∈ consumersAll steps
  | [], payload, node, h => by
    rw [reachedAll] at h
    cases h
  | step :: rest, payload, node, h => by
    rw [consumersAll]
    rw [reachedAll] at h
    obtain h | h := List.mem_append.mp h
    · exact List.mem_append_left _ (mem_consumers_of_reached step h)
    · split at h
      · exact List.mem_append_right _ (mem_consumersAll_of_reached rest h)
      · cases h

end

end Step

/-- The consumers that a run of a flow comes to, in order. -/
def Flow.reached (flow : Flow T) (payload : T) : List (ConsumerNode T) :=
  Step.reachedBody flow.root payload

/-! ## Calls -/

/-- Consumers are called in turn, each on the payload that the one before has left. The calls end
with the first that fails, or after the last. -/
inductive Calls : T → List (ConsumerNode T) → EStateM.Result Failure T Unit → Prop where
  | done (payload : T) : Calls payload [] (.ok () payload)
  | failed {payload after : T} {node : ConsumerNode T} {failure : Failure}
    (hnode : node.behaviour payload = .error failure after) :
    Calls payload [node] (.error failure after)
  | next {payload between : T} {node : ConsumerNode T} {rest : List (ConsumerNode T)}
    {result : EStateM.Result Failure T Unit} (hnode : node.behaviour payload = .ok () between)
    (hrest : Calls between rest result) : Calls payload (node :: rest) result

namespace Calls

variable {payload between after : T} {nodes more : List (ConsumerNode T)} {failure : Failure}
  {result : EStateM.Result Failure T Unit}

/-- One consumer is one call. -/
theorem of_behaviour (node : ConsumerNode T) (payload : T) :
    Calls payload [node] (node.behaviour payload) := by
  cases hnode : node.behaviour payload with
  | error failure after => exact .failed hnode
  | ok _ after => exact .next hnode (.done after)

/-- What comes after a run that succeeded is called behind it. -/
theorem append :
    ∀ {payload : T} {nodes : List (ConsumerNode T)}, Calls payload nodes (.ok () between) →
    Calls between more result → Calls payload (nodes ++ more) result
  | _, _, .done _, hmore => hmore
  | _, _, .next hnode hrest, hmore => .next hnode (hrest.append hmore)

/-- What every consumer preserves is preserved. -/
theorem preserves {P : T → Prop} (h : Calls payload nodes result)
    (hnodes : ∀ node ∈ nodes, ∀ p, P p → P (Consumer.payloadAfter (node.behaviour p)))
    (hP : P payload) : P (Consumer.payloadAfter result) := by
  induction h with
  | done payload => exact hP
  | @failed payload after node failure hnode =>
    have hafter := hnodes node (List.mem_singleton_self node) payload hP
    rwa [hnode] at hafter
  | @next payload between node rest result hnode _ ih =>
    obtain ⟨hfirst, hothers⟩ := List.forall_mem_cons.mp hnodes
    have hbetween := hfirst payload hP
    rw [hnode] at hbetween
    exact ih hothers hbetween

/-- A failure is that of the consumer that was called last. -/
theorem exists_failed {P : T → Prop} (h : Calls payload nodes (.error failure after))
    (hnodes : ∀ node ∈ nodes, ∀ p, P p → P (Consumer.payloadAfter (node.behaviour p)))
    (hP : P payload) :
    ∃ before node between, nodes = before ++ [node] ∧ P between ∧
      node.behaviour between = .error failure after := by
  generalize hresult : EStateM.Result.error failure after = result at h
  induction h with
  | done payload => cases hresult
  | @failed payload after' node failure' hnode =>
    cases hresult
    exact ⟨[], node, payload, rfl, hP, hnode⟩
  | @next payload between node rest result hnode _ ih =>
    obtain ⟨hfirst, hothers⟩ := List.forall_mem_cons.mp hnodes
    have hbetween := hfirst payload hP
    rw [hnode] at hbetween
    obtain ⟨before, last, left, rfl, hleft, hlast⟩ := ih hothers hbetween hresult
    exact ⟨node :: before, last, left, rfl, hleft, hlast⟩

/-- If every consumer refuses the payload, at most one is called. -/
theorem refused (h : Calls payload nodes result)
    (hnodes : ∀ node ∈ nodes, node.behaviour payload = .error failure payload) :
    (nodes = [] ∧ result = .ok () payload) ∨
    ∃ node, nodes = [node] ∧ result = .error failure payload := by
  cases h with
  | done => exact .inl ⟨rfl, rfl⟩
  | @failed _ after node failure' hnode =>
    have hrefused := hnodes node (List.mem_singleton_self node)
    exact .inr ⟨node, rfl, hnode.symm.trans hrefused⟩
  | @next _ between node rest _ hnode _ =>
    have hrefused := hnodes node List.mem_cons_self
    rw [hnode] at hrefused
    cases hrefused

end Calls

/-! ## Runs as calls -/

namespace Step

mutual

/-- **A run calls the consumers that it comes to**, if no predicate fails. -/
theorem calls_run :
    ∀ (step : Step T), (∀ node ∈ step.predicates, Predicate.Total node.behaviour) →
    ∀ payload, Calls payload (step.reached payload) (step.run payload)
  | .consumer node, _, payload => by
    rw [reached, run]
    exact .of_behaviour node payload
  | .branch negated condition thenBody elseBody, h, payload => by
    rw [predicates] at h
    obtain ⟨hboth, helse⟩ := List.forall_mem_append.mp h
    obtain ⟨hcondition, hthen⟩ := List.forall_mem_append.mp hboth
    obtain ⟨passed, htest⟩ := condition.total_test hcondition payload
    simp only [reached, run]
    rw [htest]
    dsimp only
    cases passed != negated with
    | true => exact calls_runBody thenBody hthen payload
    | false => exact calls_runBody elseBody helse payload
  | .sequence steps, h, payload => by
    rw [predicates] at h
    rw [reached, run]
    exact calls_runAll steps h payload

theorem calls_runBody : ∀ (step : Option (Step T)),
    (∀ node ∈ predicatesBody step, Predicate.Total node.behaviour) →
      ∀ payload, Calls payload (reachedBody step payload) (runBody step payload)
  | none, _, payload => by
    rw [reachedBody, runBody]
    exact .done payload
  | some step, h, payload => by
    rw [predicatesBody] at h
    rw [reachedBody, runBody]
    exact calls_run step h payload

theorem calls_runAll : ∀ (steps : List (Step T)),
    (∀ node ∈ predicatesAll steps, Predicate.Total node.behaviour) →
      ∀ payload, Calls payload (reachedAll steps payload) (runAll steps payload)
  | [], _, payload => by
    rw [reachedAll, runAll]
    exact .done payload
  | step :: rest, h, payload => by
    rw [predicatesAll] at h
    obtain ⟨hstep, hrest⟩ := List.forall_mem_append.mp h
    have hcalls := calls_run step hstep payload
    -- If the first step fails, the others are neither reached nor called.
    simp only [reachedAll, runAll]
    cases hrun : step.run payload with
    | error failure after =>
      rw [hrun] at hcalls
      rwa [List.append_nil]
    | ok _ between =>
      rw [hrun] at hcalls
      exact hcalls.append (calls_runAll rest hrest between)

end

end Step

/-- **A run calls the consumers that it comes to, and does nothing else**, if no predicate fails. -/
theorem Flow.calls_run (flow : Flow T)
    (h : ∀ node ∈ flow.predicates, Predicate.Total node.behaviour) (payload : T) :
    Calls payload (flow.reached payload) (flow.run payload) :=
  Step.calls_runBody flow.root h payload

/-- Only consumers of the flow are reached. -/
theorem Flow.mem_consumers_of_reached {flow : Flow T} {payload : T} {node : ConsumerNode T}
    (h : node ∈ flow.reached payload) : node ∈ flow.consumers :=
  Step.mem_consumersBody_of_reached flow.root h

/-! ## Counted consumers -/

namespace Step

/-- What a traced run comes to, the plain run comes to. -/
theorem run_of_runTraced {step : Step T} {body : Locator} {index : Nat} {payload after : T}
    {trace : Trace} (h : runTraced body index step payload = .ok trace after) :
    step.run payload = .ok () after := by
  rw [← follows_run.viewed_runTraced body index step]
  exact viewed_eq_ok_iff.mpr ⟨trace, h, rfl⟩

mutual

/-- **A traced run counts the consumers that the run comes to.** -/
theorem length_reached :
    ∀ (step : Step T) {body : Locator} {index : Nat} {payload after : T} {trace : Trace},
    runTraced body index step payload = .ok trace after →
      (step.reached payload).length = trace.consumersInvoked
  | .consumer node, body, index, payload, after, trace, h => by
    obtain ⟨-, rfl⟩ := runTraced_consumer_eq_ok_iff.mp h
    rw [reached]
    rfl
  | .branch negated condition thenBody elseBody, body, index, payload, after, trace, h => by
    obtain ⟨passed, htest, inner, hinner, rfl⟩ :=
      (runTraced_branch_eq_ok_iff ⟨negated, condition, thenBody, elseBody⟩).mp h
    have htest : condition.test payload = .ok passed := htest
    simp only [reached]
    rw [htest, Trace.consumersInvoked_append]
    dsimp only
    cases hside : passed != negated with
    | true =>
      rw [hside] at hinner
      exact (length_reachedBody thenBody hinner).trans (Nat.zero_add _).symm
    | false =>
      rw [hside] at hinner
      exact (length_reachedBody elseBody hinner).trans (Nat.zero_add _).symm
  | .sequence steps, body, index, payload, after, trace, h => by
    rw [runTraced] at h
    rw [reached]
    exact length_reachedAll steps h

theorem length_reachedBody :
    ∀ (step : Option (Step T)) {path : Locator} {payload after : T} {trace : Trace},
    runBodyTraced path step payload = .ok trace after →
      (reachedBody step payload).length = trace.consumersInvoked
  | none, path, payload, after, trace, h => by
    rw [runBodyTraced] at h
    cases h
    rw [reachedBody]
    rfl
  | some step, path, payload, after, trace, h => by
    rw [runBodyTraced] at h
    rw [reachedBody]
    exact length_reached step h

theorem length_reachedAll :
    ∀ (steps : List (Step T)) {body : Locator} {index : Nat} {payload after : T}
    {trace : Trace}, runAllTraced body index steps payload = .ok trace after →
      (reachedAll steps payload).length = trace.consumersInvoked
  | [], body, index, payload, after, trace, h => by
    rw [runAllTraced] at h
    cases h
    rw [reachedAll]
    rfl
  | step :: rest, body, index, payload, after, trace, h => by
    obtain ⟨first, between, hfirst, more, hmore, rfl⟩ := runAllTraced_cons_eq_ok_iff.mp h
    rw [reachedAll, run_of_runTraced hfirst, List.length_append, length_reached step hfirst]
    dsimp only
    rw [length_reachedAll rest hmore, Trace.consumersInvoked_append]

end

end Step

/-- A trace counts the consumers that were reached. -/
theorem Flow.length_reached {flow : Flow T} {payload after : T} {trace : Trace}
    (h : flow.runTraced payload = .ok trace after) :
    (flow.reached payload).length = trace.consumersInvoked :=
  Step.length_reachedBody flow.root h

end DecisionFlow
