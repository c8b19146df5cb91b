import DecisionFlow.Proofs.Document.Reading
import DecisionFlow.Proofs.Flow.Nodes
import DecisionFlow.Proofs.Flow.Normal

/-!
# Flows that fit an engine

A graph fits an engine when the registries build each of its nodes from the node's kind and
configuration, when no name clashes with the grammar, and when it is not too deep. These are the
graphs that can be written and read again.

- `Fits`: nodes and a depth that fit, with `FitsCondition`, `FitsStep` and `FitsBody`.
- `fitsCondition_of_readGroup`, `fitsStep_of_readBranch`, `fitsBody_of_readBody`: what an engine
  reads fits it and is in normal form.
-/

namespace DecisionFlow.Document

variable {T : Type}

/-- Nodes that an engine builds again, in a graph of a depth within `levels`. -/
structure Fits (engine : Engine T) (levels : Nat) (predicates : List (PredicateNode T))
    (consumers : List (ConsumerNode T)) (depth : Nat) : Prop where
  predicate : ∀ node ∈ predicates,
    engine.conditions.build node.kind node.config = .ok node ∧
      engine.settings.discriminator ∉ Fields.names node.config
  consumer : ∀ node ∈ consumers,
    engine.consumers.build node.kind node.config = .ok node ∧ Statement.lookup node.kind = none
  shallow : depth ≤ levels

/-- A condition that fits. -/
abbrev FitsCondition (engine : Engine T) (levels : Nat) (condition : Condition T) : Prop :=
  Fits engine levels condition.predicates [] condition.depth

/-- A step that fits. -/
abbrev FitsStep (engine : Engine T) (levels : Nat) (step : Step T) : Prop :=
  Fits engine levels step.predicates step.consumers step.depth

/-- A body that fits. -/
abbrev FitsBody (engine : Engine T) (levels : Nat) (body : Option (Step T)) : Prop :=
  Fits engine levels (Step.predicatesBody body) (Step.consumersBody body) (Step.depthBody body)

variable {engine : Engine T} {levels depth depth' : Nat}
  {predicates predicates' : List (PredicateNode T)} {consumers consumers' : List (ConsumerNode T)}

/-! ## Parts that fit -/

theorem fits_nil : Fits engine levels [] [] 0 :=
  ⟨fun _ h => (nomatch h), fun _ h => (nomatch h), Nat.zero_le _⟩

/-- Parts side by side fit if each does. -/
theorem fits_append_iff :
    Fits engine levels (predicates ++ predicates') (consumers ++ consumers') (max depth depth') ↔
      Fits engine levels predicates consumers depth ∧
        Fits engine levels predicates' consumers' depth' := by
  constructor
  · rintro ⟨hpredicate, hconsumer, hshallow⟩
    rw [List.forall_mem_append] at hpredicate hconsumer
    rw [Nat.max_le] at hshallow
    exact ⟨⟨hpredicate.1, hconsumer.1, hshallow.1⟩,
      ⟨hpredicate.2, hconsumer.2, hshallow.2⟩⟩
  · rintro ⟨⟨hpredicate, hconsumer, hshallow⟩, ⟨hpredicate', hconsumer', hshallow'⟩⟩
    refine ⟨?_, ?_, Nat.max_le.mpr ⟨hshallow, hshallow'⟩⟩
    · exact List.forall_mem_append.mpr ⟨hpredicate, hpredicate'⟩
    · exact List.forall_mem_append.mpr ⟨hconsumer, hconsumer'⟩

/-- A branch or a group takes up one level. -/
theorem fits_succ_iff :
    Fits engine (levels + 1) predicates consumers (1 + depth) ↔
      Fits engine levels predicates consumers depth := by
  constructor
  · rintro ⟨hpredicate, hconsumer, hshallow⟩
    exact ⟨hpredicate, hconsumer, by omega⟩
  · rintro ⟨hpredicate, hconsumer, hshallow⟩
    exact ⟨hpredicate, hconsumer, by omega⟩

theorem fitsCondition_all_iff {members : List (Condition T)} :
    Fits engine levels (Condition.predicatesAll members) [] (Condition.depthMembers members) ↔
      ∀ member ∈ members, FitsCondition engine levels member := by
  induction members with
  | nil => simp [Condition.predicatesAll, Condition.depthMembers, fits_nil]
  | cons member rest ih =>
    rw [Condition.predicatesAll, Condition.depthMembers, List.forall_mem_cons, ← ih,
      FitsCondition, ← fits_append_iff, List.nil_append]

theorem fitsStep_all_iff {steps : List (Step T)} :
    Fits engine levels (Step.predicatesAll steps) (Step.consumersAll steps)
      (Step.depthAll steps) ↔
      ∀ step ∈ steps, FitsStep engine levels step := by
  induction steps with
  | nil => simp [Step.predicatesAll, Step.consumersAll, Step.depthAll, fits_nil]
  | cons step rest ih =>
    rw [Step.predicatesAll, Step.consumersAll, Step.depthAll, List.forall_mem_cons, ← ih]
    exact fits_append_iff

/-- A group takes one level, and its members fit the levels that are left. -/
theorem fitsCondition_group_iff {any : Bool} {members : List (Condition T)} :
    FitsCondition engine (levels + 1) (.group any members) ↔
      ∀ member ∈ members, FitsCondition engine levels member := by
  rw [← fitsCondition_all_iff, FitsCondition, Condition.predicates, Condition.depth,
    fits_succ_iff]

/-- A branch takes one level for its condition and both of its bodies. -/
theorem fitsStep_branch_iff {negated : Bool} {condition : Condition T}
    {thenBody elseBody : Option (Step T)} :
    FitsStep engine (levels + 1) (.branch negated condition thenBody elseBody) ↔
      FitsCondition engine levels condition ∧ FitsBody engine levels thenBody ∧
        FitsBody engine levels elseBody := by
  rw [FitsStep, Step.predicates, Step.consumers, Step.depth, fits_succ_iff, List.append_assoc,
    ← fits_append_iff, ← fits_append_iff, List.nil_append]

/-- A composed body fits if its steps do. -/
theorem fitsBody_compose_iff {steps : List (Step T)} :
    FitsBody engine levels (Step.compose steps) ↔
      ∀ step ∈ steps, FitsStep engine levels step := by
  rw [FitsBody, Step.predicatesBody_eq_elim, Step.consumersBody_eq_elim, depthBody_eq_elim,
    sequential_predicates.compose, sequential_consumers.compose, sequential_depth.compose,
    fitsStep_all_iff]

/-! ## What is read fits -/

theorem forall_of_forall₂ {α β : Type} {R : α → β → Prop} {P : β → Prop} {xs : List α}
    {ys : List β} (h : List.Forall₂ R xs ys) (hP : ∀ x y, R x y → P y) :
    ∀ y ∈ ys, P y := by
  induction h with
  | nil => exact fun _ h => nomatch h
  | cons hxy _ ih => exact List.forall_mem_cons.mpr ⟨hP _ _ hxy, ih⟩

/-- A predicate that was read takes no level. -/
theorem fitsCondition_of_readPredicate {value : Value} {path : Locator} {node : PredicateNode T}
    (h : readPredicate engine value path = .ok node) :
    FitsCondition engine levels (.predicate node) := by
  obtain ⟨fields, kind, -, -, hbuilt⟩ := readPredicate_eq_ok_iff.mp h
  refine ⟨?_, fun _ h => (nomatch h), ?_⟩
  · intro other hother
    rw [Condition.predicates, List.mem_singleton] at hother
    subst hother
    refine ⟨Registry.build_self hbuilt, ?_⟩
    -- The reader takes the discriminator out of the fields before the node is built from them.
    obtain ⟨factory, -, behaviour, -, rfl⟩ := Registry.build_eq_ok_iff.mp hbuilt
    simp [Fields.names, Fields.without]
  · rw [Condition.depth]
    exact Nat.zero_le _

/-- A consumer that was read takes no level, and its kind is no statement. -/
theorem fitsStep_of_readConsumer {kind : String} {value : Value} {path : Locator}
    {node : ConsumerNode T} (hkind : Statement.lookup kind = none)
    (h : readConsumer engine kind value path = .ok node) :
    FitsStep engine levels (.consumer node) := by
  obtain ⟨fields, -, hbuilt⟩ := readConsumer_eq_ok_iff.mp h
  refine ⟨fun _ h => ?_, ?_, ?_⟩
  · rw [Step.predicates] at h
    cases h
  · intro other hother
    rw [Step.consumers, List.mem_singleton] at hother
    subst hother
    refine ⟨Registry.build_self hbuilt, ?_⟩
    obtain ⟨factory, -, behaviour, -, rfl⟩ := Registry.build_eq_ok_iff.mp hbuilt
    exact hkind
  · rw [Step.depth]
    exact Nat.zero_le _

/-- Members fit where groups do: the step that `fitsCondition_of_readGroup` repeats at each level.
-/
theorem fitsCondition_of_readMember {any : Bool} {child : Child} {condition : Condition T}
    (hgroup : ∀ any node path condition, readGroup engine levels any node path = .ok condition →
      FitsCondition engine levels condition)
    (h : readMember engine (readGroup engine levels) any child = .ok condition) :
    FitsCondition engine levels condition := by
  obtain ⟨-, node, hnode, rfl⟩ | ⟨inner, -, hcondition⟩ := readMember_eq_ok_iff.mp h
  · exact fitsCondition_of_readPredicate hnode
  · exact hgroup _ _ _ _ hcondition

/-- Groups that are read fit. -/
theorem fitsCondition_of_readGroup {any : Bool} {node : Value} {path : Locator}
    {condition : Condition T} (h : readGroup engine levels any node path = .ok condition) :
    FitsCondition engine levels condition := by
  induction levels generalizing any node path condition with
  | zero => exact absurd h readGroup_zero
  | succ levels ih =>
    obtain ⟨cs, -, members, rfl, hmembers⟩ := readGroup_eq_ok_iff.mp h
    rw [fitsCondition_group_iff]
    exact forall_of_forall₂ hmembers fun _ _ hmember =>
      fitsCondition_of_readMember (fun _ _ _ _ => ih) hmember

/-- A body fits and is in normal form if the branches in it do and are. -/
theorem fitsBody_of_readBody_of_readBranch
    (hbranch : ∀ negated node path branch,
      readBranch engine levels negated node path = .ok branch →
      FitsStep engine levels branch.toStep ∧ branch.toStep.normalEntries = [branch.toStep])
    {body : Body} {node : Value} {path : Locator} {step : Option (Step T)}
    (h : readBody engine levels body node path = .ok step) :
    FitsBody engine levels step ∧ Step.normalBody step = step := by
  obtain ⟨cs, -, steps, rfl, hsteps⟩ := readBody_eq_ok_iff.mp h
  have hentries : ∀ step ∈ steps, FitsStep engine levels step ∧
      step.normalEntries = [step] := by
    refine forall_of_forall₂ hsteps fun child step hstep => ?_
    obtain ⟨negated, -, branch, hread, rfl⟩ | ⟨hname, node, hnode, rfl⟩ :=
      readEntry_eq_ok_iff.mp hstep
    · exact hbranch _ _ _ _ hread
    · exact ⟨fitsStep_of_readConsumer hname hnode, by rw [Step.normalEntries]⟩
  refine ⟨fitsBody_compose_iff.mpr fun step hstep => (hentries step hstep).1, ?_⟩
  rw [Step.normalBody_compose,
    Step.normalEntriesAll_eq_self fun step hstep => (hentries step hstep).2]

/-- Branches that are read fit and are in normal form. -/
theorem fitsStep_of_readBranch {negated : Bool} {node : Value} {path : Locator}
    {branch : Branch T} (h : readBranch engine levels negated node path = .ok branch) :
    FitsStep engine levels branch.toStep ∧ branch.toStep.normalEntries = [branch.toStep] := by
  induction levels generalizing negated node path branch with
  | zero => exact absurd h readBranch_zero
  | succ levels ih =>
    have hbody : ∀ body node path step, readBody engine levels body node path = .ok step →
        FitsBody engine levels step ∧ Step.normalBody step = step :=
      fun _ _ _ _ => fitsBody_of_readBody_of_readBranch fun _ _ _ _ => ih
    obtain ⟨cs, -, -, -, hcondition, hthen, elseBody, helse, helses⟩ :=
      readBranch_eq_ok_iff.mp h
    have hcondition : FitsCondition engine levels branch.condition :=
      forall_of_forall₂ hcondition
        (fun _ _ h => fitsCondition_of_readMember (fun _ _ _ _ => fitsCondition_of_readGroup) h)
        _ (List.mem_singleton_self _)
    have hthen : FitsBody engine levels branch.thenBody ∧
        Step.normalBody branch.thenBody = branch.thenBody :=
      forall_of_forall₂ hthen (fun _ _ => hbody _ _ _ _) _ (List.mem_singleton_self _)
    have helse : FitsBody engine levels branch.elseBody ∧
        Step.normalBody branch.elseBody = branch.elseBody := by
      rw [helse]
      cases elseBody with
      | none => exact ⟨fits_nil, rfl⟩
      | some body =>
        exact forall_of_forall₂ helses (fun _ _ => hbody _ _ _ _) _ (List.mem_singleton_self _)
    refine ⟨fitsStep_branch_iff.mpr ⟨hcondition, hthen.1, helse.1⟩, ?_⟩
    rw [Branch.toStep, Step.normalEntries, hthen.2, helse.2]

/-- **What is read fits the engine and is in normal form.** -/
theorem fitsBody_of_readBody {body : Body} {node : Value} {path : Locator} {step : Option (Step T)}
    (h : readBody engine levels body node path = .ok step) :
    FitsBody engine levels step ∧ Step.normalBody step = step :=
  fitsBody_of_readBody_of_readBranch (fun _ _ _ _ => fitsStep_of_readBranch) h

end DecisionFlow.Document
