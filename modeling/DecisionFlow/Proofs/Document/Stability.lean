import DecisionFlow.Builtin
import DecisionFlow.Proofs.Document.RoundTrip
import DecisionFlow.Proofs.Flow.Places

/-!
# Writing what was read from what was written

A flow that is put together by hand can have shapes that no document is read as. Written, read and
written again, it gives the document of its normal form. That is the document it gave before, but
for the `else` of branches in which the side is there and holds no entry: the first document has it
as an empty body, and the second leaves it out.

- `Document.writeBody_normalBody_eq_iff`: which bodies are written like their normal forms.
- `Document.StandsIn`, `Document.exists_standsIn`: a step of nodes that the registries accept is
  written like one that fits the engine.
- `Engine.write_read_write_eq_iff`: the document is the same again unless an `else` is hollow.
- `Engine.write_read_write_hollowElse_ne`: a flow whose document is not the same again.
-/

namespace DecisionFlow

variable {T : Type}

namespace Document

variable {discriminator : String}

/-! ## What is written of normal forms -/

mutual

/-- A step is written as one item for each entry it stands for. -/
theorem length_writeStep :
    ∀ step : Step T, (writeStep discriminator step).length = step.flatten.length
  | .consumer _ => by
    rw [writeStep, Step.flatten]
    · rfl
    · nofun
  | .branch .. => by
    rw [writeStep_branch, Step.flatten]
    · rfl
    · nofun
  | .sequence steps => by rw [writeStep, Step.flatten, length_writeSteps steps]

theorem length_writeSteps : ∀ steps : List (Step T),
    (writeSteps discriminator steps).length = (Step.flattenAll steps).length
  | [] => by
    rw [writeSteps, Step.flattenAll]
    rfl
  | step :: rest => by
    rw [writeSteps, Step.flattenAll, List.length_append, List.length_append, length_writeStep step,
      length_writeSteps rest]

end

/-- The normal body of a step is written as its normal entries. -/
theorem writeBody_normalBody (step : Step T) :
    writeBody discriminator (Step.normalBody (some step))
      = writeSteps discriminator step.normalEntries := by
  rw [Step.normalBody, writeBody_compose]

/-- The normal form is written as just as many items. -/
theorem length_writeSteps_normalEntries (step : Step T) :
    (writeSteps discriminator step.normalEntries).length =
      (writeStep discriminator step).length := by
  rw [length_writeSteps, (Step.composed_normalEntries step).flattenAll_eq_self,
    Step.length_normalEntries, length_writeStep]

/-- The `else` child is there if the side is, and holds what is written of it. -/
theorem elseField_eq (body : Option (Step T)) :
    elseField discriminator body
      = if body.isSome then [(Statement.elseBody.name, .array (writeBody discriminator body))]
        else [] := by
  cases body with
  | none => rfl
  | some step =>
    rw [writeBody]
    rfl

/-- The `else` child stays if the side is not hollow and its entries stay. -/
theorem elseField_normalBody_eq_iff (body : Option (Step T)) :
    elseField discriminator (Step.normalBody body) = elseField discriminator body ↔
      Step.hollow body = false ∧
        writeBody discriminator (Step.normalBody body) = writeBody discriminator body := by
  rw [elseField_eq, elseField_eq, Step.isSome_normalBody]
  cases body with
  | none => simp [Step.hollow, Step.normalBody]
  | some step =>
    cases Step.hollow (some step) with
    | true => simp
    | false => simp

/-- The written object tells the field. -/
theorem ofField_injective : Function.Injective ofField := by
  rintro ⟨name, value⟩ ⟨name', value'⟩ h
  simp only [ofField, Value.single, Value.object.injEq, List.cons.injEq, Prod.mk.injEq,
    and_true] at h
  rw [h.1, h.2]

/-- A branch is written like one with other sides if the sides are written alike. -/
theorem writeStep_branch_eq_iff {negated : Bool} {condition : Condition T}
    {thenBody thenBody' elseBody elseBody' : Option (Step T)} :
    writeStep discriminator (.branch negated condition thenBody elseBody)
        = writeStep discriminator (.branch negated condition thenBody' elseBody') ↔
      writeBody discriminator thenBody = writeBody discriminator thenBody' ∧
        elseField discriminator elseBody = elseField discriminator elseBody' := by
  rw [writeStep_branch, writeStep_branch]
  simp only [List.cons.injEq, ofField_injective.eq_iff, Prod.mk.injEq, Value.array.injEq, true_and,
    and_true, (List.map_injective_iff.mpr ofField_injective).eq_iff]

/-- No `else` among branches is there without an entry. -/
def NoHollowElse (places : List (Site T)) : Prop :=
  ∀ place ∈ places, Step.hollow place.branch.elseBody = false

theorem noHollowElse_nil : NoHollowElse ([] : List (Site T)) := fun _ h => nomatch h

theorem noHollowElse_append_iff {places more : List (Site T)} :
    NoHollowElse (places ++ more) ↔ NoHollowElse places ∧ NoHollowElse more :=
  List.forall_mem_append

mutual

/-- **A step is written like its normal form if no `else` in it is hollow**, and only then. -/
theorem writeSteps_normalEntries_eq_iff : ∀ (step : Step T) (body : Locator) (index : Nat),
    writeSteps discriminator step.normalEntries = writeStep discriminator step ↔
      NoHollowElse (step.places body index)
  | .consumer node, body, index => by
    rw [Step.normalEntries, sequential_writeStep.singleton, Step.places]
    exact iff_of_true rfl noHollowElse_nil
  | .branch negated condition thenBody elseBody, body, index => by
    rw [Step.normalEntries, sequential_writeStep.singleton, writeStep_branch_eq_iff,
      elseField_normalBody_eq_iff, Step.places, NoHollowElse,
        List.forall_mem_cons, ← NoHollowElse,
      noHollowElse_append_iff, writeBody_normalBody_eq_iff thenBody,
      writeBody_normalBody_eq_iff elseBody]
    exact and_left_comm
  | .sequence steps, body, index => by
    rw [Step.normalEntries, writeStep, Step.places]
    exact writeSteps_normalEntriesAll_eq_iff steps body 0

/-- A body is written alike in normal form exactly when it holds no hollow `else`. -/
theorem writeBody_normalBody_eq_iff : ∀ (body : Option (Step T)) (path : Locator),
    writeBody discriminator (Step.normalBody body) = writeBody discriminator body ↔
      NoHollowElse (Step.placesBody path body)
  | none, path => by
    rw [Step.normalBody, Step.placesBody]
    exact iff_of_true rfl noHollowElse_nil
  | some step, path => by
    rw [writeBody_normalBody, writeBody, Step.placesBody]
    exact writeSteps_normalEntries_eq_iff step path 0

/-- Steps are written alike in normal form exactly when they hold no hollow `else`. -/
theorem writeSteps_normalEntriesAll_eq_iff :
    ∀ (steps : List (Step T)) (body : Locator) (index : Nat),
      writeSteps discriminator (Step.normalEntriesAll steps) = writeSteps discriminator steps ↔
        NoHollowElse (Step.placesAll body index steps)
  | [], body, index => by
    rw [Step.normalEntriesAll, Step.placesAll]
    exact iff_of_true rfl noHollowElse_nil
  | step :: rest, body, index => by
    -- What is written of the first step has the same length, so the lists are equal part by part.
    rw [Step.normalEntriesAll, sequential_writeStep.append, writeSteps, Step.placesAll,
      noHollowElse_append_iff, ← writeSteps_normalEntries_eq_iff step body index,
      ← writeSteps_normalEntriesAll_eq_iff rest body (index + 1)]
    constructor
    · exact fun h => List.append_inj h (length_writeSteps_normalEntries step)
    · rintro ⟨hstep, hrest⟩
      rw [hstep, hrest]

end

/-! ## Nodes that the registries accept -/

/-- A body is hollow if it is there and nothing is written of it. -/
theorem hollow_eq (discriminator : String) (body : Option (Step T)) :
    Step.hollow body = (body.isSome && (writeBody discriminator body).isEmpty) := by
  cases body with
  | none => rfl
  | some step =>
    rw [Step.hollow, writeBody, Option.isSome_some, Bool.true_and, Bool.eq_iff_iff,
      List.isEmpty_iff_length_eq_zero, List.isEmpty_iff_length_eq_zero, length_writeStep]

end Document

/-- A registry that builds something from the kind and the configuration of a node, whatever it
does. -/
def Registry.Accepts {B : Type} (r : Registry B) (node : Node B) : Prop :=
  ∃ built, r.build node.kind node.config = .ok built

/-- What is built for an accepted node is built again from its own kind and configuration. -/
theorem Registry.Accepts.exists_built {B : Type} {r : Registry B} {node : Node B}
    (h : r.Accepts node) :
    ∃ built, r.build built.kind built.config = .ok built ∧ built.kind = node.kind ∧
      built.config = node.config := by
  obtain ⟨built, hbuilt⟩ := h
  refine ⟨built, Registry.build_self hbuilt, ?_⟩
  obtain ⟨factory, -, behaviour, -, rfl⟩ := Registry.build_eq_ok_iff.mp hbuilt
  exact ⟨rfl, rfl⟩

namespace Document

variable {engine : Engine T}

/-- A predicate that is accepted, with a configuration that leaves the discriminator free. -/
def AcceptedPredicate (engine : Engine T) (node : PredicateNode T) : Prop :=
  engine.conditions.Accepts node ∧ engine.settings.discriminator ∉ Fields.names node.config

/-- A consumer that is accepted, with a kind that is no statement. -/
def AcceptedConsumer (engine : Engine T) (node : ConsumerNode T) : Prop :=
  engine.consumers.Accepts node ∧ Statement.lookup node.kind = none

/-- Nodes that are accepted. -/
structure Accepted (engine : Engine T) (predicates : List (PredicateNode T))
    (consumers : List (ConsumerNode T)) : Prop where
  predicate : ∀ node ∈ predicates, AcceptedPredicate engine node
  consumer : ∀ node ∈ consumers, AcceptedConsumer engine node

/-- What is accepted together is accepted apart. -/
theorem Accepted.of_append {predicates predicates' : List (PredicateNode T)}
    {consumers consumers' : List (ConsumerNode T)}
    (h : Accepted engine (predicates ++ predicates') (consumers ++ consumers')) :
    Accepted engine predicates consumers ∧ Accepted engine predicates' consumers' := by
  obtain ⟨hpredicate, hconsumer⟩ := h
  rw [List.forall_mem_append] at hpredicate hconsumer
  exact ⟨⟨hpredicate.1, hconsumer.1⟩, ⟨hpredicate.2, hconsumer.2⟩⟩

mutual

/-- A condition of accepted predicates is written like one that fits. -/
theorem exists_standsIn_condition : ∀ condition : Condition T,
    (∀ node ∈ condition.predicates, AcceptedPredicate engine node) →
    ∃ other : Condition T,
      writeCondition engine.settings.discriminator other
        = writeCondition engine.settings.discriminator condition ∧
      ∀ levels, condition.depth ≤ levels → FitsCondition engine levels other
  | .predicate node, h => by
    obtain ⟨haccepts, hfree⟩ := h node (by simp [Condition.predicates])
    obtain ⟨built, hbuilt, hkind, hconfig⟩ := haccepts.exists_built
    refine ⟨.predicate built, ?_, fun levels _ => ⟨?_, fun _ h => (nomatch h), ?_⟩⟩
    · rw [writeCondition, writeCondition, writePredicate, writePredicate, hkind, hconfig]
    · intro other hother
      rw [Condition.predicates, List.mem_singleton] at hother
      subst hother
      exact ⟨hbuilt, hconfig ▸ hfree⟩
    · rw [Condition.depth]
      exact Nat.zero_le _
  | .group any members, h => by
    rw [Condition.predicates] at h
    obtain ⟨others, hwritten, hfits⟩ := exists_standsIn_conditions members h
    refine ⟨.group any others, ?_, fun levels hdepth => ?_⟩
    · rw [writeCondition, writeCondition, hwritten]
    · rw [Condition.depth] at hdepth
      obtain ⟨rest, rfl⟩ : ∃ rest, levels = rest + 1 := ⟨levels - 1, by omega⟩
      exact fitsCondition_group_iff.mpr (hfits rest (by omega))

/-- For conditions of accepted predicates there are others, written alike, that fit. -/
theorem exists_standsIn_conditions : ∀ members : List (Condition T),
    (∀ node ∈ Condition.predicatesAll members, AcceptedPredicate engine node) →
    ∃ others : List (Condition T),
      writeConditions engine.settings.discriminator others
        = writeConditions engine.settings.discriminator members ∧
      ∀ levels, Condition.depthMembers members ≤ levels →
        ∀ other ∈ others, FitsCondition engine levels other
  | [], _ => ⟨[], rfl, fun _ _ _ h => nomatch h⟩
  | member :: rest, h => by
    rw [Condition.predicatesAll, List.forall_mem_append] at h
    obtain ⟨first, hfirst, hfirstFits⟩ := exists_standsIn_condition member h.1
    obtain ⟨others, hothers, hothersFit⟩ := exists_standsIn_conditions rest h.2
    refine ⟨first :: others, ?_, fun levels hdepth => List.forall_mem_cons.mpr ⟨?_, ?_⟩⟩
    · rw [writeConditions, writeConditions, hfirst, hothers]
    · rw [Condition.depthMembers, Nat.max_le] at hdepth
      exact hfirstFits levels hdepth.1
    · rw [Condition.depthMembers, Nat.max_le] at hdepth
      exact hothersFit levels hdepth.2

end

/-- A body that is written like another, in normal form as well, and fits as far as the depth of the
other does. -/
structure StandsIn (engine : Engine T) (body other : Option (Step T)) : Prop where
  present : other.isSome = body.isSome
  written : writeBody engine.settings.discriminator other
    = writeBody engine.settings.discriminator body
  rewritten : writeBody engine.settings.discriminator (Step.normalBody other)
    = writeBody engine.settings.discriminator (Step.normalBody body)
  fits : ∀ levels, Step.depthBody body ≤ levels → FitsBody engine levels other

/-- A stand-in has its `else` written alike. -/
theorem StandsIn.elseField {body other : Option (Step T)} (h : StandsIn engine body other) :
    elseField engine.settings.discriminator other =
      elseField engine.settings.discriminator body := by
  rw [elseField_eq, elseField_eq, h.present, h.written]

/-- A stand-in has its `else` written alike in normal form as well. -/
theorem StandsIn.elseField_normalBody {body other : Option (Step T)}
    (h : StandsIn engine body other) :
    Document.elseField engine.settings.discriminator (Step.normalBody other)
      = Document.elseField engine.settings.discriminator (Step.normalBody body) := by
  rw [elseField_eq, elseField_eq, Step.isSome_normalBody, Step.isSome_normalBody,
    hollow_eq engine.settings.discriminator, h.present, h.written, ← hollow_eq, h.rewritten]

mutual

theorem exists_standsIn_step : ∀ step : Step T, Accepted engine step.predicates step.consumers →
    ∃ other : Step T, StandsIn engine (some step) (some other)
  | .consumer node, h => by
    obtain ⟨haccepts, hkind⟩ := h.consumer node (by simp [Step.consumers])
    obtain ⟨built, hbuilt, hbuiltKind, hbuiltConfig⟩ := haccepts.exists_built
    refine ⟨.consumer built, rfl, ?_, ?_,
      fun levels _ => ⟨fun _ h => ?_, fun other hother => ?_, ?_⟩⟩
    · rw [writeBody, writeBody, writeStep, writeStep, hbuiltKind, hbuiltConfig]
    · rw [writeBody_normalBody, writeBody_normalBody, Step.normalEntries, Step.normalEntries,
        sequential_writeStep.singleton, sequential_writeStep.singleton, writeStep, writeStep,
          hbuiltKind,
        hbuiltConfig]
    · rw [Step.predicatesBody, Step.predicates] at h
      cases h
    · rw [Step.consumersBody, Step.consumers, List.mem_singleton] at hother
      subst hother
      exact ⟨hbuilt, hbuiltKind ▸ hkind⟩
    · rw [Step.depthBody, Step.depth]
      exact Nat.zero_le _
  | .branch negated condition thenBody elseBody, h => by
    obtain ⟨hpredicate, hconsumer⟩ := h
    rw [Step.predicates, List.append_assoc, List.forall_mem_append] at hpredicate
    rw [Step.consumers] at hconsumer
    have hsides : Accepted engine _ _ := ⟨hpredicate.2, hconsumer⟩
    obtain ⟨hthen, helse⟩ := hsides.of_append
    obtain ⟨condition', hwritten, hfits⟩ := exists_standsIn_condition condition hpredicate.1
    obtain ⟨thenBody', hthen⟩ := exists_standsIn thenBody hthen
    obtain ⟨elseBody', helse⟩ := exists_standsIn elseBody helse
    refine ⟨.branch negated condition' thenBody' elseBody', rfl, ?_, ?_,
      fun levels hdepth => ?_⟩
    · rw [writeBody, writeBody, writeStep_branch, writeStep_branch, hwritten, hthen.written,
        helse.elseField]
    · rw [writeBody_normalBody, writeBody_normalBody, Step.normalEntries, Step.normalEntries,
        sequential_writeStep.singleton, sequential_writeStep.singleton, writeStep_branch,
        writeStep_branch, hwritten, hthen.rewritten, helse.elseField_normalBody]
    · rw [Step.depthBody, Step.depth] at hdepth
      obtain ⟨rest, rfl⟩ : ∃ rest, levels = rest + 1 := ⟨levels - 1, by omega⟩
      rw [FitsBody, Step.predicatesBody, Step.consumersBody, Step.depthBody]
      exact fitsStep_branch_iff.mpr
        ⟨hfits rest (by omega), hthen.fits rest (by omega), helse.fits rest (by omega)⟩
  | .sequence steps, h => by
    rw [Step.predicates, Step.consumers] at h
    obtain ⟨others, hwritten, hrewritten, hfits⟩ := exists_standsIn_steps steps h
    refine ⟨.sequence others, rfl, ?_, ?_, fun levels hdepth => ?_⟩
    · rw [writeBody, writeBody, writeStep, writeStep, hwritten]
    · rw [writeBody_normalBody, writeBody_normalBody, Step.normalEntries, Step.normalEntries,
        hrewritten]
    · rw [Step.depthBody, Step.depth] at hdepth
      rw [FitsBody, Step.predicatesBody, Step.consumersBody, Step.depthBody, Step.predicates,
        Step.consumers, Step.depth]
      exact fitsStep_all_iff.mpr (hfits levels hdepth)

/-- **A body of accepted nodes is written like one that fits.** -/
theorem exists_standsIn : ∀ body : Option (Step T),
    Accepted engine (Step.predicatesBody body) (Step.consumersBody body) →
    ∃ other : Option (Step T), StandsIn engine body other
  | none, _ => ⟨none, rfl, rfl, rfl, fun _ _ => fits_nil⟩
  | some step, h => by
    rw [Step.predicatesBody, Step.consumersBody] at h
    obtain ⟨other, hother⟩ := exists_standsIn_step step h
    exact ⟨some other, hother⟩

theorem exists_standsIn_steps : ∀ steps : List (Step T),
    Accepted engine (Step.predicatesAll steps) (Step.consumersAll steps) →
    ∃ others : List (Step T),
      writeSteps engine.settings.discriminator others
        = writeSteps engine.settings.discriminator steps ∧
      writeSteps engine.settings.discriminator (Step.normalEntriesAll others)
        = writeSteps engine.settings.discriminator (Step.normalEntriesAll steps) ∧
      ∀ levels, Step.depthAll steps ≤ levels →
        ∀ other ∈ others, FitsStep engine levels other
  | [], _ => ⟨[], rfl, rfl, fun _ _ _ h => nomatch h⟩
  | step :: rest, h => by
    rw [Step.predicatesAll, Step.consumersAll] at h
    obtain ⟨hstep, hrest⟩ := h.of_append
    obtain ⟨first, hfirst⟩ := exists_standsIn_step step hstep
    obtain ⟨others, hwritten, hrewritten, hfits⟩ := exists_standsIn_steps rest hrest
    have hfirstWritten := hfirst.written
    have hfirstRewritten := hfirst.rewritten
    rw [writeBody, writeBody] at hfirstWritten
    rw [writeBody_normalBody, writeBody_normalBody] at hfirstRewritten
    refine ⟨first :: others, ?_, ?_, fun levels hdepth => List.forall_mem_cons.mpr ⟨?_, ?_⟩⟩
    · rw [writeSteps, writeSteps, hfirstWritten, hwritten]
    · rw [Step.normalEntriesAll, Step.normalEntriesAll, sequential_writeStep.append,
        sequential_writeStep.append, hfirstRewritten, hrewritten]
    · rw [Step.depthAll, Nat.max_le] at hdepth
      have hfirstFits := hfirst.fits levels (by rw [Step.depthBody]; exact hdepth.1)
      rwa [FitsBody, Step.predicatesBody, Step.consumersBody, Step.depthBody] at hfirstFits
    · rw [Step.depthAll, Nat.max_le] at hdepth
      exact hfits levels hdepth.2

end

end Document

/-! ## Flows -/

/-- **A flow that was built by hand, written, read and written again.** The registries accept the
kinds and the configurations of its nodes, no name in it clashes with the grammar and it is not too
deep. Then its document is read, and what is read is written as the normal form of the flow is: like
the flow itself, unless an `else` in the flow is there without an entry. -/
theorem Engine.write_read_write_eq_iff (engine : Engine T) (flow : Flow T)
    (hpredicates : ∀ node ∈ flow.predicates, engine.conditions.Accepts node ∧
      engine.settings.discriminator ∉ Fields.names node.config)
    (hconsumers : ∀ node ∈ flow.consumers, engine.consumers.Accepts node ∧
      ∀ statement : Statement, node.kind ≠ statement.name)
    (hdepth : flow.depth ≤ engine.settings.maxDepth) :
    ∃ back, engine.read (engine.write flow) = .ok back ∧
      engine.write back = engine.write flow.normal ∧
      (engine.write back = engine.write flow ↔
        ∀ place ∈ flow.places, Step.hollow place.branch.elseBody = false) := by
  have haccepted : Document.Accepted engine flow.predicates flow.consumers :=
    ⟨hpredicates, fun node hnode =>
      ⟨(hconsumers node hnode).1, Statement.lookup_eq_none_iff.mpr (hconsumers node hnode).2⟩⟩
  obtain ⟨other, hother⟩ := Document.exists_standsIn flow.root haccepted
  have hread : engine.read (engine.write ⟨other⟩) = .ok (Flow.normal ⟨other⟩) :=
    Engine.read_write_of_fits (hother.fits _ hdepth)
  have hwrite : engine.write ⟨other⟩ = engine.write flow := congrArg Value.array hother.written
  have hwriteBack : engine.write (Flow.normal ⟨other⟩) = engine.write flow.normal :=
    congrArg Value.array hother.rewritten
  refine ⟨Flow.normal ⟨other⟩, hwrite ▸ hread, hwriteBack, ?_⟩
  calc engine.write (Flow.normal ⟨other⟩) = engine.write flow
      ↔ Document.writeBody engine.settings.discriminator (Step.normalBody flow.root)
          = Document.writeBody engine.settings.discriminator flow.root := by
        rw [hwriteBack]
        exact ⟨Value.array.inj, congrArg Value.array⟩
    _ ↔ Document.NoHollowElse flow.places := Document.writeBody_normalBody_eq_iff flow.root []

open Builtin in
/-- A flow with sequences in sequences, one of them empty and in front of a branch whose `then` is
hollow. -/
def Flow.scattered : Flow Value := ⟨some (.sequence [
  .sequence [
    .sequence [],
    .consumer ⟨"trim", [("field", .text "name")], fun payload => .ok () payload⟩],
  .branch true (.predicate ⟨"always", [], (Test.always true).predicate⟩) (some (.sequence []))
    (some (.sequence [
      .sequence [.consumer
        ⟨"trim", [("field", .text "name")], (Change.trim (.ofText "name")).apply⟩]]))])⟩

/-- It has no hollow `else`, so its document is the same again. What its nodes do does not matter:
the first consumer leaves the payload alone, although it is written as one that trims. -/
theorem Engine.write_read_write_scattered :
    ∃ back, Builtin.engine.read (Builtin.engine.write Flow.scattered) = .ok back ∧
      Builtin.engine.write back = Builtin.engine.write Flow.scattered := by
  obtain ⟨back, hread, -, hiff⟩ := Engine.write_read_write_eq_iff Builtin.engine Flow.scattered
    (by
      intro node hnode
      obtain rfl : node = _ := List.mem_singleton.mp hnode
      exact ⟨⟨_, rfl⟩, by decide⟩)
    (by
      intro node hnode
      obtain rfl | hnode := List.mem_cons.mp hnode
      · exact ⟨⟨_, rfl⟩, fun statement => by cases statement <;> decide⟩
      · obtain rfl : node = _ := List.mem_singleton.mp hnode
        exact ⟨⟨_, rfl⟩, fun statement => by cases statement <;> decide⟩)
    (by decide)
  refine ⟨back, hread, hiff.mpr fun place hplace => ?_⟩
  obtain rfl : place = _ := List.mem_singleton.mp hplace
  rfl

open Builtin in
/-- A flow of one branch, whose `else` is there and holds no step. -/
def Flow.hollowElse : Flow Value :=
  ⟨some (.branch false (.predicate ⟨"always", [], (Test.always true).predicate⟩) none
    (some (.sequence [])))⟩

/-- The `else` is written as an empty body, and is gone when the document is read and
written again. -/
theorem Engine.write_read_write_hollowElse_ne :
    (∀ node ∈ Flow.hollowElse.predicates, Builtin.engine.conditions.Supplies node ∧
      Builtin.engine.settings.discriminator ∉ Fields.names node.config) ∧
    Flow.hollowElse.consumers = [] ∧
    Flow.hollowElse.depth ≤ Builtin.engine.settings.maxDepth ∧
    ∃ back, Builtin.engine.read (Builtin.engine.write Flow.hollowElse) = .ok back ∧
      Builtin.engine.write back ≠ Builtin.engine.write Flow.hollowElse := by
  refine ⟨fun node hnode => ?_, rfl, by decide, _, rfl, fun h => ?_⟩
  · obtain rfl : node = _ := List.mem_singleton.mp hnode
    exact ⟨⟨_, rfl, fun _ => rfl⟩, by decide⟩
  · -- The written branches have two children and three.
    cases Value.array.inj h

end DecisionFlow
