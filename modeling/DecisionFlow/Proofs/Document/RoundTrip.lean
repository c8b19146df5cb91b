import DecisionFlow.Builtin
import DecisionFlow.Proofs.Document.Fitting
import DecisionFlow.Proofs.Document.Writing
import DecisionFlow.Proofs.Flow.Tally

/-!
# Reading what was written

Every flow that an engine can read fits it, and every flow that fits can be written and read again.

- `Engine.read_write_of_fits`: a flow that fits its engine comes back in normal form.
- `Engine.read_write_of_read`: a flow that was read comes back as it is, under any discriminator
  that its configurations leave free and whichever shapes are accepted.
- `Engine.read_write_refines`: a flow built by hand comes back with the same counts and runs alike.
-/

namespace DecisionFlow.Document

variable {T : Type} {engine : Engine T} {levels : Nat}

/-! ## Written children -/

/-- The children of an array of single-field objects are the fields. -/
theorem lists_ofFields (settings : Settings) (fields : Fields) :
    Lists settings (ofFields fields) fields := by
  have h : Lists settings _ _ := Lists.array (fields.map ([·]))
  have hitems : (fields.map ([·])).map Value.object = fields.map ofField := by
    rw [List.map_map]
    rfl
  have hfields : (fields.map ([·])).flatten = fields := by
    rw [← List.flatMap_def, List.flatMap_singleton']
  rwa [hitems, hfields] at h

theorem exists_children_ofFields (settings : Settings) (fields : Fields) (path : Locator) :
    ∃ cs, children settings (ofFields fields) path = .ok cs ∧ cs.map Child.field = fields :=
  exists_children_iff.mpr (lists_ofFields settings fields)

/-- What fields are read as wherever they stand, they are read as among the children. -/
theorem exists_forall₂_children {α : Type} {settings : Settings} (read : Child → α → Prop)
    {fields : Fields} {ys : List α} (path : Locator)
    (h : List.Forall₂ (fun field y => ∀ path, read ⟨field.1, field.2, path⟩ y) fields ys) :
    ∃ cs, children settings (ofFields fields) path = .ok cs ∧ List.Forall₂ read cs ys := by
  obtain ⟨cs, hcs, rfl⟩ := exists_children_ofFields settings fields path
  refine ⟨cs, hcs, ?_⟩
  rw [List.forall₂_map_left_iff] at h
  exact h.imp fun child _ hread => hread child.path

/-! ## Conditions -/

/-- A predicate that the engine supplies is read back as it was written. -/
theorem readPredicate_writePredicate {node : PredicateNode T} {path : Locator}
    (h : FitsCondition engine levels (.predicate node)) :
    readPredicate engine (writePredicate engine.settings.discriminator node) path = .ok node := by
  obtain ⟨hbuilt, hfree⟩ := h.predicate node (by simp [Condition.predicates])
  have hwithout : Fields.without node.config engine.settings.discriminator = node.config := by
    refine List.filter_eq_self.mpr fun field hfield => ?_
    have hne : field.1 ≠ engine.settings.discriminator := fun heq =>
      hfree (heq ▸ List.mem_map_of_mem hfield)
    simpa using hne
  refine readPredicate_eq_ok_iff.mpr ⟨_, node.kind, rfl, ?_, ?_⟩
  · rw [Fields.get?_cons, if_pos rfl]
  · rw [hwithout, Fields.without, List.filter_cons_of_neg (by simp)]
    rw [← Fields.without, hwithout]
    exact hbuilt

mutual

/-- A condition that fits is written as a field that is read as the condition. -/
theorem readMember_writeCondition :
    ∀ (condition : Condition T) {levels : Nat}, FitsCondition engine levels condition →
      ∃ field, writeCondition engine.settings.discriminator condition = ofField field ∧
        ∀ any path, readMember engine (readGroup engine levels) any ⟨field.1, field.2, path⟩
          = .ok condition
  | .predicate node, levels, h => by
    refine ⟨(Statement.condition.name, _), by rw [writeCondition]; rfl, fun any path => ?_⟩
    exact readMember_eq_ok_iff.mpr (.inl ⟨rfl, node, readPredicate_writePredicate h, rfl⟩)
  | .group any members, levels, h => by
    -- The group takes up one level, and its members are read with the rest.
    have hshallow := h.shallow
    rw [Condition.depth] at hshallow
    obtain ⟨rest, rfl⟩ : ∃ rest, levels = rest + 1 := ⟨levels - 1, by omega⟩
    obtain ⟨fields, hwritten, hmembers⟩ :=
      readMember_writeConditions members (fitsCondition_group_iff.mp h)
    refine ⟨((Condition.groupStatement any).name, ofFields fields), ?_, fun any' path => ?_⟩
    · rw [writeCondition, hwritten]
      rfl
    · refine readMember_eq_ok_iff.mpr (.inr ⟨any, rfl, readGroup_eq_ok_iff.mpr ?_⟩)
      obtain ⟨cs, hcs, hread⟩ := exists_forall₂_children
        (fun child member => readMember engine (readGroup engine rest) any child = .ok member) path
        (hmembers.imp fun _ _ hmember path => hmember path any)
      exact ⟨cs, hcs, members, rfl, hread⟩

/-- Conditions that fit are read back one by one, wherever they lie. -/
theorem readMember_writeConditions :
    ∀ (members : List (Condition T)) {levels : Nat},
      (∀ member ∈ members, FitsCondition engine levels member) →
      ∃ fields : Fields,
        writeConditions engine.settings.discriminator members = fields.map ofField ∧
        List.Forall₂ (fun field member => ∀ path any,
          readMember engine (readGroup engine levels) any ⟨field.1, field.2, path⟩ = .ok member)
          fields members
  | [], levels, _ => ⟨[], by rw [writeConditions]; rfl, .nil⟩
  | member :: rest, levels, h => by
    obtain ⟨hmember, hrest⟩ := List.forall_mem_cons.mp h
    obtain ⟨field, hwritten, hread⟩ := readMember_writeCondition member hmember
    obtain ⟨fields, hwrittenRest, hreadRest⟩ := readMember_writeConditions rest hrest
    refine ⟨field :: fields, ?_, .cons (fun path any => hread any path) hreadRest⟩
    rw [writeConditions, hwritten, hwrittenRest, List.map_cons]

end

/-! ## Bodies -/

/-- What is read as a member stands under the name of a condition. -/
theorem Part.ofName?_of_readMember {any : Bool} {child : Child} {condition : Condition T}
    (h : readMember engine (readGroup engine levels) any child = .ok condition) :
    Part.ofName? child.name = some .condition := by
  rw [Part.ofName?_eq_condition_iff]
  obtain ⟨hname, -⟩ | ⟨inner, hname, -⟩ := readMember_eq_ok_iff.mp h
  · rw [hname]
    exact List.mem_cons_self
  · rw [hname]
    cases inner <;> decide

/-- A body that is written is read again in normal form. -/
def Restored (engine : Engine T) (levels : Nat) (body : Option (Step T)) : Prop :=
  ∀ side path,
    readBody engine levels side (.array (writeBody engine.settings.discriminator body)) path
      = .ok (Step.normalBody body)

/-- A branch is read from a condition and the sides that it is written with. -/
theorem readBranch_ofFields (negated : Bool) (path : Locator) {condition : Condition T}
    {field : String × Value} {thenBody elseBody : Option (Step T)}
    (hcondition : ∀ any path,
      readMember engine (readGroup engine levels) any ⟨field.1, field.2, path⟩ = .ok condition)
    (hthen : Restored engine levels thenBody) (helse : Restored engine levels elseBody) :
    readBranch engine (levels + 1) negated
        (ofFields (field
          :: (Statement.thenBody.name, .array (writeBody engine.settings.discriminator thenBody))
          :: elseField engine.settings.discriminator elseBody)) path
      = .ok ⟨negated, condition, Step.normalBody thenBody, Step.normalBody elseBody⟩ := by
  obtain ⟨cs, hcs, hfields⟩ := exists_children_ofFields engine.settings
    (field :: (Statement.thenBody.name, .array (writeBody engine.settings.discriminator thenBody))
      :: elseField engine.settings.discriminator elseBody) path
  -- The children are the fields in some places, and each gives another part.
  obtain ⟨first, bodies, rfl, rfl, hbodies⟩ := List.map_eq_cons_iff.mp hfields
  obtain ⟨second, elses, rfl, hsecond, helses⟩ := List.map_eq_cons_iff.mp hbodies
  have hfirstRead : readMember engine (readGroup engine levels) false first = .ok condition :=
    hcondition false first.path
  have hfirstPart : Part.ofName? first.name = some .condition :=
    Part.ofName?_of_readMember hfirstRead
  have hsecondPart : Part.ofName? second.name = some .thenBody :=
    Part.ofName?_eq_thenBody_iff.mpr (congrArg Prod.fst hsecond)
  have hsecondRead : readBody engine levels .thenSide second.value second.path
      = .ok (Step.normalBody thenBody) := by
    rw [show second.value = _ from congrArg Prod.snd hsecond]
    exact hthen ..
  refine readBranch_eq_ok_iff.mpr ⟨_, hcs, ?_⟩
  cases elseBody with
  | none =>
    cases List.map_eq_nil_iff.mp helses
    refine ⟨?_, rfl, ?_, ?_, none, rfl, ?_⟩
    · simp [hfirstPart, hsecondPart]
    · simpa [Part.among, hfirstPart, hsecondPart] using hfirstRead
    · simpa [Part.among, hfirstPart, hsecondPart] using hsecondRead
    · simp [Part.among, hfirstPart, hsecondPart]
  | some step =>
    obtain ⟨third, others, rfl, hthird, hothers⟩ := List.map_eq_cons_iff.mp helses
    cases List.map_eq_nil_iff.mp hothers
    have hthirdPart : Part.ofName? third.name = some .elseBody :=
      Part.ofName?_eq_elseBody_iff.mpr (congrArg Prod.fst hthird)
    have hthirdRead : readBody engine levels .elseSide third.value third.path
        = .ok (Step.normalBody (some step)) := by
      rw [show third.value = _ from congrArg Prod.snd hthird, ← writeBody]
      exact helse ..
    refine ⟨?_, rfl, ?_, ?_, some (Step.normalBody (some step)), rfl, ?_⟩
    · simp [hfirstPart, hsecondPart, hthirdPart]
    · simpa [Part.among, hfirstPart, hsecondPart, hthirdPart] using hfirstRead
    · simpa [Part.among, hfirstPart, hsecondPart, hthirdPart] using hsecondRead
    · simpa [Part.among, hfirstPart, hsecondPart, hthirdPart] using hthirdRead

/-- Fields that are read, wherever they stand, as these entries of a body. -/
def ReadAs (engine : Engine T) (levels : Nat) (fields : Fields) (entries : List (Step T)) : Prop :=
  List.Forall₂ (fun field entry => ∀ path side,
    readEntry engine (readBranch engine levels) side ⟨field.1, field.2, path⟩ = .ok entry)
    fields entries

mutual

/-- A step that fits is written as fields that are read as the entries it stands for. -/
theorem readAs_writeStep :
    ∀ (step : Step T) {levels : Nat}, FitsStep engine levels step →
      ∃ fields : Fields, writeStep engine.settings.discriminator step = fields.map ofField ∧
        ReadAs engine levels fields step.normalEntries
  | .consumer node, levels, h => by
    obtain ⟨hbuilt, hname⟩ := h.consumer node (by simp [Step.consumers])
    refine ⟨[(node.kind, .object node.config)], by rw [writeStep]; rfl, ?_⟩
    rw [Step.normalEntries]
    refine .cons (fun path side => ?_) .nil
    refine readEntry_eq_ok_iff.mpr (.inr ⟨hname, node, ?_, rfl⟩)
    exact readConsumer_eq_ok_iff.mpr ⟨node.config, rfl, hbuilt⟩
  | .branch negated condition thenBody elseBody, levels, h => by
    have hshallow := h.shallow
    rw [Step.depth] at hshallow
    obtain ⟨rest, rfl⟩ : ∃ rest, levels = rest + 1 := ⟨levels - 1, by omega⟩
    obtain ⟨hcondition, hthen, helse⟩ := fitsStep_branch_iff.mp h
    obtain ⟨field, hwritten, hread⟩ := readMember_writeCondition condition hcondition
    refine ⟨[((Branch.statementOf negated).name, ofFields (field
      :: (Statement.thenBody.name, .array (writeBody engine.settings.discriminator thenBody))
      :: elseField engine.settings.discriminator elseBody))], ?_, ?_⟩
    · rw [writeStep_branch, hwritten]
      rfl
    · rw [Step.normalEntries]
      refine .cons (fun path side => ?_) .nil
      have hbranch := readBranch_ofFields negated path hread
        (restored_of_fits thenBody hthen) (restored_of_fits elseBody helse)
      exact readEntry_eq_ok_iff.mpr (.inl ⟨negated, rfl, _, hbranch, rfl⟩)
  | .sequence steps, levels, h => by
    -- A sequence is written in line: its fields are those of its members.
    rw [FitsStep, Step.predicates, Step.consumers, Step.depth] at h
    obtain ⟨fields, hwritten, hread⟩ := readAs_writeSteps steps (fitsStep_all_iff.mp h)
    refine ⟨fields, by rw [writeStep, hwritten], ?_⟩
    rw [Step.normalEntries]
    exact hread

/-- **A body that fits comes back in normal form.** -/
theorem restored_of_fits :
    ∀ (body : Option (Step T)) {levels : Nat}, FitsBody engine levels body →
      Restored engine levels body
  | none, levels, _ => fun side path => by
    -- An absent body is written as an array without items, in which no step is read.
    rw [writeBody, Step.normalBody]
    exact readBody_eq_ok_iff.mpr ⟨[], rfl, [], rfl, .nil⟩
  | some step, levels, h => fun side path => by
    obtain ⟨fields, hwritten, hread⟩ := readAs_writeStep step h
    rw [writeBody, hwritten, Step.normalBody]
    obtain ⟨cs, hcs, hentries⟩ := exists_forall₂_children
      (fun child entry => readEntry engine (readBranch engine levels) side child = .ok entry) path
      (hread.imp fun _ _ hentry path => hentry path side)
    exact readBody_eq_ok_iff.mpr ⟨cs, hcs, step.normalEntries, rfl, hentries⟩

theorem readAs_writeSteps :
    ∀ (steps : List (Step T)) {levels : Nat},
      (∀ step ∈ steps, FitsStep engine levels step) →
      ∃ fields : Fields, writeSteps engine.settings.discriminator steps = fields.map ofField ∧
        ReadAs engine levels fields (Step.normalEntriesAll steps)
  | [], levels, _ => ⟨[], by rw [writeSteps]; rfl, by rw [Step.normalEntriesAll]; exact .nil⟩
  | step :: rest, levels, h => by
    obtain ⟨hstep, hrest⟩ := List.forall_mem_cons.mp h
    obtain ⟨fields, hwritten, hread⟩ := readAs_writeStep step hstep
    obtain ⟨fieldsRest, hwrittenRest, hreadRest⟩ := readAs_writeSteps rest hrest
    refine ⟨fields ++ fieldsRest, ?_, ?_⟩
    · rw [writeSteps, hwritten, hwrittenRest, List.map_append]
    · rw [Step.normalEntriesAll]
      exact List.rel_append hread hreadRest

end

end DecisionFlow.Document

namespace DecisionFlow

variable {T : Type} {engine : Engine T}

/-! ## Flows -/

/-- A flow that fits its engine comes back in normal form. -/
theorem Engine.read_write_of_fits {flow : Flow T}
    (h : Document.FitsBody engine engine.settings.maxDepth flow.root) :
    engine.read (engine.write flow) = .ok flow.normal :=
  Engine.read_eq_ok_iff.mpr (Document.restored_of_fits flow.root h .root [])

/-- **What was read and is written can be read again**, and gives the same flow: under the engine's
own discriminator, and under every other that no configuration of a predicate has as a field. Which
shapes are accepted does not matter. -/
theorem Engine.read_write_of_read {document : Value} {flow : Flow T}
    (h : engine.read document = .ok flow) :
    (∀ node ∈ flow.predicates, engine.settings.discriminator ∉ Fields.names node.config) ∧
    ∀ settings : Settings, settings.maxDepth = engine.settings.maxDepth →
      (∀ node ∈ flow.predicates, settings.discriminator ∉ Fields.names node.config) →
      Engine.read { engine with settings } (flow.write settings.discriminator) = .ok flow := by
  obtain ⟨hfits, hnormal⟩ := Document.fitsBody_of_readBody (Engine.read_eq_ok_iff.mp h)
  refine ⟨fun node hnode => (hfits.predicate node hnode).2, ?_⟩
  intro settings hdepth hfree
  have hfits' : Document.FitsBody { engine with settings } settings.maxDepth flow.root :=
    ⟨fun node hnode => ⟨(hfits.predicate node hnode).1, hfree node hnode⟩, hfits.consumer,
      hdepth ▸ hfits.shallow⟩
  have hread := Engine.read_write_of_fits hfits'
  rwa [show flow.normal = flow from congrArg Flow.mk hnormal] at hread

/-- A document with a group and all children of a node in one object. -/
def Document.groupedBranch : Value := .object [
  ("if", .object [
    ("then", .object [("trim", .object [("field", .text "name")])]),
    ("anyOf", .object [
      ("allOf", .null),
      ("condition", .object [("value", .bool true), ("type", .text "always")])])])]

theorem Engine.read_write_groupedBranch :
    ∃ flow, Builtin.engine.read Document.groupedBranch = .ok flow ∧
      Engine.read
        { Builtin.engine with settings := { discriminator := "kind", acceptObjectShape := false } }
        (flow.write "kind") = .ok flow := by
  have hread : Builtin.engine.read Document.groupedBranch = .ok _ := rfl
  refine ⟨_, hread, (Engine.read_write_of_read hread).2 _ rfl ?_⟩
  decide

/-- A registry that builds, from the kind and the configuration of a node, what behaves like it. -/
def Registry.Supplies {R : Type} (r : Registry (T → R)) (node : Node (T → R)) : Prop :=
  ∃ built, r.build node.kind node.config = .ok built ∧
    ∀ payload, built.behaviour payload = node.behaviour payload

/-- A supplied node is what its registry builds for its kind and configuration. -/
theorem Registry.build_of_supplies {R : Type} {r : Registry (T → R)} {node : Node (T → R)}
    (h : r.Supplies node) : r.build node.kind node.config = .ok node := by
  obtain ⟨built, hbuilt, hbehaviour⟩ := h
  obtain ⟨factory, -, behaviour, -, rfl⟩ := Registry.build_eq_ok_iff.mp hbuilt
  have hsame : behaviour = node.behaviour := funext hbehaviour
  rw [hbuilt, hsame]

/-- **A flow that was built by hand comes back with the same behaviour** when it is written and
read, if the registries supply its nodes, no name in it clashes with the grammar and it is not too
deep. Its sequences may be nested and empty. The flow that comes back has the same counts, its runs
end alike on every payload, and its traced runs count the same consumers. -/
theorem Engine.read_write_refines (flow : Flow T)
    (hpredicates : ∀ node ∈ flow.predicates,
      engine.conditions.Supplies node ∧
      engine.settings.discriminator ∉ Fields.names node.config)
    (hconsumers : ∀ node ∈ flow.consumers,
      engine.consumers.Supplies node ∧ ∀ statement : Statement, node.kind ≠ statement.name)
    (hdepth : flow.depth ≤ engine.settings.maxDepth) :
    ∃ back, engine.read (engine.write flow) = .ok back ∧ back.statistics = flow.statistics ∧
      ∀ payload, back.run payload = flow.run payload ∧
        TracedRun.tally back.runTraced payload = TracedRun.tally flow.runTraced payload := by
  refine ⟨flow.normal, Engine.read_write_of_fits ⟨?_, ?_, hdepth⟩,
    flow.statistics_normal, ?_⟩
  · intro node hnode
    obtain ⟨hsupplies, hfree⟩ := hpredicates node hnode
    exact ⟨Registry.build_of_supplies hsupplies, hfree⟩
  · intro node hnode
    obtain ⟨hsupplies, hname⟩ := hconsumers node hnode
    exact ⟨Registry.build_of_supplies hsupplies, Statement.lookup_eq_none_iff.mpr hname⟩
  · intro payload
    exact ⟨congrFun flow.run_normal payload, congrFun flow.tally_runTraced_normal payload⟩

open Builtin in
/-- A flow with a sequence in a sequence, and with sequences that are empty. -/
def Flow.nested : Flow Value := ⟨some (.sequence [
  .sequence [],
  .branch true (.group false [.predicate ⟨"always", [], (Test.always true).predicate⟩]) none
    (some (.sequence [])),
  .sequence [.consumer
    ⟨"trim", [("field", .text "name")], (Change.trim (.ofText "name")).apply⟩]])⟩

theorem Engine.read_write_nested :
    ∃ back, Builtin.engine.read (Builtin.engine.write Flow.nested) = .ok back ∧
      back.statistics = Flow.nested.statistics ∧
      ∀ payload, back.run payload = Flow.nested.run payload ∧
        TracedRun.tally back.runTraced payload = TracedRun.tally Flow.nested.runTraced payload := by
  refine Engine.read_write_refines Flow.nested ?_ ?_ (by decide)
  · intro node hnode
    obtain rfl : node = _ := List.mem_singleton.mp hnode
    exact ⟨⟨_, rfl, fun _ => rfl⟩, by decide⟩
  · intro node hnode
    obtain rfl : node = _ := List.mem_singleton.mp hnode
    exact ⟨⟨_, rfl, fun _ => rfl⟩, fun statement => by cases statement <;> decide⟩

end DecisionFlow
