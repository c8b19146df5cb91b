import DecisionFlow.Builtin
import DecisionFlow.Proofs.Document.RoundTrip
import DecisionFlow.Proofs.Flow.Numbering

/-!
# Traces of flows that come back

A flow that is put together by hand, written and read takes the same decisions as before. Whether it
records them alike is another matter: a branch in a sequence in a sequence is recorded at one place
and written at another, and a side that is there without an entry comes back absent.

- `Engine.decisions_read_write_eq_iff`: the decisions before and after, one by one, and when they
  agree.
- `Engine.decisions_read_write_branchBehind_ne`: a flow in which two branches are recorded at one
  place.
-/

namespace DecisionFlow

/-- **The decisions of a flow that was built by hand, and of the flow that comes back** when it is
written and read. The registries supply its nodes, no name in it clashes with the grammar and it is
not too deep. If a traced run of it succeeds, that of the flow that comes back does so on the same
payload, with the same payload in the end and as many consumers. Both meet the same branches with
the same results. The flow that comes back records each of them where it is written, so at places
that are distinct. The decisions are equal if and only if each branch was recorded there before and
no side that was selected is hollow. -/
theorem Engine.decisions_read_write_eq_iff {T : Type} (engine : Engine T) (flow : Flow T)
    (hpredicates : ∀ node ∈ flow.predicates,
      engine.conditions.Supplies node ∧
      engine.settings.discriminator ∉ Fields.names node.config)
    (hconsumers : ∀ node ∈ flow.consumers,
      engine.consumers.Supplies node ∧ ∀ statement : Statement, node.kind ≠ statement.name)
    (hdepth : flow.depth ≤ engine.settings.maxDepth)
    {payload after : T} {trace : Trace} (hrun : flow.runTraced payload = .ok trace after) :
    ∃ back trace', engine.read (engine.write flow) = .ok back ∧
      back.runTraced payload = .ok trace' after ∧
      trace'.consumersInvoked = trace.consumersInvoked ∧
      (trace'.decisions.map (·.path)).Nodup ∧
      ∃ met : List (Meeting T), (met.map (·.placement)).Sublist flow.placements ∧
        trace.decisions = met.map Meeting.recorded ∧
        trace'.decisions = met.map Meeting.restored ∧
        (trace.decisions = trace'.decisions ↔
          ∀ m ∈ met, m.placement.recorded = m.placement.written ∧
            Step.hollow m.side = false) := by
  have hfits : Document.FitsBody engine engine.settings.maxDepth flow.root := by
    refine ⟨fun node hnode => ?_, fun node hnode => ?_, hdepth⟩
    · obtain ⟨hsupplies, hfree⟩ := hpredicates node hnode
      exact ⟨Registry.build_of_supplies hsupplies, hfree⟩
    · obtain ⟨hsupplies, hname⟩ := hconsumers node hnode
      exact ⟨Registry.build_of_supplies hsupplies, Statement.lookup_eq_none_iff.mpr hname⟩
  obtain ⟨met, hmet, hdecisions, hnormal⟩ := Flow.exists_met hrun
  refine ⟨flow.normal, _, Engine.read_write_of_fits hfits, hnormal, rfl, ?_, met, hmet,
    hdecisions, rfl, ?_⟩
  · have hpaths : (met.map Meeting.restored).map (·.path)
        = (met.map (·.placement)).map (·.written) := by
      rw [List.map_map, List.map_map]
      rfl
    rw [hpaths]
    exact flow.nodup_written.sublist (hmet.map _)
  · rw [hdecisions, List.map_inj_left]
    exact forall₂_congr fun m _ => m.recorded_eq_restored_iff

/-- A predicate that always passes. -/
def Builtin.alwaysNode : PredicateNode Value := ⟨"always", [], (Test.always true).predicate⟩

/-- The condition of that predicate. -/
def Condition.always : Condition Value := .predicate Builtin.alwaysNode

theorem Builtin.supplies_alwaysNode : Builtin.engine.conditions.Supplies Builtin.alwaysNode ∧
    Builtin.engine.settings.discriminator ∉ Fields.names Builtin.alwaysNode.config :=
  ⟨⟨_, rfl, fun _ => rfl⟩, by decide⟩

open Builtin in
/-- A flow with sequences in sequences, which all stand behind the branches beside them. -/
def Flow.regrouped : Flow Value := ⟨some (.sequence [
  .branch false .always
    (some (.sequence [
      .branch true .always none none,
      .sequence [.consumer
        ⟨"remove", [("field", .text "name")], (Change.remove (.ofText "name")).apply⟩]]))
    none,
  .sequence [.sequence [], .sequence []]])⟩

/-- No branch moves when this flow is written, so it takes the same decisions when it comes back. -/
theorem Engine.decisions_read_write_regrouped :
    ∃ back trace trace' after,
      Builtin.engine.read (Builtin.engine.write Flow.regrouped) = .ok back ∧
      Flow.regrouped.runTraced (.object [("name", .null)]) = .ok trace after ∧
      back.runTraced (.object [("name", .null)]) = .ok trace' after ∧
      trace.decisions.map (·.path.text) = ["$[0].if", "$[0].if[1].then[0].ifNot"] ∧
      trace.decisions = trace'.decisions := by
  have hrun : Flow.regrouped.runTraced (.object [("name", .null)]) = .ok _ _ := rfl
  obtain ⟨back, trace', hread, hback, -, -, met, hmet, -, -, hiff⟩ :=
    Engine.decisions_read_write_eq_iff Builtin.engine Flow.regrouped
      (by
        intro node hnode
        have hnodes : node ∈ [Builtin.alwaysNode, Builtin.alwaysNode] := hnode
        obtain rfl : node = Builtin.alwaysNode := by simpa using hnodes
        exact Builtin.supplies_alwaysNode)
      (by
        intro node hnode
        obtain rfl : node = _ := List.mem_singleton.mp hnode
        exact ⟨⟨_, rfl, fun _ => rfl⟩, fun statement => by cases statement <;> decide⟩)
      (by decide) hrun
  have hplacements : ∀ p ∈ Flow.regrouped.placements, p.recorded = p.written ∧
      ∀ takeThen, Step.hollow (p.branch.side takeThen) = false := by
    intro p hp
    obtain rfl | hp := List.mem_cons.mp hp
    · exact ⟨rfl, fun takeThen => by cases takeThen <;> rfl⟩
    · obtain rfl : p = _ := List.mem_singleton.mp hp
      exact ⟨rfl, fun takeThen => by cases takeThen <;> rfl⟩
  refine ⟨back, _, trace', _, hread, hrun, hback, by decide, hiff.mpr fun m hm => ?_⟩
  obtain ⟨hplace, hside⟩ := hplacements m.placement (hmet.subset (List.mem_map_of_mem hm))
  exact ⟨hplace, hside m.takesThen⟩

/-- A flow with a branch behind another, in a sequence of its own. -/
def Flow.branchBehind : Flow Value := ⟨some (.sequence [
  .branch false .always none none,
  .sequence [.branch false .always none none]])⟩

/-- Both branches are recorded at one place. After writing and reading the second is at another. -/
theorem Engine.decisions_read_write_branchBehind_ne :
    (∀ node ∈ Flow.branchBehind.predicates, Builtin.engine.conditions.Supplies node ∧
      Builtin.engine.settings.discriminator ∉ Fields.names node.config) ∧
    Flow.branchBehind.consumers = [] ∧
    Flow.branchBehind.depth ≤ Builtin.engine.settings.maxDepth ∧
    ∃ back trace trace',
      Builtin.engine.read (Builtin.engine.write Flow.branchBehind) = .ok back ∧
      Flow.branchBehind.runTraced (.object []) = .ok trace (.object []) ∧
      back.runTraced (.object []) = .ok trace' (.object []) ∧
      trace.decisions.map (·.path.text) = ["$[0].if", "$[0].if"] ∧
      trace'.decisions.map (·.path.text) = ["$[0].if", "$[1].if"] ∧
      trace.decisions ≠ trace'.decisions := by
  refine ⟨fun node hnode => ?_, rfl, by decide, _, _, _, rfl, rfl, rfl, by decide, by decide,
    by decide⟩
  have hnodes : node ∈ [Builtin.alwaysNode, Builtin.alwaysNode] := hnode
  obtain rfl : node = Builtin.alwaysNode := by simpa using hnodes
  exact Builtin.supplies_alwaysNode

end DecisionFlow
