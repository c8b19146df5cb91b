import DecisionFlow.Proofs.Builtin.Commuting
import DecisionFlow.Proofs.Flow.Calls

/-!
# How runs of built-in flows end

The built-in tests never fail, and a built-in change fails for one of two reasons: the payload is no
object, or a field cannot be set since something else than an object is in its way. An object stays
an object all the same, and another payload is not touched.

- `Builtin.Change.Ends`, `Builtin.Change.ends_apply`: **how a change of an object ends.**
- `Flow.ofTestsAndChanges_of_supplies`, `Builtin.exists_named_of_supplies`: nodes of the built-in
  types are such tests and changes, and the configuration names the field that is set.
- `Flow.run_of_builtins`: how runs end.
-/

namespace DecisionFlow

/-! ## What stands in the way of a path -/

namespace Fields

variable {fields left : Fields} {name segment : String} {rest : List String} {value : Value}

/-- What is in the way is before the end of the path. -/
theorem mem_dropLast_of_checkAssignAt (h : fields.checkAssignAt name rest = .error segment) :
    segment ∈ (name :: rest).dropLast := by
  induction rest generalizing name fields with
  | nil =>
    rw [checkAssignAt] at h
    cases h
  | cons next rest ih =>
    rw [checkAssignAt] at h
    rw [List.dropLast_cons_of_ne_nil (List.cons_ne_nil next rest)]
    cases hheld : fields.get? name with
    | none =>
      rw [hheld] at h
      cases h
    | some held =>
      rw [hheld] at h
      cases held with
      | object inner => exact List.mem_cons_of_mem _ (ih h)
      | _ =>
        cases h
        exact List.mem_cons_self

/-- Nothing is in the way of a value that is put back. -/
theorem checkAssignAt_of_takeAt (h : fields.takeAt name rest = some (value, left)) :
    left.checkAssignAt name rest = .ok () := by
  induction rest generalizing name fields left with
  | nil => rw [checkAssignAt]
  | cons next rest ih =>
    rw [takeAt] at h
    cases hheld : fields.get? name with
    | none =>
      rw [hheld] at h
      cases h
    | some held =>
      rw [hheld] at h
      cases held with
      | object inner =>
        obtain ⟨⟨_, inner'⟩, hinner, heq⟩ := Option.map_eq_some_iff.mp h
        cases heq
        rw [checkAssignAt, get?_insert_self]
        exact ih hinner
      | _ => cases h

end Fields

namespace Value

variable {fields : Fields} {path : FieldPath}

/-- A value that cannot be set is blocked by a segment before the last. -/
theorem exists_blocked_of_checkAssign {failure : Failure}
    (h : (Value.object fields).checkAssign path = .error failure) :
    ∃ segment ∈ path.segments.dropLast, failure = .blocked path.text segment := by
  simp only [checkAssign, requireObject, bind, Except.bind] at h
  cases hcheck : Fields.checkAssignAt path.first path.rest fields with
  | ok _ =>
    rw [hcheck] at h
    cases h
  | error segment =>
    rw [hcheck] at h
    cases h
    exact ⟨segment, Fields.mem_dropLast_of_checkAssignAt hcheck, rfl⟩

/-- What is left of an object when a value has been taken out is an object, to which it can be
returned. -/
theorem exists_left_of_take {value remainder : Value}
    (h : (Value.object fields).take path = .ok (some value, remainder)) :
    ∃ left, remainder = .object left ∧ (Value.object left).checkAssign path = .ok () := by
  simp only [take, requireObject, bind, Except.bind] at h
  cases htake : Fields.takeAt path.first path.rest fields with
  | none =>
    rw [htake] at h
    cases h
  | some taken =>
    rw [htake] at h
    cases h
    refine ⟨_, rfl, ?_⟩
    simp only [checkAssign, requireObject, bind, Except.bind]
    rw [Fields.checkAssignAt_of_takeAt htake]
    rfl

end Value

namespace Builtin

/-! ## Tests and changes -/

/-- A built-in test never fails. -/
theorem Test.total_predicate (t : Test) : Predicate.Total t.predicate :=
  fun payload => ⟨t.holds payload, rfl⟩

namespace Change

/-- How a change of an object ends: with an object, and without a failure unless it sets a field
that something stands in the way of. -/
inductive Ends (c : Change) : EStateM.Result Failure Value Unit → Prop where
  | ok (after : Fields) : Ends c (.ok () (.object after))
  | blocked {target : FieldPath} (htarget : c.target? = some target) {segment : String}
    (hsegment : segment ∈ target.segments.dropLast) (after : Fields) :
    Ends c (.error (.blocked target.text segment) (.object after))

/-- Setting a field ends with the field set, or blocked. -/
theorem ends_setField {c : Change} {field : FieldPath} (htarget : c.target? = some field)
    (value : Value) (fields : Fields) : Ends c (setField field value (.object fields)) := by
  rw [setField_object]
  cases hcheck : (Value.object fields).checkAssign field with
  | ok _ => exact .ok _
  | error failure =>
    obtain ⟨segment, hsegment, rfl⟩ := Value.exists_blocked_of_checkAssign hcheck
    exact .blocked htarget hsegment fields

/-- So does a move, with its target. -/
theorem ends_renameField {c : Change} {source target : FieldPath}
    (htarget : c.target? = some target) (fields : Fields) :
    Ends c (renameField source target (.object fields)) := by
  rw [renameField]
  cases htake : (Value.object fields).take source with
  | error failure =>
    rw [Value.take_object_eq] at htake
    cases htake
  | ok taken =>
    obtain ⟨value, remainder⟩ := taken
    cases value with
    | none => exact .ok fields
    | some value =>
      obtain ⟨left, rfl, hback⟩ := Value.exists_left_of_take htake
      dsimp only
      cases hcheck : (Value.object left).checkAssign target with
      | ok _ => exact ends_setField htarget value left
      | error failure =>
        -- The value is put back, which cannot fail, and the failure is that of the target.
        obtain ⟨segment, hsegment, rfl⟩ := Value.exists_blocked_of_checkAssign hcheck
        dsimp only
        rw [setField_of_checkAssign hback]
        exact .blocked htarget hsegment _

/-- **A change of an object leaves an object, and fails only where a field that it sets is
blocked.** -/
theorem ends_apply (c : Change) (fields : Fields) : Ends c (c.apply (.object fields)) := by
  cases c with
  | uppercase field | lowercase field | trim field | append field suffix =>
    rw [apply, mapText_object]
    exact .ok _
  | set field value => exact ends_setField rfl value fields
  | remove field =>
    rw [apply, removeField_object]
    exact .ok _
  | rename source target => exact ends_renameField rfl fields

namespace Ends

variable {c : Change} {result : EStateM.Result Failure Value Unit}

/-- However a change of an object ends, an object is left. -/
theorem exists_object (h : Ends c result) :
    ∃ after, Consumer.payloadAfter result = .object after := by
  cases h with
  | ok after => exact ⟨after, rfl⟩
  | blocked _ _ after => exact ⟨after, rfl⟩

theorem exists_blocked {failure : Failure} {after : Value} (h : Ends c (.error failure after)) :
    ∃ target segment, c.target? = some target ∧ segment ∈ target.segments.dropLast ∧
      failure = .blocked target.text segment := by
  cases h with
  | blocked htarget hsegment => exact ⟨_, _, htarget, hsegment, rfl⟩

end Ends

/-- The changes that set a field are those of the kinds `set` and `rename`. -/
theorem target?_eq_some_iff {c : Change} {target : FieldPath} :
    c.target? = some target ↔ (∃ value, c = set target value) ∨
    ∃ source, c = rename source target := by
  cases c <;> simp [target?]

end Change

end Builtin

/-! ## Flows of tests and changes -/

/-- A flow whose predicates are built-in tests and whose consumers are built-in changes, under
whatever names. -/
structure Flow.OfTestsAndChanges (flow : Flow Value) : Prop where
  predicates : ∀ node ∈ flow.predicates, ∃ t : Builtin.Test, node.behaviour = t.predicate
  consumers : ∀ node ∈ flow.consumers, ∃ c : Builtin.Change, node.behaviour = c.apply

/-- Nodes that the built-in types supply are tests and changes. -/
theorem Flow.ofTestsAndChanges_of_supplies {flow : Flow Value}
    (hpredicates : ∀ node ∈ flow.predicates, Builtin.conditions.Supplies node)
    (hconsumers : ∀ node ∈ flow.consumers, Builtin.consumers.Supplies node) :
    flow.OfTestsAndChanges where
  predicates node hnode := by
    obtain ⟨t, -, hbehaviour⟩ :=
      Builtin.exists_test_of_build (Registry.build_of_supplies (hpredicates node hnode))
    exact ⟨t, hbehaviour.symm⟩
  consumers node hnode := by
    obtain ⟨c, -, hbehaviour⟩ :=
      Builtin.exists_change_of_build (Registry.build_of_supplies (hconsumers node hnode))
    exact ⟨c, hbehaviour.symm⟩

namespace Flow.OfTestsAndChanges

variable {flow : Flow Value}

theorem calls_run (h : flow.OfTestsAndChanges) (payload : Value) :
    Calls payload (flow.reached payload) (flow.run payload) := by
  refine flow.calls_run (fun node hnode => ?_) payload
  obtain ⟨t, hbehaviour⟩ := h.predicates node hnode
  rw [hbehaviour]
  exact t.total_predicate

/-- Whatever a run calls leaves objects where it finds objects. -/
theorem keeps_objects (h : flow.OfTestsAndChanges) (payload : Value) :
    ∀ node ∈ flow.reached payload, ∀ p : Value, (∃ fields, p = .object fields) →
      ∃ fields, Consumer.payloadAfter (node.behaviour p) = .object fields := by
  rintro node hnode _ ⟨fields, rfl⟩
  obtain ⟨c, hbehaviour⟩ := h.consumers node (Flow.mem_consumers_of_reached hnode)
  rw [hbehaviour]
  exact (c.ends_apply fields).exists_object

end Flow.OfTestsAndChanges

/-- A node of the built-in types that fails for a change of a blocked field names that field. -/
theorem Builtin.exists_named_of_supplies {node : ConsumerNode Value} {failure : Failure}
    (h : consumers.Supplies node)
    (hblocked : ∀ c : Change, node.behaviour = c.apply →
      ∃ target segment, c.target? = some target ∧
      segment ∈ target.segments.dropLast ∧ failure = .blocked target.text segment) :
    ∃ text segment, (node.kind = "set" ∧ node.config.get? "field" = some (.text text) ∨
        node.kind = "rename" ∧ node.config.get? "to" = some (.text text)) ∧
      segment ∈ (FieldPath.ofText text).segments.dropLast ∧
      failure = .blocked text segment := by
  obtain ⟨c, ⟨-, hnamed⟩, hbehaviour⟩ :=
    exists_change_of_build (Registry.build_of_supplies h)
  obtain ⟨target, segment, htarget, hsegment, rfl⟩ := hblocked c hbehaviour.symm
  obtain ⟨hkind, text, htext, rfl⟩ | ⟨hkind, text, htext, rfl⟩ := hnamed target htarget
  · exact ⟨text, segment, .inl ⟨hkind, htext⟩, hsegment, by rw [FieldPath.text_ofText]⟩
  · exact ⟨text, segment, .inr ⟨hkind, htext⟩, hsegment, by rw [FieldPath.text_ofText]⟩

/-- **How runs of built-in flows end.** An object is an object after the run, failed or not. The run
only fails at a consumer that sets a field, and then because a segment of the path before the last
holds something else than an object; a node of the built-in types names that field in its
configuration. Any other payload is left as it was: the run succeeds if it comes to no consumer, and
fails at the first that it comes to. -/
theorem Flow.run_of_builtins {flow : Flow Value} (h : flow.OfTestsAndChanges) :
    (∀ fields : Fields,
      (∃ after, Consumer.payloadAfter (flow.run (.object fields)) = .object after) ∧
      ∀ failure after, flow.run (.object fields) = .error failure after →
        ∃ before node, flow.reached (.object fields) = before ++ [node] ∧
          node ∈ flow.consumers ∧
          (∀ c : Builtin.Change, node.behaviour = c.apply →
            ∃ (target : FieldPath) (segment : String),
            ((∃ value, c = .set target value) ∨ ∃ source, c = .rename source target) ∧
            segment ∈ target.segments.dropLast ∧
            failure.message = "cannot set '" ++ target.text ++ "': '" ++ segment ++
              "' is not an object") ∧
          (Builtin.consumers.Supplies node → ∃ text segment,
            (node.kind = "set" ∧ node.config.get? "field" = some (.text text) ∨
              node.kind = "rename" ∧ node.config.get? "to" = some (.text text)) ∧
            segment ∈ (FieldPath.ofText text).segments.dropLast ∧
            failure.message = "cannot set '" ++ text ++ "': '" ++ segment ++
              "' is not an object")) ∧
    ∀ payload : Value, payload.kind ≠ .object →
      Consumer.payloadAfter (flow.run payload) = payload ∧
      ((flow.reached payload = [] ∧ flow.run payload = .ok () payload) ∨
        ∃ node failure, flow.reached payload = [node] ∧
          flow.run payload = .error failure payload ∧
          failure.message = "expected an object payload, found " ++ payload.kind.phrase) := by
  refine ⟨fun fields => ⟨?object, fun failure after hrun => ?blocked⟩,
    fun payload hkind => ?other⟩
  case object =>
    exact (h.calls_run _).preserves (h.keeps_objects _) ⟨fields, rfl⟩
  case blocked =>
    have hcalls := h.calls_run (.object fields)
    rw [hrun] at hcalls
    obtain ⟨before, node, _, hreached, ⟨between, rfl⟩, hnode⟩ :=
      hcalls.exists_failed (h.keeps_objects _) ⟨fields, rfl⟩
    have hblocked : ∀ c : Builtin.Change, node.behaviour = c.apply → ∃ target segment,
        c.target? = some target ∧ segment ∈ target.segments.dropLast ∧
          failure = .blocked target.text segment := by
      intro c hbehaviour
      have hends := c.ends_apply between
      rw [← hbehaviour, hnode] at hends
      exact hends.exists_blocked
    have hmem : node ∈ flow.reached (.object fields) := by
      rw [hreached]
      exact List.mem_append_right _ (List.mem_singleton_self node)
    refine ⟨before, node, hreached, Flow.mem_consumers_of_reached hmem, ?_, ?_⟩
    · intro c hbehaviour
      obtain ⟨target, segment, htarget, hsegment, rfl⟩ := hblocked c hbehaviour
      exact ⟨target, segment, Builtin.Change.target?_eq_some_iff.mp htarget, hsegment, rfl⟩
    · intro hsupplies
      obtain ⟨text, segment, hnamed, hsegment, rfl⟩ :=
        Builtin.exists_named_of_supplies hsupplies hblocked
      exact ⟨text, segment, hnamed, hsegment, rfl⟩
  case other =>
    have hrefused : ∀ node ∈ flow.reached payload,
        node.behaviour payload = .error (.expectedObject payload.kind) payload := by
      intro node hnode
      obtain ⟨c, hbehaviour⟩ := h.consumers node (Flow.mem_consumers_of_reached hnode)
      rw [hbehaviour]
      exact Builtin.Change.apply_of_kind hkind c
    obtain ⟨hreached, hrun⟩ | ⟨node, hreached, hrun⟩ :=
      (h.calls_run payload).refused hrefused
    · rw [hrun]
      exact ⟨rfl, .inl ⟨hreached, rfl⟩⟩
    · rw [hrun]
      exact ⟨rfl, .inr ⟨node, _, hreached, rfl, rfl⟩⟩

/-- The flow that moves a name and then takes it for an object fails at its last consumer, and on a
payload that is no object at the first that it comes to, which is the same. -/
theorem Flow.run_of_builtins_misnamed :
    (∃ before node text segment,
      Flow.misnamed.reached (.object [("user", .object [("name", .text "Ada")])]) =
        before ++ [node] ∧
      (node.kind = "set" ∧ node.config.get? "field" = some (.text text) ∨
        node.kind = "rename" ∧ node.config.get? "to" = some (.text text)) ∧
      segment ∈ (FieldPath.ofText text).segments.dropLast ∧
      "cannot set 'title.text': 'title' is not an object"
        = "cannot set '" ++ text ++ "': '" ++ segment ++ "' is not an object") ∧
    ∃ node failure, Flow.misnamed.reached .null = [node] ∧
      Flow.misnamed.run .null = .error failure .null ∧
      failure.message = "expected an object payload, found null" := by
  have hsupplies : ∀ node ∈ Flow.misnamed.consumers, Builtin.consumers.Supplies node :=
    Flow.ofBuiltins_misnamed.consumers
  have hbuiltins : Flow.misnamed.OfTestsAndChanges := Flow.ofTestsAndChanges_of_supplies
    (fun node hnode => (Flow.ofBuiltins_misnamed.predicates node hnode).1) hsupplies
  obtain ⟨hobjects, hothers⟩ := Flow.run_of_builtins hbuiltins
  have hrun : Flow.misnamed.run (.object [("user", .object [("name", .text "Ada")])])
      = .error (.blocked "title.text" "title") _ := rfl
  obtain ⟨before, node, hreached, hnode, -, hnamed⟩ := (hobjects _).2 _ _ hrun
  obtain ⟨text, segment, htext, hsegment, hmessage⟩ := hnamed (hsupplies node hnode)
  refine ⟨⟨before, node, text, segment, hreached, htext, hsegment, hmessage⟩, ?_⟩
  obtain ⟨hreached, -⟩ | hfailed := (hothers .null (by decide)).2
  · cases hreached
  · exact hfailed

end DecisionFlow
