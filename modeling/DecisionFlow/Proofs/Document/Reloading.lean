import DecisionFlow.Engine.Files
import DecisionFlow.Proofs.Document.Canonical
import DecisionFlow.Proofs.Document.RoundTrip
import DecisionFlow.Proofs.Json.Loading
import DecisionFlow.Proofs.Json.Repeats
import DecisionFlow.Proofs.Payload.Fields

/-!
# Loading what was saved

A flow that came from a JSON text is written in a shape that may nest deeper than the text did. Its
own text is read back unless that shape is too deep for the format.

- `Document.distinct_of_mem_canonicalChildren`: the canonical form repeats no field.
- `Engine.parse_json_pretty`: what becomes of the text of a document.
- `Flow.deep`, `Engine.parse_render_deep`: a family of flows that are written twice as deep as they
  were read.
- `Engine.parse_render_of_parse`: what becomes of the text of a flow that came from a text.
- `Engine.exists_not_parse_render`: such a flow whose text cannot be read back.
-/

namespace DecisionFlow

/-! ## Canonical documents repeat no field -/

namespace Document

variable {discriminator : String}

theorem distinct_ofFields {fields : Fields} (h : ∀ field ∈ fields, field.2.Distinct) :
    (ofFields fields).Distinct := by
  rw [ofFields, Value.distinct_array_iff, List.forall_mem_map]
  exact fun field hfield => Value.distinct_single (h field hfield)

theorem mem_of_mem_arranged {children : Fields} {child : String × Value}
    (h : child ∈ arranged children) : child ∈ children := by
  rw [arranged, List.mem_append, List.mem_append] at h
  obtain (h | h) | h := h
  · exact List.mem_of_mem_filter h
  · exact List.mem_of_mem_filter h
  · exact List.mem_of_mem_filter (List.mem_of_mem_filter h)

theorem not_mem_names_without (fields : Fields) (name : String) :
    name ∉ Fields.names (Fields.without fields name) := by
  rw [Fields.names, List.mem_map]
  rintro ⟨field, hfield, rfl⟩
  obtain ⟨-, hne⟩ := List.mem_filter.mp hfield
  exact absurd rfl (bne_iff_ne.mp hne)

/-- Moving a field to the front repeats none. -/
theorem distinct_discriminatorFirst {node : Value} (h : node.Distinct) :
    (discriminatorFirst discriminator node).Distinct := by
  cases node with
  | object fields =>
    rw [discriminatorFirst]
    cases hkind : Fields.get? fields discriminator with
    | none => exact h
    | some kind =>
      obtain ⟨hnames, hvalues⟩ := Value.distinct_object_iff.mp h
      have hrest : (Fields.names (Fields.without fields discriminator)).Nodup :=
        hnames.sublist (List.filter_sublist.map _)
      refine Value.distinct_object_iff.mpr ⟨?_, List.forall_mem_cons.mpr ⟨?_, ?_⟩⟩
      · exact List.nodup_cons.mpr ⟨not_mem_names_without fields discriminator, hrest⟩
      · exact hvalues _ (Fields.mem_of_get?_eq_some hkind)
      · exact fun field hfield => hvalues field (List.mem_of_mem_filter hfield)
  | _ => exact h

/-- A configuration repeats a field no more than its node does. -/
theorem distinct_configuration {node : Value} (h : node.Distinct) :
    (configuration node).Distinct := by
  cases node with
  | null => exact Value.distinct_object_iff.mpr ⟨List.nodup_nil, List.forall_mem_nil _⟩
  | _ => exact h

/-- A canonical node repeats no field if its configuration and its children do not. -/
theorem distinct_canonicalNode (name : String) {node : Value} {children : Fields}
    (hnode : node.Distinct) (hchildren : ∀ child ∈ children, child.2.Distinct) :
    (canonicalNode discriminator name node children).Distinct := by
  rw [canonicalNode]
  split
  · exact distinct_ofFields fun child hchild => hchildren child (mem_of_mem_arranged hchild)
  · exact distinct_ofFields fun child hchild => hchildren child (mem_of_mem_arranged hchild)
  · exact distinct_ofFields hchildren
  · exact distinct_ofFields hchildren
  · exact distinct_ofFields hchildren
  · exact distinct_ofFields hchildren
  · exact distinct_discriminatorFirst hnode
  · exact distinct_configuration hnode

mutual

/-- The canonical children of a document that repeats no field repeat none either. -/
theorem distinct_of_mem_canonicalChildren : ∀ node : Value, node.Distinct →
    ∀ child ∈ canonicalChildren discriminator node, child.2.Distinct
  | .null, _ | .bool _, _ | .number _, _ | .text _, _ => List.forall_mem_nil _
  | .array items, h => distinct_of_mem_canonicalItems items (Value.distinct_array_iff.mp h)
  | .object fields, h => distinct_of_mem_canonicalFields fields (Value.distinct_object_iff.mp h).2

theorem distinct_of_mem_canonicalItems :
    ∀ items : List Value, (∀ item ∈ items, item.Distinct) →
    ∀ child ∈ canonicalItems discriminator items, child.2.Distinct
  | [], _ => List.forall_mem_nil _
  | item :: rest, h => by
    obtain ⟨hitem, hrest⟩ := List.forall_mem_cons.mp h
    have hlater := distinct_of_mem_canonicalItems rest hrest
    cases item with
    | object fields =>
      rw [canonicalItems, List.forall_mem_append]
      exact
        ⟨distinct_of_mem_canonicalFields fields (Value.distinct_object_iff.mp hitem).2, hlater⟩
    | _ => exact hlater

theorem distinct_of_mem_canonicalFields : ∀ fields : List (String × Value),
    (∀ field ∈ fields, field.2.Distinct) →
    ∀ child ∈ canonicalFields discriminator fields, child.2.Distinct
  | [], _ => List.forall_mem_nil _
  | (name, node) :: rest, h => by
    obtain ⟨hnode, hrest⟩ := List.forall_mem_cons.mp h
    rw [canonicalFields, List.forall_mem_cons]
    refine ⟨distinct_canonicalNode name hnode ?_, distinct_of_mem_canonicalFields rest hrest⟩
    exact distinct_of_mem_canonicalChildren node hnode

end

end Document

/-! ## From texts to flows and back -/

variable {T : Type} {engine : Engine T}

/-- Whatever the format, a document that is loaded repeats no field. -/
theorem Format.distinct_of_parse {format : Format} {text : String} {document : Value}
    (h : format.parse text = some document) : document.Distinct := by
  cases format with
  | json =>
    obtain ⟨v, -, rfl⟩ := Option.map_eq_some_iff.mp h
    exact Value.distinct_splitRepeats v
  | yaml =>
    obtain ⟨v, -, rfl⟩ := Option.map_eq_some_iff.mp h
    exact Value.distinct_splitRepeats v

/-- A text is read if it is loaded as a document that is read. -/
theorem Engine.parse_eq_ok_iff {format : Format} {text : String} {flow : Flow T} :
    engine.parse format text = .ok flow ↔
      ∃ document, format.parse text = some document ∧ engine.read document = .ok flow := by
  rw [Engine.parse]
  cases format.parse text with
  | none => simp
  | some document => cases hread : engine.read document <;> simp [Except.mapError, hread]

/-- A JSON text is read as the document that its value is loaded as. -/
theorem Engine.parse_json_of_parse (engine : Engine T) {text : String} {written : Value}
    (h : Json.parse text = .ok written) :
    engine.parse .json text = (engine.read written.splitRepeats).mapError .document := by
  rw [Engine.parse, Format.parse, h]
  rfl

/-- A JSON text is read from its value, with repeated fields split. -/
theorem Engine.parse_json_eq_ok_iff {engine : Engine T} {text : String} {flow : Flow T} :
    engine.parse .json text = .ok flow ↔
      ∃ written, Json.parse text = .ok written ∧
        engine.read written.splitRepeats = .ok flow := by
  rw [Engine.parse_eq_ok_iff, Format.parse]
  cases Json.parse text with
  | error e => simp [Except.toOption]
  | ok written => simp [Except.toOption]

/-- **What becomes of the text of a document** that repeats no field: the document is read, unless
it nests too deeply for the format. -/
theorem Engine.parse_json_pretty {document : Value} (hnumbers : document.ReadsBack)
    (hdistinct : document.Distinct) :
    engine.parse .json (Json.pretty document) =
      if document.depth ≤ Json.depthLimit then (engine.read document).mapError .document
      else .error (.malformed .json) := by
  rw [Engine.parse, Format.parse_json_pretty hnumbers]
  by_cases hdepth : document.depth ≤ Json.depthLimit
  · rw [if_pos hdepth, if_pos hdepth, Value.splitRepeats_eq_self_iff.mpr hdistinct]
  · rw [if_neg hdepth, if_neg hdepth]

/-- A flow that was read is written as the canonical children of its document. -/
theorem Engine.write_eq_ofFields_of_read {document : Value} {flow : Flow T}
    (h : engine.read document = .ok flow) :
    engine.write flow
      = Document.ofFields (Document.canonicalChildren engine.settings.discriminator document) := by
  rw [Engine.write, Flow.write, Document.writeBody_of_readBody
    (fun _ _ _ _ => Document.writeStep_of_readBranch) (Engine.read_eq_ok_iff.mp h)]
  rfl

/-- A flow that was read from a document that repeats no field is written without repetition. -/
theorem Engine.distinct_write_of_read {document : Value} {flow : Flow T}
    (h : engine.read document = .ok flow) (hdistinct : document.Distinct) :
    (engine.write flow).Distinct := by
  rw [Engine.write_eq_ofFields_of_read h]
  exact Document.distinct_ofFields (Document.distinct_of_mem_canonicalChildren document hdistinct)

/-- What was written is read again. -/
theorem Engine.read_write_self {document : Value} {flow : Flow T}
    (h : engine.read document = .ok flow) : engine.read (engine.write flow) = .ok flow := by
  -- What was read fits the engine and is in normal form, so it comes back as it is.
  obtain ⟨hfits, hnormal⟩ := Document.fitsBody_of_readBody (Engine.read_eq_ok_iff.mp h)
  rw [Engine.read_write_of_fits hfits, Flow.normal, hnormal]

/-- The text of a flow is read back, if its written form does not nest too deeply for the format. -/
theorem Engine.parse_render_of_read {document : Value} {flow : Flow T}
    (h : engine.read document = .ok flow) (hdistinct : document.Distinct)
    (hnumbers : (engine.write flow).ReadsBack) :
    engine.parse .json (engine.render flow .json) =
      if (engine.write flow).depth ≤ Json.depthLimit then .ok flow
      else .error (.malformed .json) := by
  rw [Engine.render, Format.render,
    Engine.parse_json_pretty hnumbers (Engine.distinct_write_of_read h hdistinct),
    Engine.read_write_self h]
  rfl

/-! ## Groups within groups -/

/-- Groups within groups, each the only member of the one around it. -/
def Condition.nested : Nat → Condition T
  | 0 => .group false []
  | count + 1 => .group false [nested count]

/-- A flow of one branch, on groups within groups, that does nothing. -/
def Flow.deep (groups : Nat) : Flow T := ⟨some (.branch false (.nested groups) none none)⟩

namespace Document

/-- Groups within groups, one object in the other. -/
def nestedGroups : Nat → Value
  | 0 => .null
  | count + 1 => .object [(Statement.allOf.name, nestedGroups count)]

/-- A document of one branch, on groups within groups. -/
def deepBranch (groups : Nat) : Value :=
  .object [(Statement.ifHolds.name, .object [
    (Statement.thenBody.name, .null),
    (Statement.allOf.name, nestedGroups groups)])]

/-- Nested groups are read if there are levels for all of them. -/
theorem readGroup_nestedGroups (hshape : engine.settings.acceptObjectShape = true)
    {groups budget : Nat} (hbudget : groups < budget) (path : Locator) :
    readGroup engine budget false (nestedGroups groups) path = .ok (.nested groups) := by
  induction groups generalizing budget path with
  | zero =>
    obtain ⟨budget, rfl⟩ : ∃ k, budget = k + 1 := ⟨budget - 1, by omega⟩
    exact readGroup_eq_ok_iff.mpr ⟨[], rfl, [], rfl, .nil⟩
  | succ groups ih =>
    -- Each group takes one level of the budget.
    obtain ⟨budget, rfl⟩ : ∃ k, budget = k + 1 := ⟨budget - 1, by omega⟩
    refine readGroup_eq_ok_iff.mpr ⟨_, if_pos hshape, [.nested groups], rfl, .cons ?_ .nil⟩
    exact readMember_eq_ok_iff.mpr (.inr ⟨false, rfl, ih (by omega) _⟩)

/-- The document is read, if the engine takes objects and does not find it too deep. -/
theorem read_deepBranch (hshape : engine.settings.acceptObjectShape = true) {groups : Nat}
    (hdepth : groups + 1 < engine.settings.maxDepth) :
    engine.read (deepBranch groups) = .ok (Flow.deep groups) := by
  rw [Engine.read_eq_ok_iff]
  obtain ⟨budget, hbudget⟩ : ∃ k, engine.settings.maxDepth = k + 1 :=
    ⟨engine.settings.maxDepth - 1, by omega⟩
  rw [hbudget]
  -- The branch takes the first level, and its groups the ones after it.
  have hbranch : ∀ path, readBranch engine (budget + 1) false (.object [
      (Statement.thenBody.name, .null), (Statement.allOf.name, nestedGroups groups)]) path
      = .ok ⟨false, .nested groups, none, none⟩ := by
    intro path
    refine readBranch_eq_ok_iff.mpr ⟨_, if_pos hshape, ?_, rfl, ?_, ?_, none, rfl, .nil⟩
    · simp [childrenOfFields, Part.ofName?]
    · refine .cons (readMember_eq_ok_iff.mpr (.inr ⟨false, rfl, ?_⟩)) .nil
      exact readGroup_nestedGroups hshape (by omega) _
    · exact .cons (readBody_eq_ok_iff.mpr ⟨[], rfl, [], rfl, .nil⟩) .nil
  refine readBody_eq_ok_iff.mpr ⟨_, if_pos hshape,
    [Branch.toStep ⟨false, .nested groups, none, none⟩], rfl, .cons ?_ .nil⟩
  exact readEntry_eq_ok_iff.mpr (.inl ⟨false, rfl, _, hbranch _, rfl⟩)

/-- Each group nests one level deeper. -/
theorem depth_nestedGroups (groups : Nat) : (nestedGroups groups).depth = groups := by
  induction groups with
  | zero => rfl
  | succ groups ih =>
    simp only [nestedGroups, Value.depth, Value.depthFields, ih]
    omega

theorem distinct_nestedGroups (groups : Nat) : (nestedGroups groups).Distinct := by
  induction groups with
  | zero => trivial
  | succ groups ih => exact Value.distinct_single ih

theorem distinct_deepBranch (groups : Nat) : (deepBranch groups).Distinct := by
  refine Value.distinct_single (Value.distinct_object_iff.mpr ⟨?_, ?_⟩)
  · show [Statement.thenBody.name, Statement.allOf.name].Nodup
    decide
  · rw [List.forall_mem_cons, List.forall_mem_singleton]
    exact ⟨trivial, distinct_nestedGroups groups⟩

theorem floats_nestedGroups (groups : Nat) : (nestedGroups groups).floats = [] := by
  induction groups with
  | zero => rfl
  | succ groups ih =>
    simp only [nestedGroups, Value.floats, Value.floatsOfFields, ih, List.append_nil]

theorem depth_writeCondition_nested (discriminator : String) (groups : Nat) :
    (writeCondition (T := T) discriminator (.nested groups)).depth = 2 * groups + 2 := by
  induction groups with
  | zero => rfl
  | succ groups ih =>
    simp only [Condition.nested, writeCondition, writeConditions, Value.single, Value.depth,
      Value.depthItems, Value.depthFields, ih]
    omega

theorem floats_writeCondition_nested (discriminator : String) (groups : Nat) :
    (writeCondition (T := T) discriminator (.nested groups)).floats = [] := by
  induction groups with
  | zero => rfl
  | succ groups ih =>
    simp only [Condition.nested, writeCondition, writeConditions, Value.single, Value.floats,
      Value.floatsOfItems, Value.floatsOfFields, ih, List.append_nil]

end Document

/-- Every group takes up two levels of the text: an array and an object. -/
theorem Engine.depth_write_deep (engine : Engine T) (groups : Nat) :
    (engine.write (Flow.deep groups)).depth = 2 * groups + 5 := by
  simp only [Engine.write, Flow.write, Flow.deep, Document.writeBody, Document.writeStep,
    Value.single, Value.depth, Value.depthItems, Value.depthFields,
    Document.depth_writeCondition_nested]
  omega

/-- There is no number in it that could be lost. -/
theorem Engine.readsBack_write_deep (engine : Engine T) (groups : Nat) :
    (engine.write (Flow.deep groups)).ReadsBack := by
  have hfloats : (engine.write (Flow.deep groups)).floats = [] := by
    simp only [Engine.write, Flow.write, Flow.deep, Document.writeBody, Document.writeStep,
      Value.single, Value.floats, Value.floatsOfItems, Value.floatsOfFields,
      Document.floats_writeCondition_nested, List.append_nil]
  rw [Value.ReadsBack, hfloats]
  exact List.forall_mem_nil _

/-- The branch is loaded from a text that nests as deep as its groups, but for two levels. -/
theorem Engine.parse_pretty_deepBranch (hshape : engine.settings.acceptObjectShape = true)
    {groups : Nat} (hdepth : groups + 1 < engine.settings.maxDepth)
    (hlimit : groups + 2 ≤ Json.depthLimit) :
    engine.parse .json (Json.pretty (Document.deepBranch groups)) = .ok (Flow.deep groups) := by
  have hnumbers : (Document.deepBranch groups).ReadsBack := by
    rw [Value.ReadsBack]
    simp [Document.deepBranch, Value.floats, Value.floatsOfFields, Document.floats_nestedGroups]
  have hshallow : (Document.deepBranch groups).depth ≤ Json.depthLimit := by
    simp only [Document.deepBranch, Value.depth, Value.depthFields, Document.depth_nestedGroups]
    omega
  rw [Engine.parse_json_pretty hnumbers (Document.distinct_deepBranch groups), if_pos hshallow,
    Document.read_deepBranch hshape hdepth]
  rfl

/-- **Twice as deep**: the text that the branch is written as nests at every group by two levels,
and is read back as long as the format allows so many. -/
theorem Engine.parse_render_deep (hshape : engine.settings.acceptObjectShape = true)
    {groups : Nat} (hdepth : groups + 1 < engine.settings.maxDepth) :
    engine.parse .json (engine.render (Flow.deep groups) .json) =
      if 2 * groups + 5 ≤ Json.depthLimit then .ok (Flow.deep groups)
      else .error (.malformed .json) := by
  rw [Engine.parse_render_of_read (Document.read_deepBranch hshape hdepth)
    (Document.distinct_deepBranch groups) (engine.readsBack_write_deep groups),
    Engine.depth_write_deep]

/-- **The text of a flow that came from a text is read back as the same flow**, if its written form
does not nest too deeply for the format; otherwise it is refused as malformed. -/
theorem Engine.parse_render_of_parse {text : String} {flow : Flow T}
    (h : engine.parse .json text = .ok flow) (hnumbers : (engine.write flow).ReadsBack) :
    engine.parse .json (engine.render flow .json) =
      if (engine.write flow).depth ≤ Json.depthLimit then .ok flow
      else .error (.malformed .json) := by
  obtain ⟨document, hdocument, hread⟩ := Engine.parse_eq_ok_iff.mp h
  exact Engine.parse_render_of_read hread (Format.distinct_of_parse hdocument) hnumbers

/-- The deepest such branch that is read back. -/
theorem Engine.parse_render_deepest :
    ∃ text flow, Builtin.engine.parse .json text = .ok flow ∧
      (Builtin.engine.write flow).ReadsBack ∧
      Builtin.engine.parse .json (Builtin.engine.render flow .json) = .ok flow := by
  have hparse : Builtin.engine.parse .json (Json.pretty (Document.deepBranch 61)) = .ok _ :=
    Engine.parse_pretty_deepBranch rfl (by decide) (by decide)
  have hnumbers := Builtin.engine.readsBack_write_deep 61
  refine ⟨_, _, hparse, hnumbers, ?_⟩
  rw [Engine.parse_render_of_parse hparse hnumbers, Engine.depth_write_deep]
  rfl

/-- One group more, and the text of the flow cannot be read, although the flow came from a text. -/
theorem Engine.exists_not_parse_render :
    ∃ text flow, Builtin.engine.parse .json text = .ok flow ∧
      Builtin.engine.parse .json (Builtin.engine.render flow .json) =
        .error (.malformed .json) := by
  have hparse : Builtin.engine.parse .json (Json.pretty (Document.deepBranch 62)) = .ok _ :=
    Engine.parse_pretty_deepBranch rfl (by decide) (by decide)
  exact ⟨_, _, hparse, Engine.parse_render_deep rfl (by decide)⟩

end DecisionFlow
