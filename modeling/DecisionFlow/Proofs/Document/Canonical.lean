import DecisionFlow.Builtin
import DecisionFlow.Proofs.Document.Reading
import DecisionFlow.Proofs.Document.Writing

/-!
# The canonical form of documents

Reading a document and writing the flow rearranges the tree, without a look at what the nodes do.
This module says how, on trees alone, and shows that it is what the reader and the writer do
together.

- `Document.canonical`: the canonical form of a tree.
- `Document.canonicalChildren`: the children of a node in canonical form, in document order.
- `Engine.write_eq_canonical_of_read`: a document that can be read is written in its canonical form.
-/

namespace DecisionFlow.Document

/-! ## Canonical trees -/

/-- Whether the value is an array without items. -/
def isEmptyArray : Value → Bool
  | .array [] => true
  | _ => false

/-- A condition node with the discriminator in front of its other fields. -/
def discriminatorFirst (discriminator : String) : Value → Value
  | .object fields =>
    match Fields.get? fields discriminator with
    | some kind => .object ((discriminator, kind) :: Fields.without fields discriminator)
    | none => .object fields
  | other => other

/-- The configuration of a consumer: null stands for no fields. -/
def configuration : Value → Value
  | .null => .object []
  | other => other

/-- The children that give a part of a branch, in order. -/
def partOf (part : Part) (children : Fields) : Fields :=
  children.filter (Part.ofName? ·.1 = some part)

/-- The children of a branch in the order condition, `then`, `else`. An empty `else` is left out. -/
def arranged (children : Fields) : Fields :=
  partOf .condition children ++ partOf .thenBody children
    ++ (partOf .elseBody children).filter (!isEmptyArray ·.2)

/-- The canonical form of a child, given its own children in canonical form. -/
def canonicalNode (discriminator name : String) (node : Value) (children : Fields) : Value :=
  match Statement.lookup name with
  | some .ifHolds | some .ifNot => ofFields (arranged children)
  | some .allOf | some .anyOf | some .thenBody | some .elseBody => ofFields children
  | some .condition => discriminatorFirst discriminator node
  | none => configuration node

mutual

/-- The children of a node in canonical form, in document order. -/
def canonicalChildren (discriminator : String) : Value → Fields
  | .array items => canonicalItems discriminator items
  | .object fields => canonicalFields discriminator fields
  | _ => []

/-- The fields of the objects among the items in canonical form. -/
def canonicalItems (discriminator : String) : List Value → Fields
  | [] => []
  | .object fields :: rest =>
    canonicalFields discriminator fields ++ canonicalItems discriminator rest
  | _ :: rest => canonicalItems discriminator rest

/-- Fields in canonical form. -/
def canonicalFields (discriminator : String) : Fields → Fields
  | [] => []
  | (name, node) :: rest =>
    (name, canonicalNode discriminator name node (canonicalChildren discriminator node))
      :: canonicalFields discriminator rest

end

/-- The canonical form of a document. -/
def canonical (discriminator : String) (document : Value) : Value :=
  ofFields (canonicalChildren discriminator document)

/-! ## Canonical fields -/

variable {discriminator : String}

/-- The canonical form of a single child. -/
def canonicalField (discriminator : String) (field : String × Value) : String × Value :=
  (field.1, canonicalNode discriminator field.1 field.2 (canonicalChildren discriminator field.2))

theorem canonicalFields_eq_map (fields : Fields) :
    canonicalFields discriminator fields = fields.map (canonicalField discriminator) := by
  induction fields with
  | nil => rfl
  | cons field rest ih =>
    rw [canonicalFields, ih]
    rfl

/-- Every child has its canonical form among the canonical children, in the same place. -/
theorem canonicalChildren_of_lists {settings : Settings} {node : Value} {fields : Fields}
    (h : Lists settings node fields) :
    canonicalChildren discriminator node = fields.map (canonicalField discriminator) := by
  cases h with
  | null => rfl
  | array objects =>
    rw [canonicalChildren]
    induction objects with
    | nil => rfl
    | cons first rest ih =>
      rw [List.map_cons, canonicalItems, ih, canonicalFields_eq_map, List.flatten_cons,
        List.map_append]
  | object fields => rw [canonicalChildren, canonicalFields_eq_map]

theorem canonicalChildren_of_children {settings : Settings} {node : Value} {path : Locator}
    {cs : List Child} (h : children settings node path = .ok cs) :
    canonicalChildren discriminator node
      = cs.map fun child => canonicalField discriminator child.field := by
  rw [canonicalChildren_of_lists (exists_children_iff.mp ⟨cs, h, rfl⟩), List.map_map]
  rfl

/-- Canonical children give the parts that the children give. -/
theorem partOf_map_canonicalField {part : Part} {cs : List Child} :
    partOf part (cs.map fun child => canonicalField discriminator child.field)
      = (part.among cs).map fun child => canonicalField discriminator child.field := by
  rw [partOf, Part.among, List.filter_map]
  rfl

/-! ## Reading and writing -/

variable {T : Type} {engine : Engine T}

/-- What is written for each result of reading children is written for all of them. -/
theorem map_eq_map_of_forall₂ {α β γ : Type} {R : α → β → Prop} {f : α → γ}
    {g : β → γ} (h : ∀ a b, R a b → f a = g b) {as : List α} {bs : List β}
    (hall : List.Forall₂ R as bs) : as.map f = bs.map g := by
  induction hall with
  | nil => rfl
  | cons hab _ ih => rw [List.map_cons, List.map_cons, h _ _ hab, ih]

/-- A predicate is written back with its discriminator in front. -/
theorem writePredicate_of_readPredicate {value : Value} {path : Locator} {node : PredicateNode T}
    (h : readPredicate engine value path = .ok node) :
    writePredicate engine.settings.discriminator node
      = discriminatorFirst engine.settings.discriminator value := by
  obtain ⟨fields, kind, rfl, hkind, hbuilt⟩ := readPredicate_eq_ok_iff.mp h
  obtain ⟨factory, -, behaviour, -, rfl⟩ := Registry.build_eq_ok_iff.mp hbuilt
  rw [discriminatorFirst, hkind, writePredicate]
  simp only [Fields.without, List.filter_filter, Bool.and_self]

theorem writeCondition_of_readMember {budget : Nat} {any : Bool} {child : Child}
    {condition : Condition T}
    (hgroup : ∀ any node path condition, readGroup engine budget any node path = .ok condition →
      writeCondition engine.settings.discriminator condition
        = .single (Condition.groupStatement any).name
          (ofFields (canonicalChildren engine.settings.discriminator node)))
    (h : readMember engine (readGroup engine budget) any child = .ok condition) :
    writeCondition engine.settings.discriminator condition
      = ofField (canonicalField engine.settings.discriminator child.field) := by
  obtain ⟨name, value, path⟩ := child
  obtain ⟨rfl, node, hnode, rfl⟩ | ⟨inner, rfl, hcondition⟩ := readMember_eq_ok_iff.mp h
  · rw [writeCondition, writePredicate_of_readPredicate hnode]
    rfl
  · rw [hgroup _ _ _ _ hcondition]
    cases inner <;> rfl

/-- A group that is read is written in its canonical form. -/
theorem writeCondition_of_readGroup {budget : Nat} {any : Bool} {node : Value} {path : Locator}
    {condition : Condition T} (h : readGroup engine budget any node path = .ok condition) :
    writeCondition engine.settings.discriminator condition
      = .single (Condition.groupStatement any).name
        (ofFields (canonicalChildren engine.settings.discriminator node)) := by
  induction budget generalizing any node path condition with
  | zero => exact absurd h readGroup_zero
  | succ budget ih =>
    obtain ⟨cs, hcs, members, rfl, hmembers⟩ := readGroup_eq_ok_iff.mp h
    have hwritten := map_eq_map_of_forall₂
      (fun child member (hmember : readMember engine (readGroup engine budget) any child =
          .ok member) =>
        (writeCondition_of_readMember (fun _ _ _ _ => ih) hmember).symm) hmembers
    rw [writeCondition, writeConditions_eq_map, canonicalChildren_of_children hcs, ofFields,
      List.map_map, ← hwritten]
    rfl

/-- An entry that is read is written as one item, its canonical form. -/
theorem writeStep_of_readEntry {budget : Nat} {body : Body} {child : Child} {step : Step T}
    (hbranch : ∀ negated node path branch,
      readBranch engine budget negated node path = .ok branch →
      writeStep engine.settings.discriminator branch.toStep
        = [.single (Branch.statementOf negated).name
          (ofFields (arranged (canonicalChildren engine.settings.discriminator node)))])
    (h : readEntry engine (readBranch engine budget) body child = .ok step) :
    writeStep engine.settings.discriminator step
      = [ofField (canonicalField engine.settings.discriminator child.field)] := by
  obtain ⟨name, value, path⟩ := child
  obtain ⟨negated, rfl, branch, hread, rfl⟩ | ⟨hname, node, hnode, rfl⟩ :=
    readEntry_eq_ok_iff.mp h
  · rw [hbranch _ _ _ _ hread]
    cases negated <;> rfl
  · obtain ⟨fields, hfields, hbuilt⟩ := readConsumer_eq_ok_iff.mp hnode
    obtain ⟨factory, -, behaviour, -, rfl⟩ := Registry.build_eq_ok_iff.mp hbuilt
    rw [writeStep, ofField, canonicalField, Child.field, canonicalNode, hname]
    cases value with
    | null =>
      cases hfields
      rfl
    | object fields' =>
      cases hfields
      rfl
    | _ => cases hfields

/-- A body that is read is written in its canonical form. -/
theorem writeBody_of_readBody {budget : Nat} {body : Body} {node : Value} {path : Locator}
    {step : Option (Step T)}
    (hbranch : ∀ negated node path branch,
      readBranch engine budget negated node path = .ok branch →
      writeStep engine.settings.discriminator branch.toStep
        = [.single (Branch.statementOf negated).name
          (ofFields (arranged (canonicalChildren engine.settings.discriminator node)))])
    (h : readBody engine budget body node path = .ok step) :
    writeBody engine.settings.discriminator step
      = (canonicalChildren engine.settings.discriminator node).map ofField := by
  obtain ⟨cs, hcs, steps, rfl, hsteps⟩ := readBody_eq_ok_iff.mp h
  have hwritten := map_eq_map_of_forall₂
    (fun child step (hstep : readEntry engine (readBranch engine budget) body child = .ok step) =>
      (writeStep_of_readEntry hbranch hstep).symm) hsteps
  rw [canonicalChildren_of_children hcs, writeBody_compose, writeSteps_eq_flatMap, List.flatMap_def,
    ← hwritten, List.map_map, ← List.flatMap_def]
  exact List.map_eq_flatMap.symm

/-- A body in which nothing is written has no step. -/
theorem eq_none_of_canonicalChildren_eq_nil {budget : Nat} {body : Body} {node : Value}
    {path : Locator} {step : Option (Step T)}
    (h : readBody engine budget body node path = .ok step)
    (hempty : canonicalChildren discriminator node = []) : step = none := by
  obtain ⟨cs, hcs, steps, rfl, hsteps⟩ := readBody_eq_ok_iff.mp h
  rw [canonicalChildren_of_children hcs, List.map_eq_nil_iff] at hempty
  subst hempty
  cases hsteps
  rfl

theorem isEmptyArray_ofFields (fields : Fields) :
    isEmptyArray (ofFields fields) = fields.isEmpty := by
  cases fields <;> rfl

theorem eq_singleton_of_forall₂ {α β : Type} {R : α → β → Prop} {xs : List α} {y : β}
    (h : List.Forall₂ R xs [y]) : ∃ x, xs = [x] ∧ R x y := by
  obtain ⟨x, rest, hx, hrest, rfl⟩ := List.forall₂_cons_right_iff.mp h
  rw [List.forall₂_nil_right_iff.mp hrest]
  exact ⟨x, rfl, hx⟩

/-- The canonical form of the body of a side. -/
theorem canonicalField_body {part : Part} {child : Child}
    (hpart : Part.ofName? child.name = some part) (hbody : part ≠ .condition) :
    canonicalField discriminator child.field
      = (child.name, ofFields (canonicalChildren discriminator child.value)) := by
  rw [canonicalField, canonicalNode, Child.field]
  cases part with
  | condition => exact absurd rfl hbody
  | thenBody =>
    rw [Statement.lookup_eq_some_iff.mpr (Part.ofName?_eq_thenBody_iff.mp hpart)]
  | elseBody =>
    rw [Statement.lookup_eq_some_iff.mpr (Part.ofName?_eq_elseBody_iff.mp hpart)]

/-- The `else` of a branch stays if its body has steps. -/
theorem elseField_join {budget : Nat} {node : Value} {path : Locator} {cs : List Child}
    {elseBody : Option (Option (Step T))}
    (hcs : children engine.settings node path = .ok cs)
    (hbody : ∀ node path step, readBody engine budget .elseSide node path = .ok step →
      writeBody engine.settings.discriminator step
        = (canonicalChildren engine.settings.discriminator node).map ofField)
    (h : List.Forall₂ (fun child body =>
      readBody engine budget .elseSide child.value child.path = .ok body)
      (Part.elseBody.among cs) elseBody.toList) :
    elseField engine.settings.discriminator elseBody.join
      = (partOf .elseBody (canonicalChildren engine.settings.discriminator node)).filter
        (!isEmptyArray ·.2) := by
  rw [canonicalChildren_of_children hcs, partOf_map_canonicalField]
  cases elseBody with
  | none =>
    rw [List.forall₂_nil_right_iff.mp h]
    rfl
  | some body =>
    obtain ⟨child, hchild, hread⟩ := eq_singleton_of_forall₂ h
    have hpart := Part.ofName?_of_mem_among (hchild ▸ List.mem_singleton_self child)
    have hwritten := hbody _ _ _ hread
    rw [hchild, List.map_singleton, canonicalField_body hpart (by decide),
      Part.ofName?_eq_elseBody_iff.mp hpart, List.filter_singleton, isEmptyArray_ofFields]
    cases body with
    | none =>
      -- Nothing is written in the body, and its canonical form is dropped with the `else`.
      rw [writeBody, eq_comm, List.map_eq_nil_iff] at hwritten
      rw [hwritten]
      rfl
    | some step =>
      -- A step is there, so the canonical form has an entry and the `else` stays.
      have hne : canonicalChildren engine.settings.discriminator child.value ≠ [] := by
        intro hempty
        cases eq_none_of_canonicalChildren_eq_nil hread hempty
      rw [writeBody] at hwritten
      rw [Option.join_some, elseField, hwritten, List.isEmpty_eq_false_iff.mpr hne]
      rfl

/-- A branch that is read is written in its canonical form. -/
theorem writeStep_of_readBranch {budget : Nat} {negated : Bool} {node : Value} {path : Locator}
    {branch : Branch T} (h : readBranch engine budget negated node path = .ok branch) :
    writeStep engine.settings.discriminator branch.toStep
      = [.single (Branch.statementOf negated).name
        (ofFields (arranged (canonicalChildren engine.settings.discriminator node)))] := by
  induction budget generalizing negated node path branch with
  | zero => exact absurd h readBranch_zero
  | succ budget ih =>
    obtain ⟨cs, hcs, -, rfl, hcondition, hthen, elseBody, helse, helses⟩ :=
      readBranch_eq_ok_iff.mp h
    have hbody : ∀ body node path step, readBody engine budget body node path = .ok step →
        writeBody engine.settings.discriminator step
          = (canonicalChildren engine.settings.discriminator node).map ofField :=
      fun _ _ _ _ => writeBody_of_readBody fun _ _ _ _ => ih
    obtain ⟨first, hfirst, hcondition⟩ := eq_singleton_of_forall₂ hcondition
    obtain ⟨second, hsecond, hthen⟩ := eq_singleton_of_forall₂ hthen
    have hconditions : partOf .condition (canonicalChildren engine.settings.discriminator node)
        = [canonicalField engine.settings.discriminator first.field] := by
      rw [canonicalChildren_of_children hcs, partOf_map_canonicalField, hfirst, List.map_singleton]
    have hthens : partOf .thenBody (canonicalChildren engine.settings.discriminator node)
        = [(Statement.thenBody.name,
            ofFields (canonicalChildren engine.settings.discriminator second.value))] := by
      have hpart := Part.ofName?_of_mem_among (hsecond ▸ List.mem_singleton_self second)
      rw [canonicalChildren_of_children hcs, partOf_map_canonicalField, hsecond, List.map_singleton,
        canonicalField_body hpart (by decide), Part.ofName?_eq_thenBody_iff.mp hpart]
    rw [Branch.toStep, writeStep_branch, helse,
      elseField_join hcs (fun _ _ _ => hbody _ _ _ _) helses,
      writeCondition_of_readMember (fun _ _ _ _ => writeCondition_of_readGroup) hcondition,
      hbody _ _ _ _ hthen, arranged, hconditions, hthens]
    rfl

end DecisionFlow.Document

namespace DecisionFlow

/-- **Reading and writing give the canonical form**: nothing of a document that is read is lost,
repeated, renamed or moved against its siblings, but for the order of the parts of a branch. -/
theorem Engine.write_eq_canonical_of_read {T : Type} {engine : Engine T} {document : Value}
    {flow : Flow T} (h : engine.read document = .ok flow) :
    engine.write flow = Document.canonical engine.settings.discriminator document := by
  have hroot := Engine.read_eq_ok_iff.mp h
  rw [Engine.write, Flow.write, Document.writeBody_of_readBody
    (fun _ _ _ _ => Document.writeStep_of_readBranch) hroot]
  rfl

/-- A document whose branch has its parts in reverse order, an `else` that is null and the form of
one object. -/
def Document.reversedBranch : Value := .object [
  ("trim", .object [("field", .text "name")]),
  ("ifNot", .object [
    ("else", .null),
    ("then", .object []),
    ("condition", .object [("value", .bool true), ("type", .text "always")])])]

/-- A branch whose fields stand in reverse is written with the condition in front. -/
theorem Engine.write_reversedBranch :
    ∃ flow, Builtin.engine.read Document.reversedBranch = .ok flow ∧
      Builtin.engine.write flow = .array [
        .object [("trim", .object [("field", .text "name")])],
        .object [("ifNot", .array [
          .object [("condition", .object [("type", .text "always"), ("value", .bool true)])],
          .object [("then", .array [])]])]] := by
  have hread : Builtin.engine.read Document.reversedBranch = .ok _ := rfl
  exact ⟨_, hread, Engine.write_eq_canonical_of_read hread⟩

end DecisionFlow
