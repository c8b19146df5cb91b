import DecisionFlow.Proofs.Document.Reloading
import DecisionFlow.Proofs.Document.Resemblance

/-!
# Engines that accept no objects as nodes

An engine may be told to accept arrays as nodes only. It refuses a tree in which an object stands at
a position of the grammar, and otherwise reads what every engine reads. Of a text it sees the loaded
tree: an object that repeats a field is an array there, and passes.

- `Engine.read_strict_eq_ok_iff`: the trees that are read.
- `Stands.loaded`, `Stands.written`: the nodes of a text and the nodes that they are loaded as.
- `Engine.parse_strict_eq_ok_iff`: the texts that are read. Objects have to repeat a field.
- `Engine.parse_strict_twoTrims`: a text that is read, although its root is an object.
-/

namespace DecisionFlow

namespace Document

variable {T : Type} {engine : Engine T} {position target : Position} {node found : Value}

/-! ## Trees -/

/-- A tree without objects as nodes is listed alike whether they are accepted or not. -/
theorem resemblance_arraysOnly :
    Resemblance (fun _ => False) false true fun position v w => v = w ∧
    ArraysOnly position v := by
  rintro position v _ ⟨rfl, harrays⟩
  have hlisted : listed true v = listed false v := by
    cases v with
    | object fields => exact absurd (.self position _) (harrays position fields)
    | _ => rfl
  rw [hlisted]
  cases h : listed false v with
  | error problem => exact .error rfl
  | ok fields =>
    refine .ok (List.forall₂_same.mpr fun field hfield => ⟨rfl, ?_⟩)
    rw [eq_childFields_of_listed h] at hfield
    split
    · exact ⟨rfl, harrays.child hfield ‹_›⟩
    · rfl

/-- In a document of an engine that accepts no objects, no object is a node. -/
theorem arraysOnly_of_isNode (hshape : engine.settings.acceptObjectShape = false)
    (hnode : ∃ levels, IsNode engine levels position node) : ArraysOnly position node := by
  intro target fields hstands
  obtain ⟨levels, hobject⟩ := hstands.isNode hnode
  cases hobject.lists with
  | object _ allowed =>
    rw [hshape] at allowed
    cases allowed

/-! ## Texts -/

/-- An object has the same fields below it when it is loaded, be it as an object or as an array. -/
theorem childFields_splitRepeats_object (fields : Fields) :
    childFields (Value.object fields).splitRepeats =
      Fields.mapValues Value.splitRepeats fields := by
  by_cases hnames : (Fields.names fields).Nodup
  · rw [Value.splitRepeats_of_nodup hnames, childFields]
  · rw [Value.splitRepeats_of_not_nodup hnames]
    exact (eq_childFields_of_listed (listed_ofFields true _)).symm

/-- What is below a loaded node was written below the node. -/
theorem exists_childFields_of_splitRepeats {name : String} {child : Value}
    (h : (name, child) ∈ childFields node.splitRepeats) :
    ∃ written, (name, written) ∈ childFields node ∧ child = written.splitRepeats := by
  cases node with
  | array items =>
    rw [Value.splitRepeats_array, mem_childFields_array_iff] at h
    obtain ⟨fields, hitem, hchild⟩ := h
    obtain ⟨item, hmem, hloaded⟩ := List.mem_map.mp hitem
    obtain ⟨written, rfl, -, rfl⟩ := Value.splitRepeats_eq_object_iff.mp hloaded
    obtain ⟨below, hbelow, rfl⟩ := Fields.mem_mapValues_iff.mp hchild
    exact ⟨below, mem_childFields_array_iff.mpr ⟨written, hmem, hbelow⟩, rfl⟩
  | object fields =>
    rw [childFields_splitRepeats_object] at h
    exact Fields.mem_mapValues_iff.mp h
  | _ =>
    rw [Value.splitRepeats_of_scalar (by rfl)] at h
    cases h

/-- If a loaded node lists children, everything written below the node is loaded below it. -/
theorem mem_childFields_splitRepeats {settings : Settings} {fields : Fields} {name : String}
    {child : Value} (hlists : Lists settings node.splitRepeats fields)
    (h : (name, child) ∈ childFields node) :
    (name, child.splitRepeats) ∈ childFields node.splitRepeats := by
  cases node with
  | array items =>
    obtain ⟨written, hitem, hchild⟩ := mem_childFields_array_iff.mp h
    rw [Value.splitRepeats_array] at hlists
    -- The item is loaded as an object, since it is listed.
    have hmem : Value.splitRepeats _ ∈ items.map Value.splitRepeats := List.mem_map_of_mem hitem
    obtain ⟨loaded, hloaded⟩ := hlists.exists_item_eq_object hmem
    obtain ⟨_, hwritten, -, rfl⟩ := Value.splitRepeats_eq_object_iff.mp hloaded
    cases hwritten
    rw [Value.splitRepeats_array, mem_childFields_array_iff]
    exact ⟨_, hloaded ▸ hmem, Fields.mem_mapValues Value.splitRepeats hchild⟩
  | object written =>
    rw [childFields_splitRepeats_object]
    exact Fields.mem_mapValues Value.splitRepeats h
  | _ => cases h

/-- A node that stands in the loaded tree was written, and stands in the tree of the text. -/
theorem Stands.written {loaded : Value} (h : Stands position loaded target found)
    (hloaded : loaded = node.splitRepeats) :
    ∃ written, Stands position node target written ∧ found = written.splitRepeats := by
  induction h generalizing node with
  | self position => exact ⟨node, .self position node, hloaded⟩
  | child hchild hcalled _ ih =>
    subst hloaded
    obtain ⟨below, hbelow, hchild⟩ := exists_childFields_of_splitRepeats hchild
    obtain ⟨written, hstands, hfound⟩ := ih hchild
    exact ⟨written, .child hbelow hcalled hstands, hfound⟩

/-- A node that stands in the tree of the text of a document is loaded, and stands in the loaded
tree. -/
theorem Stands.loaded (h : Stands position node target found)
    (hnode : ∃ levels, IsNode engine levels position node.splitRepeats) :
    Stands position node.splitRepeats target found.splitRepeats := by
  induction h with
  | self => exact .self _ _
  | child hchild hcalled _ ih =>
    obtain ⟨levels, hnode⟩ := hnode
    have hloaded := mem_childFields_splitRepeats hnode.lists hchild
    exact .child hloaded hcalled (ih (hnode.below hloaded hcalled))

/-- In the loaded tree of a document, no object is a node if and only if all that were written as
objects repeat a field. -/
theorem arraysOnly_splitRepeats_iff
    (hnode : ∃ levels, IsNode engine levels position node.splitRepeats) :
    ArraysOnly position node.splitRepeats ↔
      ∀ target fields, Stands position node target (.object fields) →
        ¬ (Fields.names fields).Nodup := by
  constructor
  · intro h target fields hstands hnames
    have hloaded := hstands.loaded hnode
    rw [Value.splitRepeats_of_nodup hnames] at hloaded
    exact h target _ hloaded
  · intro h target fields hstands
    obtain ⟨written, hwritten, hobject⟩ := hstands.written rfl
    obtain ⟨fields', rfl, hnames, -⟩ := Value.splitRepeats_eq_object_iff.mp hobject.symm
    exact h target fields' hwritten hnames

end Document

variable {T : Type}

theorem Engine.isNode_of_read {engine : Engine T} {document : Value} {flow : Flow T}
    (h : engine.read document = .ok flow) :
    ∃ levels, Document.IsNode engine levels .body document :=
  ⟨_, (Document.exists_readBody_iff .root []).mp ⟨_, Engine.read_eq_ok_iff.mp h⟩⟩

/-- **Without objects as nodes, the trees are read in which none stands at a position of the
grammar**, as they are read with them. -/
theorem Engine.read_strict_eq_ok_iff (engine : Engine T) (document : Value) (flow : Flow T) :
    (engine.withObjectShape false).read document = .ok flow ↔
      (engine.withObjectShape true).read document = .ok flow ∧
        Document.ArraysOnly .body document := by
  have halike : Document.ArraysOnly .body document →
      ((engine.withObjectShape false).read document = .ok flow ↔
        (engine.withObjectShape true).read document = .ok flow) :=
    fun harrays =>
      (engine.readAlike_read Document.resemblance_arraysOnly ⟨rfl, harrays⟩).eq_ok_iff
  constructor
  · intro h
    have harrays := Document.arraysOnly_of_isNode rfl (Engine.isNode_of_read h)
    exact ⟨(halike harrays).mp h, harrays⟩
  · rintro ⟨h, harrays⟩
    exact (halike harrays).mpr h

/-- **Without objects as nodes, the texts are read in which every node that is written as an object
repeats a field**, as they are read with them. -/
theorem Engine.parse_strict_eq_ok_iff (engine : Engine T) (text : String) (flow : Flow T) :
    (engine.withObjectShape false).parse .json text = .ok flow ↔
      (engine.withObjectShape true).parse .json text = .ok flow ∧
        ∀ written, Json.parse text = .ok written →
          ∀ position fields, Document.Stands .body written position (.object fields) →
            ¬ (Fields.names fields).Nodup := by
  simp only [Engine.parse_json_eq_ok_iff, Engine.read_strict_eq_ok_iff]
  constructor
  · rintro ⟨written, htext, hread, harrays⟩
    refine ⟨⟨written, htext, hread⟩, fun written' htext' => ?_⟩
    cases htext.symm.trans htext'
    exact (Document.arraysOnly_splitRepeats_iff (Engine.isNode_of_read hread)).mp harrays
  · rintro ⟨⟨written, htext, hread⟩, hrepeat⟩
    exact ⟨written, htext, hread, (Document.arraysOnly_splitRepeats_iff
      (Engine.isNode_of_read hread)).mpr (hrepeat written htext)⟩

/-- The fields of a body with two consumers of one kind. -/
def Document.twoTrims : Fields :=
  [("trim", .single "field" (.text "a")), ("trim", .single "field" (.text "b"))]

/-- Written as one object, the body repeats a field, and is read without objects as nodes. -/
theorem Engine.parse_strict_twoTrims :
    ∃ text flow, Json.parse text = .ok (.object Document.twoTrims) ∧
      Document.Stands .body (.object Document.twoTrims) .body (.object Document.twoTrims) ∧
      (Builtin.engine.withObjectShape false).parse .json text = .ok flow := by
  have htext : Json.parse (Json.pretty (.object Document.twoTrims)) =
      .ok (.object Document.twoTrims) :=
    Json.parse_pretty (List.forall_mem_nil _)
  exact ⟨_, _, htext, .self _ _, Engine.parse_json_eq_ok_iff.mpr ⟨_, htext, rfl⟩⟩

end DecisionFlow
