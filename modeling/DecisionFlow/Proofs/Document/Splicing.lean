import DecisionFlow.Proofs.Document.Strictness

/-!
# Items in place of an item

The children of a node that is an array are the fields of its items, so an item with several fields
can be replaced by one item for each of them. That is so in every tree. In a text it is so for an
item that repeats no field: an item that does is loaded as an array, and refused among the items.

- `Expands`: an item, somewhere at a position of the grammar, is replaced by items with one field
  each.
- `resemblance_spliced`: the loaded trees resemble each other, apart from the refusal.
- `Engine.parse_splice`: what becomes of the two texts.
- `Engine.parse_splice_twoTrims`: an item that is refused, although its fields are read.
-/

namespace DecisionFlow

namespace Document

variable {item : Fields} {position : Position} {excused : Problem → Prop} {objects : Bool}

/-! ## Replacing an item -/

/-- A tree in which one item of a node is replaced by items with one field each, in order: in the
node itself, or in a node at a position below. -/
inductive Expands (item : Fields) : Position → Value → Value → Prop where
  | here {position : Position} (before after : List Value) :
    Expands item position (.array (before ++ .object item :: after))
      (.array (before ++ (item.map ofField ++ after)))
  | inObject {position inner : Position} {name : String} {v w : Value} (before after : Fields)
      (called : position.below name = some inner) (expands : Expands item inner v w) :
    Expands item position (.object (before ++ (name, v) :: after))
      (.object (before ++ (name, w) :: after))
  | inItem {position inner : Position} {name : String} {v w : Value} (earlier later : List Value)
      (before after : Fields) (called : position.below name = some inner)
      (expands : Expands item inner v w) :
    Expands item position (.array (earlier ++ .object (before ++ (name, v) :: after) :: later))
      (.array (earlier ++ .object (before ++ (name, w) :: after) :: later))

/-- The item stands in an array at a position of the grammar. -/
theorem Expands.exists_stands {v w : Value} (h : Expands item position v w) :
    ∃ target items, Stands position v target (.array items) ∧ .object item ∈ items := by
  induction h with
  | here before after =>
    exact ⟨_, _, .self _ _, List.mem_append_right before List.mem_cons_self⟩
  | inObject before after called _ ih =>
    obtain ⟨target, items, hstands, hitem⟩ := ih
    exact ⟨target, items, .child (List.mem_append_right before List.mem_cons_self) called hstands,
      hitem⟩
  | inItem earlier later before after called _ ih =>
    obtain ⟨target, items, hstands, hitem⟩ := ih
    refine ⟨target, items, .child ?_ called hstands, hitem⟩
    exact mem_childFields_array_iff.mpr ⟨_, List.mem_append_right earlier List.mem_cons_self,
      List.mem_append_right before List.mem_cons_self⟩

/-! ## Loading both trees -/

theorem splitRepeats_ofField (field : String × Value) :
    (ofField field).splitRepeats = ofField (field.1, field.2.splitRepeats) :=
  Value.splitRepeats_of_nodup (List.nodup_singleton field.1)

/-- Fields in array shape are split field by field. -/
theorem map_splitRepeats_map_ofField (fields : Fields) :
    (fields.map ofField).map Value.splitRepeats
      = (Fields.mapValues Value.splitRepeats fields).map ofField := by
  rw [List.map_map, Fields.mapValues, List.map_map]
  exact List.map_congr_left fun field _ => splitRepeats_ofField field

/-- Loaded trees of texts of which one is the other with an item replaced, or the same. -/
def Spliced (item : Fields) (position : Position) (v w : Value) : Prop :=
  v = w ∨ ∃ written written', v = written.splitRepeats ∧ w = written'.splitRepeats ∧
    Expands item position written written'

/-- A tree may stay the same. -/
theorem Spliced.refl (position : Position) (v : Value) : Spliced item position v v := .inl rfl

/-- What is listed of both trees. -/
abbrev ListedAlike (excused : Problem → Prop) (item : Fields) (position : Position)
    (x y : Except Problem Fields) : Prop :=
  Agree excused Eq (List.Forall₂ (Below (Spliced item) position)) x y

section ListedAlike

variable {fields fields' : Fields}

theorem forall₂_below_self (fields : Fields) :
    List.Forall₂ (Below (Spliced item) position) fields fields :=
  List.forall₂_same.mpr fun field _ => Below.refl Spliced.refl position field

theorem listedAlike_self (x : Except Problem Fields) : ListedAlike excused item position x x := by
  cases x with
  | error problem => exact .error rfl
  | ok fields => exact .ok (forall₂_below_self fields)

/-- Fields of both trees: only the child on the way to the item may differ. -/
theorem forall₂_below_mapValues {inner : Position} {name : String} {v w : Value}
    (before after : Fields) (called : position.below name = some inner)
    (expands : Expands item inner v w) :
    List.Forall₂ (Below (Spliced item) position)
      (Fields.mapValues Value.splitRepeats (before ++ (name, v) :: after))
      (Fields.mapValues Value.splitRepeats (before ++ (name, w) :: after)) := by
  rw [Fields.mapValues, Fields.mapValues, List.map_append, List.map_append]
  refine List.rel_append (forall₂_below_self _) (.cons ?_ (forall₂_below_self _))
  exact .of_called called (.inr ⟨v, w, rfl, rfl, expands⟩)

/-- Splicing inside of fields keeps their names. -/
theorem names_eq_of_below (h : List.Forall₂ (Below (Spliced item) position) fields fields') :
    Fields.names fields = Fields.names fields' := by
  induction h with
  | nil => rfl
  | cons hfield _ ih =>
    obtain ⟨hname, -⟩ := hfield
    rw [Fields.names, List.map_cons, hname]
    exact congrArg _ ih

/-- Objects with such fields list them, whether they were loaded as objects or as arrays. -/
theorem listedAlike_valueOfFields
    (h : List.Forall₂ (Below (Spliced item) position) fields fields') :
    ListedAlike excused item position (listed objects (Value.ofFields fields))
      (listed objects (Value.ofFields fields')) := by
  have hsame := names_eq_of_below h
  by_cases hnames : (Fields.names fields).Nodup
  · rw [Value.ofFields_of_nodup hnames, Value.ofFields_of_nodup (hsame ▸ hnames), listed, listed]
    cases objects with
    | false => exact .error rfl
    | true => exact .ok h
  · rw [Value.ofFields_of_not_nodup hnames, Value.ofFields_of_not_nodup (hsame ▸ hnames)]
    show ListedAlike excused item position (listed objects (ofFields fields))
      (listed objects (ofFields fields'))
    rw [listed_ofFields, listed_ofFields]
    exact .ok h

/-- Behind the same items, the rest is listed. -/
theorem listedAlike_append (before : List Value) {items items' : List Value}
    (h : ListedAlike excused item position (listedItems items) (listedItems items')) :
    ListedAlike excused item position (listedItems (before ++ items))
      (listedItems (before ++ items')) := by
  rw [listedItems_append, listedItems_append]
  cases listedItems before with
  | error problem => exact .error rfl
  | ok fields => exact h.map fun _ _ hlast => List.rel_append (forall₂_below_self fields) hlast

/-- As items, such objects list their fields as long as they are objects. -/
theorem listedAlike_cons (h : List.Forall₂ (Below (Spliced item) position) fields fields')
    (after : List Value) :
    ListedAlike excused item position (listedItems (Value.ofFields fields :: after))
      (listedItems (Value.ofFields fields' :: after)) := by
  have hsame := names_eq_of_below h
  by_cases hnames : (Fields.names fields).Nodup
  · rw [Value.ofFields_of_nodup hnames, Value.ofFields_of_nodup (hsame ▸ hnames), listedItems,
      listedItems]
    cases listedItems after with
    | error problem => exact .error rfl
    | ok last => exact .ok (List.rel_append h (forall₂_below_self last))
  · rw [Value.ofFields_of_not_nodup hnames, Value.ofFields_of_not_nodup (hsame ▸ hnames)]
    exact .error rfl

/-- The item itself lists its fields, or is refused because it was loaded as an array. -/
theorem listedAlike_item
    (hitem : (Fields.names item).Nodup ∨ excused (.invalidNode .object .array))
    (after : List Value) :
    ListedAlike excused item position
      (listedItems ((Value.object item).splitRepeats :: after))
      (listedItems ((Fields.mapValues Value.splitRepeats item).map ofField ++ after)) := by
  by_cases hnames : (Fields.names item).Nodup
  · rw [Value.splitRepeats_of_nodup hnames, listedItems, listedItems_append,
      listedItems_map_ofField]
    cases listedItems after with
    | error problem => exact .error rfl
    | ok last => exact .ok (forall₂_below_self _)
  · rw [Value.splitRepeats_of_not_nodup hnames]
    exact .stopped (hitem.resolve_left hnames)

end ListedAlike

/-- **The loaded trees resemble each other**, if an item that repeats a field may be refused. -/
theorem resemblance_spliced
    (hitem : (Fields.names item).Nodup ∨ excused (.invalidNode .object .array)) :
    Resemblance excused objects objects (Spliced item) := by
  rintro position v w (rfl | ⟨written, written', rfl, rfl, h⟩)
  · exact listedAlike_self _
  · cases h with
    | here before after =>
      rw [Value.splitRepeats_array, Value.splitRepeats_array, List.map_append, List.map_cons,
        List.map_append, List.map_append, map_splitRepeats_map_ofField]
      exact listedAlike_append _ (listedAlike_item hitem _)
    | inObject before after called expands =>
      rw [Value.splitRepeats_object, Value.splitRepeats_object]
      exact listedAlike_valueOfFields (forall₂_below_mapValues before after called expands)
    | inItem earlier later before after called expands =>
      rw [Value.splitRepeats_array, Value.splitRepeats_array, List.map_append, List.map_cons,
        List.map_append, List.map_cons, Value.splitRepeats_object, Value.splitRepeats_object]
      exact listedAlike_append _
        (listedAlike_cons (forall₂_below_mapValues before after called expands) _)

/-- **An item that repeats a field has no place in a document.** -/
theorem Expands.not_isNode {T : Type} {engine : Engine T} {v w : Value}
    (h : Expands item position v w) (hitem : ¬ (Fields.names item).Nodup) :
    ¬ ∃ levels, IsNode engine levels position v.splitRepeats := by
  intro hnode
  obtain ⟨target, items, hstands, hmem⟩ := h.exists_stands
  obtain ⟨levels, harray⟩ := (hstands.loaded hnode).isNode hnode
  have hlists := harray.lists
  rw [Value.splitRepeats_array] at hlists
  -- The array lists its items as objects, and the item is none.
  obtain ⟨own, hown⟩ := hlists.exists_item_eq_object (List.mem_map_of_mem hmem)
  obtain ⟨fields, hfields, hnames, -⟩ := Value.splitRepeats_eq_object_iff.mp hown
  cases hfields
  exact hitem hnames

end Document

/-- The problem with its place forgotten. -/
def LoadProblem.unplaced : LoadProblem → LoadProblem
  | .document e => .document ⟨e.problem, []⟩
  | other => other

theorem Document.ReadAlike.unplaced_eq {α : Type} {x y : Except Document.Error α}
    (h : Document.ReadAlike (fun _ => False) x y) :
    (x.mapError LoadProblem.document).mapError LoadProblem.unplaced
      = (y.mapError LoadProblem.document).mapError LoadProblem.unplaced := by
  cases h with
  | ok hab => rw [hab]
  | error he =>
    exact congrArg (fun problem => Except.error (LoadProblem.document ⟨problem, []⟩)) he
  | stopped hstop => exact hstop.elim

variable {T : Type} {item : Fields} {written written' : Value}

/-- The loaded trees are read alike, if an item that repeats a field may be refused. -/
theorem Engine.readAlike_splitRepeats (engine : Engine T) {excused : Document.Problem → Prop}
    (hitem : (Fields.names item).Nodup ∨ excused (.invalidNode .object .array))
    (h : Document.Expands item .body written written') :
    Document.ReadAlike excused (engine.read written.splitRepeats)
      (engine.read written'.splitRepeats) := by
  have hresemble : Document.Resemblance excused engine.settings.acceptObjectShape
      engine.settings.acceptObjectShape (Document.Spliced item) :=
        Document.resemblance_spliced hitem
  exact engine.readAlike_read hresemble (.inr ⟨written, written', rfl, rfl, h⟩)

/-- **An item that repeats no field can be replaced by an item for each of its fields**: the two
texts are read as the same flow, or refused for the same problem. If it repeats a field, the text
with the item is refused, be it for what is wrong with the other text or because the item is an
array. -/
theorem Engine.parse_splice (engine : Engine T) {text text' : String}
    (htext : Json.parse text = .ok written) (htext' : Json.parse text' = .ok written')
    (h : Document.Expands item .body written written') :
    ((Fields.names item).Nodup →
      (engine.parse .json text).mapError LoadProblem.unplaced
        = (engine.parse .json text').mapError LoadProblem.unplaced) ∧
    (¬ (Fields.names item).Nodup →
      ∃ e, engine.parse .json text = .error (.document e) ∧
        (e.problem = .invalidNode .object .array ∨
          ∃ e', engine.parse .json text' = .error (.document e') ∧
            e'.problem = e.problem)) := by
  rw [engine.parse_json_of_parse htext, engine.parse_json_of_parse htext']
  constructor
  · intro hitem
    exact (engine.readAlike_splitRepeats (.inl hitem) h).unplaced_eq
  · intro hitem
    have halike : Document.ReadAlike (· = .invalidNode .object .array)
        (engine.read written.splitRepeats) (engine.read written'.splitRepeats) :=
      engine.readAlike_splitRepeats (.inr rfl) h
    cases hread : engine.read written.splitRepeats with
    | ok flow => exact absurd (Engine.isNode_of_read hread) (h.not_isNode hitem)
    | error e =>
      rw [hread] at halike
      refine ⟨e, rfl, ?_⟩
      cases hread' : engine.read written'.splitRepeats with
      | ok flow =>
        rw [hread'] at halike
        cases halike with
        | stopped hrefused => exact .inl hrefused
      | error e' =>
        rw [hread'] at halike
        cases halike with
        | error hsame => exact .inr ⟨e', rfl, hsame.symm⟩
        | stopped hrefused => exact .inl hrefused

theorem Document.Expands.only (position : Document.Position) (item : Fields) :
    Document.Expands item position (.array [.object item]) (Document.ofFields item) := by
  have h : Document.Expands item position (.array ([] ++ .object item :: []))
      (.array ([] ++ (item.map Document.ofField ++ []))) := .here [] []
  rwa [List.nil_append, List.nil_append, List.append_nil] at h

/-- The fields of a body with two consumers of different kinds. -/
def Document.trimAndUppercase : Fields :=
  [("trim", .single "field" (.text "a")), ("uppercase", .single "field" (.text "b"))]

/-- Two consumers in one item or in two. -/
theorem Engine.parse_splice_trimAndUppercase :
    ∃ text text', Json.parse text = .ok (.array [.object Document.trimAndUppercase]) ∧
      Json.parse text' = .ok (Document.ofFields Document.trimAndUppercase) ∧
      (Builtin.engine.parse .json text).mapError LoadProblem.unplaced
        = (Builtin.engine.parse .json text').mapError LoadProblem.unplaced := by
  have htext : Json.parse (Json.pretty (.array [.object Document.trimAndUppercase])) = .ok _ :=
    Json.parse_pretty (List.forall_mem_nil _)
  have htext' : Json.parse (Json.pretty (Document.ofFields Document.trimAndUppercase)) = .ok _ :=
    Json.parse_pretty (List.forall_mem_nil _)
  have hitems := Builtin.engine.parse_splice htext htext' (.only .body Document.trimAndUppercase)
  exact ⟨_, _, htext, htext', hitems.1 (by decide)⟩

/-- Two consumers of one kind are read from two items, and refused in one. -/
theorem Engine.parse_splice_twoTrims :
    ∃ text text' flow, Json.parse text = .ok (.array [.object Document.twoTrims]) ∧
      Json.parse text' = .ok (Document.ofFields Document.twoTrims) ∧
      Document.Expands Document.twoTrims .body (.array [.object Document.twoTrims])
        (Document.ofFields Document.twoTrims) ∧
      Builtin.engine.parse .json text' = .ok flow ∧
      Builtin.engine.parse .json text
        = .error (.document ⟨.invalidNode .object .array, Locator.item [] 0⟩) := by
  have htext : Json.parse (Json.pretty (.array [.object Document.twoTrims])) = .ok _ :=
    Json.parse_pretty (List.forall_mem_nil _)
  have htext' : Json.parse (Json.pretty (Document.ofFields Document.twoTrims)) = .ok _ :=
    Json.parse_pretty (List.forall_mem_nil _)
  refine ⟨_, _, _, htext, htext', .only .body Document.twoTrims,
    Engine.parse_json_eq_ok_iff.mpr ⟨_, htext', rfl⟩, ?_⟩
  rw [Engine.parse_json_of_parse _ htext]
  rfl

end DecisionFlow
