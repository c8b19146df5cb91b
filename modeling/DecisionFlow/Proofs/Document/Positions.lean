import DecisionFlow.Proofs.Document.Grammar
import DecisionFlow.Proofs.Document.Writing

/-!
# Positions of the grammar

Bodies, branches and groups are the nodes of a document that have children. Which of them a child is
can be told from its name and from the node above it. Conditions and consumers have no children:
what stands there is configuration.

- `Position`, `Position.below`: the positions, and the position of a child.
- `listed`: which fields a node lists as its children, or what is wrong with it.
- `listed_eq`: the reader lists these, wherever the node stands.
- `childFields`, `Stands`: the nodes that stand at positions of the grammar in a tree.
- `ArraysOnly`: trees in which none of these nodes is an object.
- `IsNode`, `Stands.isNode`: in a document, all of them are nodes of the grammar.
-/

namespace DecisionFlow.Document

/-! ## Positions -/

/-- A position of the grammar whose nodes have children. -/
inductive Position where
  | body
  | branch
  | group
deriving DecidableEq, Repr

/-- The position of a child that is called like a statement, if it has children of its own. -/
def Position.ofStatement? : Position → Statement → Option Position
  | .body, .ifHolds | .body, .ifNot => some .branch
  | .branch, .thenBody | .branch, .elseBody => some .body
  | .branch, .allOf | .branch, .anyOf | .group, .allOf | .group, .anyOf => some .group
  | _, _ => none

/-- The position of a child by its name, if it has children of its own. -/
def Position.below (position : Position) (name : String) : Option Position :=
  (Statement.lookup name).bind position.ofStatement?

/-- A position below another is told by the statement that a child is called like. -/
theorem Position.below_eq {position : Position} {name : String} {statement : Statement}
    (h : Statement.lookup name = some statement) :
    position.below name = position.ofStatement? statement := by
  rw [below, h, Option.bind_some]

example :
    Position.branch.below "then" = some .body ∧ Position.branch.below "condition" = none := by
  decide

/-! ## Listing children -/

/-- The fields of items, which have to be objects. -/
def listedItems : List Value → Except Problem Fields
  | [] => .ok []
  | .object fields :: rest => return fields ++ (← listedItems rest)
  | item :: _ => .error (.invalidNode .object item.kind)

/-- The fields that a node lists as its children. One object is taken for a list of fields only if
`objects` says so. -/
def listed (objects : Bool) : Value → Except Problem Fields
  | .null => .ok []
  | .array items => listedItems items
  | .object fields => if objects then .ok fields else .error (.invalidNode .arrayOfObjects .object)
  | other => .error (.invalidNode .arrayOfObjects other.kind)

/-- What is listed without regard to places. -/
def fieldsOf (read : Except Error (List Child)) : Except Problem Fields :=
  (read.map (List.map Child.field)).mapError Error.problem

/-- Where the items stand does not matter to the fields that they list. -/
theorem listedItems_eq (path : Locator) (index : Nat) (items : List Value) :
    listedItems items = fieldsOf (childrenOfItems path index items) := by
  induction items generalizing index with
  | nil => rfl
  | cons item rest ih =>
    cases item with
    | object fields =>
      rw [listedItems, childrenOfItems, ih (index + 1)]
      cases childrenOfItems path (index + 1) rest with
      | error e => rfl
      | ok cs =>
        show Except.ok _ = Except.ok _
        rw [List.map_append, map_field_childrenOfFields]
    | _ => rfl

/-- **The reader lists the same fields wherever a node stands.** -/
theorem listed_eq (settings : Settings) (path : Locator) (node : Value) :
    listed settings.acceptObjectShape node = fieldsOf (children settings node path) := by
  cases node with
  | array items => exact listedItems_eq path 0 items
  | object fields =>
    rw [listed, children]
    cases settings.acceptObjectShape with
    | false => rfl
    | true =>
      show Except.ok _ = Except.ok _
      rw [map_field_childrenOfFields]
  | _ => rfl

/-- Items one after the other list their fields one after the other. -/
theorem listedItems_append (items rest : List Value) :
    listedItems (items ++ rest)
      = listedItems items >>= fun fields => (listedItems rest).map (fields ++ ·) := by
  induction items with
  | nil =>
    rw [List.nil_append, listedItems]
    show _ = (listedItems rest).map ([] ++ ·)
    cases listedItems rest <;> rfl
  | cons item others ih =>
    cases item with
    | object fields =>
      rw [List.cons_append, listedItems, ih, listedItems]
      cases listedItems others with
      | error problem => rfl
      | ok more =>
        cases listedItems rest with
        | error problem => rfl
        | ok last => exact congrArg Except.ok (List.append_assoc fields more last).symm
    | _ => rfl

/-- Objects of one field each list these fields. -/
theorem listedItems_map_ofField (fields : Fields) :
    listedItems (fields.map ofField) = .ok fields := by
  induction fields with
  | nil => rfl
  | cons field rest ih =>
    rw [List.map_cons, ofField, Value.single, listedItems, ih]
    rfl

/-- Fields are listed again, whether they became an object or an array. -/
theorem listed_ofFields (objects : Bool) (fields : Fields) :
    listed objects (ofFields fields) = .ok fields :=
  listedItems_map_ofField fields

/-- The fields that a node lists can be computed. -/
theorem lists_iff_listed {settings : Settings} {node : Value} {fields : Fields} :
    Lists settings node fields ↔ listed settings.acceptObjectShape node = .ok fields := by
  rw [← exists_children_iff, listed_eq settings [] node, fieldsOf]
  cases children settings node [] with
  | error e => simp [Except.map, Except.mapError]
  | ok cs => simp [Except.map, Except.mapError]

/-! ## Nodes of a tree -/

/-- The fields directly below a node: its own, or those of the objects in its array. -/
def childFields : Value → Fields
  | .array items => items.flatMap fun item => item.fields?.getD []
  | .object fields => fields
  | _ => []

theorem mem_childFields_array_iff {items : List Value} {field : String × Value} :
    field ∈ childFields (.array items) ↔
      ∃ fields, .object fields ∈ items ∧ field ∈ fields := by
  rw [childFields, List.mem_flatMap]
  constructor
  · rintro ⟨item, hitem, hfield⟩
    cases item with
    | object fields => exact ⟨fields, hitem, hfield⟩
    | _ => cases hfield
  · rintro ⟨fields, hitem, hfield⟩
    exact ⟨_, hitem, hfield⟩

/-- A node lists the fields below it, if it lists any. -/
theorem Lists.eq_childFields {settings : Settings} {node : Value} {fields : Fields}
    (h : Lists settings node fields) : fields = childFields node := by
  cases h with
  | null | object => rfl
  | array objects =>
    rw [childFields, List.flatMap_map, List.flatten_eq_flatMap]
    rfl

/-- An array that lists its fields has nothing but objects in it. -/
theorem Lists.exists_item_eq_object {settings : Settings} {items : List Value} {fields : Fields}
    (h : Lists settings (.array items) fields) {item : Value} (hitem : item ∈ items) :
    ∃ own, item = .object own := by
  cases h with
  | array objects =>
    obtain ⟨own, -, rfl⟩ := List.mem_map.mp hitem
    exact ⟨own, rfl⟩

theorem eq_childFields_of_listed {objects : Bool} {node : Value} {fields : Fields}
    (h : listed objects node = .ok fields) : fields = childFields node := by
  have hlists : Lists { acceptObjectShape := objects } node fields := lists_iff_listed.mpr h
  exact hlists.eq_childFields

/-- A node stands somewhere below a node: at its own position, or at that of a child, and so on. -/
inductive Stands : Position → Value → Position → Value → Prop where
  | self (position : Position) (node : Value) : Stands position node position node
  | child {position inner target : Position} {name : String} {node child found : Value}
      (isChild : (name, child) ∈ childFields node) (called : position.below name = some inner)
      (stands : Stands inner child target found) :
    Stands position node target found

/-- No object stands at a position of the grammar in the tree. -/
def ArraysOnly (position : Position) (node : Value) : Prop :=
  ∀ target fields, ¬ Stands position node target (.object fields)

theorem ArraysOnly.child {position inner : Position} {name : String} {node child : Value}
    (h : ArraysOnly position node) (hchild : (name, child) ∈ childFields node)
    (hcalled : position.below name = some inner) : ArraysOnly inner child :=
  fun target fields hstands => h target fields (.child hchild hcalled hstands)

/-! ### Nodes of a document -/

variable {T : Type} {engine : Engine T} {levels : Nat} {position inner : Position} {name : String}
  {node child : Value}

/-- The nodes of the grammar by their position. -/
def IsNode (engine : Engine T) (levels : Nat) : Position → Value → Prop
  | .body => IsBody engine levels
  | .branch => IsBranch engine levels
  | .group => IsGroup engine levels

/-- A node of the grammar lists the fields below it. -/
theorem IsNode.lists (h : IsNode engine levels position node) :
    Lists engine.settings node (childFields node) := by
  cases position with
  | body | branch | group =>
    obtain ⟨hlists, -⟩ := h
    rwa [← hlists.eq_childFields]

/-- A condition that has a position is a group. -/
theorem IsCondition.isNode (h : IsCondition engine levels name child)
    (hposition : position ≠ .body) (hcalled : position.below name = some inner) :
    IsNode engine levels inner child := by
  cases h with
  | predicate predicate =>
    rw [Position.below_eq (Statement.lookup_name _)] at hcalled
    cases position <;> cases hcalled
  | @group _ any _ group =>
    rw [Position.below_eq (Statement.lookup_name _)] at hcalled
    cases position with
    | body => exact absurd rfl hposition
    | branch | group =>
      obtain rfl : inner = .group := by
        cases any <;> exact (Option.some.inj hcalled).symm
      exact group

/-- The children that have a position are nodes again. -/
theorem IsNode.below (h : IsNode engine levels position node)
    (hchild : (name, child) ∈ childFields node) (hcalled : position.below name = some inner) :
    ∃ levels', IsNode engine levels' inner child := by
  cases position with
  | body =>
    obtain ⟨hlists, hentries⟩ := h
    rw [hlists.eq_childFields] at hentries
    have hentry : IsEntry engine levels name child := hentries _ hchild
    cases hentry with
    | @branch _ negated _ branch =>
      rw [Position.below_eq (Statement.lookup_name _)] at hcalled
      obtain rfl : inner = .branch := by
        cases negated <;> exact (Option.some.inj hcalled).symm
      exact ⟨_, branch⟩
    | consumer noStatement consumer =>
      rw [Position.below, Statement.lookup_eq_none_iff.mpr noStatement] at hcalled
      cases hcalled
  | branch =>
    obtain ⟨hlists, hparts⟩ := h
    rw [hlists.eq_childFields] at hparts
    have hpart : IsPart engine _ name child := hparts _ hchild
    cases hpart with
    | condition condition => exact ⟨_, condition.isNode Position.noConfusion hcalled⟩
    | thenBody body | elseBody body =>
      rw [Position.below_eq (Statement.lookup_name _)] at hcalled
      obtain rfl : inner = .body := (Option.some.inj hcalled).symm
      exact ⟨_, body⟩
  | group =>
    obtain ⟨hlists, hmembers⟩ := h
    rw [hlists.eq_childFields] at hmembers
    exact ⟨_, (hmembers _ hchild).isNode Position.noConfusion hcalled⟩

/-- **Whatever stands below a node of the grammar is a node of the grammar.** -/
theorem Stands.isNode {target : Position} {found : Value} (h : Stands position node target found)
    (hnode : ∃ levels, IsNode engine levels position node) :
    ∃ levels, IsNode engine levels target found := by
  induction h with
  | self => exact hnode
  | child hchild hcalled _ ih =>
    obtain ⟨levels, hnode⟩ := hnode
    exact ih (hnode.below hchild hcalled)

end DecisionFlow.Document
