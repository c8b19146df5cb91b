import DecisionFlow.Proofs.Document.Resemblance

/-!
# The shape of nodes

A node with children can be written as one object, as an array of objects with some fields each, or
as an array of objects with one field each. The last shape is accepted by every engine, and every
tree can be brought into it without a change of meaning: the same flow is read, or the same problem
is found.

- `reshape`: brings all nodes at positions of the grammar into that shape. Configurations stay.
- `listed_reshape`: a node lists the same children afterwards, reshaped in their turn.
- `arraysOnly_reshape`: no object is left as a node.
- `Engine.read_reshape`: the shape of nodes carries no meaning.
-/

namespace DecisionFlow

namespace Document

/-! ## Reshaping -/

/-- The items that stand for one item with these fields: one for each field. An item without fields
stays. -/
def asItems : Fields → List Value
  | [] => [.object []]
  | fields => fields.map ofField

mutual

/-- The tree with every node at a position of the grammar written as an array of single-field
objects. What is neither an object nor an array stays. -/
def reshape (position : Position) : Value → Value
  | .array items => .array (reshapeItems position items)
  | .object fields => ofFields (reshapeFields position fields)
  | other => other

/-- The items of a node, with one item for each field. What is no object stays. -/
def reshapeItems (position : Position) : List Value → List Value
  | [] => []
  | .object fields :: rest => asItems (reshapeFields position fields) ++ reshapeItems position rest
  | item :: rest => item :: reshapeItems position rest

/-- The children of a node, each reshaped if it stands at a position. -/
def reshapeFields (position : Position) : List (String × Value) → List (String × Value)
  | [] => []
  | (name, value) :: rest =>
    (name, match position.below name with
      | some inner => reshape inner value
      | none => value) :: reshapeFields position rest

end

/-! ## What is listed -/

theorem listedItems_asItems (fields : Fields) : listedItems (asItems fields) = .ok fields := by
  cases fields with
  | nil => rfl
  | cons field rest => exact listedItems_map_ofField (field :: rest)

theorem reshapeFields_append (position : Position) (fields others : Fields) :
    reshapeFields position (fields ++ others)
      = reshapeFields position fields ++ reshapeFields position others := by
  induction fields with
  | nil => rfl
  | cons field rest ih =>
    obtain ⟨name, value⟩ := field
    rw [List.cons_append, reshapeFields, ih, reshapeFields, List.cons_append]

/-- Listing the fields and reshaping the children may be done in either order. -/
theorem listedItems_reshapeItems (position : Position) (items : List Value) :
    listedItems (reshapeItems position items) =
      (listedItems items).map (reshapeFields position) := by
  induction items with
  | nil => rfl
  | cons item rest ih =>
    cases item with
    | object fields =>
      rw [reshapeItems, listedItems_append, listedItems_asItems, ih, listedItems]
      cases listedItems rest with
      | error problem => rfl
      | ok others => exact congrArg Except.ok (reshapeFields_append position fields others).symm
    | _ => rfl

/-- **A reshaped node lists the same children**, reshaped in their turn, also where objects are not
accepted. -/
theorem listed_reshape (position : Position) (node : Value) :
    listed false (reshape position node) = (listed true node).map (reshapeFields position) := by
  cases node with
  | array items => exact listedItems_reshapeItems position items
  | object fields =>
    rw [reshape, listed_ofFields]
    rfl
  | _ => rfl

/-! ## The shape that is reached -/

theorem childFields_append (items rest : List Value) :
    childFields (.array (items ++ rest)) =
      childFields (.array items) ++ childFields (.array rest) := by
  rw [childFields, List.flatMap_append, childFields, childFields]

theorem childFields_reshapeItems (position : Position) (items : List Value) :
    childFields (.array (reshapeItems position items))
      = reshapeFields position (childFields (.array items)) := by
  induction items with
  | nil => rfl
  | cons item rest ih =>
    cases item with
    | object fields =>
      have hlisted : listed true (.array (asItems (reshapeFields position fields)))
          = .ok (reshapeFields position fields) := listedItems_asItems _
      rw [reshapeItems, childFields_append, ← eq_childFields_of_listed hlisted, ih]
      exact (reshapeFields_append position fields _).symm
    | _ => exact ih

/-- Reshaping a node reshapes its children in place. -/
theorem childFields_reshape (position : Position) (node : Value) :
    childFields (reshape position node) = reshapeFields position (childFields node) := by
  cases node with
  | array items => exact childFields_reshapeItems position items
  | object fields =>
    rw [reshape]
    exact (eq_childFields_of_listed (listed_ofFields true _)).symm
  | _ => rfl

/-- A child at a grammar position of a reshaped node is itself reshaped. -/
theorem exists_reshape_of_mem {position inner : Position} {fields : Fields} {name : String}
    {child : Value} (h : (name, child) ∈ reshapeFields position fields)
    (called : position.below name = some inner) : ∃ node, child = reshape inner node := by
  induction fields with
  | nil => cases h
  | cons field rest ih =>
    obtain ⟨key, value⟩ := field
    obtain heq | hrest := List.mem_cons.mp h
    · cases heq
      rw [called]
      exact ⟨value, rfl⟩
    · exact ih hrest

/-- Whatever stands in a reshaped tree is reshaped. -/
theorem Stands.exists_reshape {position target : Position} {node reshaped found : Value}
    (h : Stands position reshaped target found) (heq : reshaped = reshape position node) :
    ∃ inner, found = reshape target inner := by
  induction h generalizing node with
  | self => exact ⟨node, heq⟩
  | child hchild hcalled _ ih =>
    rw [heq, childFields_reshape] at hchild
    obtain ⟨below, hbelow⟩ := exists_reshape_of_mem hchild hcalled
    exact ih hbelow

/-- **No object is left at a position of the grammar.** -/
theorem arraysOnly_reshape (position : Position) (node : Value) :
    ArraysOnly position (reshape position node) := by
  intro target fields hstands
  obtain ⟨inner, hinner⟩ := hstands.exists_reshape rfl
  cases inner <;> cases hinner

/-! ## What is read -/

/-- Each child is the child below, reshaped. -/
theorem forall₂_below_reshapeFields (position : Position) (fields : Fields) :
    List.Forall₂ (Below (fun inner v w => w = reshape inner v) position) fields
      (reshapeFields position fields) := by
  induction fields with
  | nil => exact .nil
  | cons field rest ih =>
    obtain ⟨name, value⟩ := field
    refine .cons ⟨rfl, ?_⟩ ih
    dsimp only
    cases position.below name <;> rfl

/-- A tree resembles the tree that it is reshaped to. -/
theorem resemblance_reshape :
    Resemblance (fun _ => False) true false fun position v w => w = reshape position v := by
  rintro position v _ rfl
  rw [listed_reshape]
  cases listed true v with
  | error problem => exact .error rfl
  | ok fields => exact .ok (forall₂_below_reshapeFields position fields)

end Document

/-- **The shape of nodes carries no meaning.** Without objects as nodes, the reshaped document is
read as the document is read with them: as the same flow, or with the same problem. -/
theorem Engine.read_reshape {T : Type} (engine : Engine T) (document : Value) :
    ((engine.withObjectShape false).read (Document.reshape .body document)).mapError
        Document.Error.problem
      = ((engine.withObjectShape true).read document).mapError Document.Error.problem :=
  (engine.readAlike_read Document.resemblance_reshape rfl).mapError_eq.symm

end DecisionFlow
