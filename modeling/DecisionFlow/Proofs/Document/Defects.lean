import DecisionFlow.Builtin
import DecisionFlow.Proofs.Document.Failing
import DecisionFlow.Proofs.Json.Repeats
import DecisionFlow.Proofs.Payload.Fields

/-!
# Errors point at defects

When a document is refused, the error names a node of the document and what is wrong with this node.

- `Role`, `Role.below`: what the nodes of a document are read as, told from their names.
- `childrenAt`: the children of a node with their places.
- `StandsAs`: what stands where in a document, and how many branches and groups it is in.
- `Defect`: **what each problem says about a node**, case by case.
- `StandsAs.at?_and_distinct`, `Defect.at?`, `Defect.exists_path`: places lead to the nodes that
  they are places of.
- `Faulty`, `faulty_of_readCondition`, `faulty_of_readGroup`, `faulty_of_readBranch`,
  `faulty_of_readBody`: each function of the reader fails with a defect of what it read.
- `Engine.defect_of_read`: the reader fails with a defect of the document.
-/

namespace DecisionFlow

namespace Document

/-! ## What nodes are read as -/

/-- What a node of a document is read as. -/
inductive Role where
  | body (body : Body)
  | branch (negated : Bool)
  | group (any : Bool)
  | condition
  | consumer (kind : String)
deriving DecidableEq, Repr

namespace Role

/-- The statement whose children are read, for a branch or a group. -/
def statement? : Role → Option Statement
  | .branch negated => some (Branch.statementOf negated)
  | .group any => some (Condition.groupStatement any)
  | _ => none

/-- What a child is read as that is called like a statement. -/
def ofStatement? : Role → Statement → Option Role
  | .body _, .ifHolds => some (.branch false)
  | .body _, .ifNot => some (.branch true)
  | .branch _, .condition | .group _, .condition => some .condition
  | .branch _, .allOf | .group _, .allOf => some (.group false)
  | .branch _, .anyOf | .group _, .anyOf => some (.group true)
  | .branch _, .thenBody => some (.body .thenSide)
  | .branch _, .elseBody => some (.body .elseSide)
  | _, _ => none

/-- What a child is read as whose name is no statement: in a body, the name is the kind of a
consumer. -/
def ofOther? : Role → String → Option Role
  | .body _, kind => some (.consumer kind)
  | _, _ => none

/-- What a child of this name is read as, if it is allowed. -/
def below (role : Role) (name : String) : Option Role :=
  (Statement.lookup name).elim (role.ofOther? name) role.ofStatement?

/-- How many levels of nesting a node takes up. -/
def levels : Role → Nat
  | .branch _ | .group _ => 1
  | _ => 0

/-- The sort of node that is expected. -/
def shape : Role → Shape
  | .body _ | .branch _ | .group _ => .arrayOfObjects
  | .condition => .object
  | .consumer _ => .objectOrNull

/-- The role of a child is told by the statement that it is called like. -/
theorem below_of_eq_name (role : Role) {name : String} {statement : Statement}
    (h : name = statement.name) : role.below name = role.ofStatement? statement := by
  rw [h, below, Statement.lookup_name, Option.elim_some]

end Role

/-! ## Children and their places -/

/-- The fields directly below a node with their places: its own, or those of the objects in its
array. -/
def childrenAt (path : Locator) : Value → List Child
  | .array items => items.zipIdx.flatMap fun (item, i) =>
      childrenOfFields (path.item i) (item.fields?.getD [])
  | .object fields => childrenOfFields path fields
  | _ => []

/-- If items are listed, their children are those of their fields. -/
theorem eq_of_childrenOfItems {path : Locator} {index : Nat} {items : List Value} {cs : List Child}
    (h : childrenOfItems path index items = .ok cs) :
    cs = (items.zipIdx index).flatMap fun (item, i) =>
      childrenOfFields (path.item i) (item.fields?.getD []) := by
  induction items generalizing index cs with
  | nil => exact (Except.ok.inj h).symm
  | cons item rest ih =>
    cases item with
    | object fields =>
      obtain ⟨later, hlater, hcs⟩ := bind_eq_ok_iff.mp h
      rw [← Except.ok.inj hcs, ih hlater]
      rfl
    | _ => cases h

/-- The reader lists the children that are there. -/
theorem eq_childrenAt {settings : Settings} {node : Value} {path : Locator} {cs : List Child}
    (h : children settings node path = .ok cs) : cs = childrenAt path node := by
  cases node with
  | null => exact (Except.ok.inj h).symm
  | array items => exact eq_of_childrenOfItems h
  | object fields =>
    rw [children] at h
    split at h
    · exact (Except.ok.inj h).symm
    · cases h
  | _ => cases h

/-- A child of fields is one of them, at its name. -/
theorem mem_childrenOfFields {path : Locator} {fields : Fields} {child : Child}
    (h : child ∈ childrenOfFields path fields) :
    (child.name, child.value) ∈ fields ∧ child.path = path.field child.name := by
  obtain ⟨field, hfield, rfl⟩ := List.mem_map.mp h
  exact ⟨hfield, rfl⟩

/-- A child is a field of the node, or a field of an item of the node. -/
theorem mem_childrenAt {path : Locator} {node : Value} {child : Child}
    (h : child ∈ childrenAt path node) :
    (∃ fields, node = .object fields ∧ (child.name, child.value) ∈ fields ∧
      child.path = path.field child.name) ∨
    ∃ items i fields, node = .array items ∧ items[i]? = some (.object fields) ∧
      (child.name, child.value) ∈ fields ∧ child.path = path.entry i child.name := by
  cases node with
  | object fields =>
    obtain ⟨hfield, hpath⟩ := mem_childrenOfFields h
    exact .inl ⟨fields, rfl, hfield, hpath⟩
  | array items =>
    obtain ⟨⟨item, i⟩, hitem, h⟩ := List.mem_flatMap.mp h
    have hitem : items[i]? = some item := List.mem_zipIdx_iff_getElem?.mp hitem
    cases item with
    | object fields =>
      obtain ⟨hfield, hpath⟩ := mem_childrenOfFields h
      exact .inr ⟨items, i, fields, rfl, hitem, hfield, hpath⟩
    | _ => cases h
  | _ => cases h

/-! ## What stands where -/

/-- A node of a document, read as something, and the number of branches and groups that it is in,
itself included. -/
inductive StandsAs (document : Value) : Role → Nat → Locator → Value → Prop where
  | root : StandsAs document (.body .root) 0 [] document
  | child {role inner : Role} {level : Nat} {path : Locator} {node : Value} {child : Child}
      (around : StandsAs document role level path node) (isChild : child ∈ childrenAt path node)
      (called : role.below child.name = some inner) :
    StandsAs document inner (level + inner.levels) child.path child.value

/-- A child of a node that is read as something, with the children that stand before it. -/
def Under (document : Value) (role : Role) (level : Nat) (before : List Child) (child : Child) :
    Prop :=
  ∃ path node after, StandsAs document role level path node ∧
    childrenAt path node = before ++ child :: after

/-- What is expected of a node: what goes for its role, or being an object as the items
of an array. -/
inductive Expects (document : Value) : Shape → Locator → Value → Prop where
  | node {role : Role} {level : Nat} {path : Locator} {node : Value}
      (isNode : StandsAs document role level path node) : Expects document role.shape path node
  | item {role : Role} {level i : Nat} {path : Locator} {items : List Value} {item : Value}
      (around : StandsAs document role level path (.array items))
      (hasChildren : role.shape = .arrayOfObjects) (isItem : items[i]? = some item) :
    Expects document .object (path.item i) item

/-- Whether a child is a condition, of any form. -/
def Child.IsCondition (child : Child) : Prop :=
  ∃ statement : Statement, child.name = statement.name ∧ statement.isCondition = true

/-- What a problem says about a node at a place of a document. -/
inductive Defect {T : Type} (engine : Engine T) (document : Value) :
    Problem → Locator → Value → Prop
    where
  | unexpected {role : Role} {level : Nat} {before : List Child} {child : Child}
      {parent : Statement}
      (isChild : Under document role level before child) (parentIs : role.statement? = some parent)
      (notPermitted : ∀ statement ∈ parent.permitted, child.name ≠ statement.name) :
    Defect engine document (.unexpectedStatement child.name parent) child.path child.value
  | misplaced {body : Body} {level : Nat} {before : List Child} {child : Child}
      {statement : Statement}
      (isChild : Under document (.body body) level before child)
      (called : child.name = statement.name)
      (noBranch : statement.isBranch = false) :
    Defect engine document (.misplacedStatement statement body) child.path child.value
  | secondCondition {negated : Bool} {level : Nat} {before : List Child} {first child : Child}
      {statement : Statement} (isChild : Under document (.branch negated) level before child)
      (called : child.name = statement.name) (isCondition : statement.isCondition = true)
      (isBefore : first ∈ before) (firstIsCondition : first.IsCondition) :
    Defect engine document (.duplicateCondition statement (Branch.statementOf negated)) child.path
      child.value
  | secondBody {negated : Bool} {level : Nat} {before : List Child} {first child : Child}
      {statement : Statement} (isChild : Under document (.branch negated) level before child)
      (called : child.name = statement.name) (isBody : statement.isBody = true)
      (isBefore : first ∈ before) (sameName : first.name = child.name) :
    Defect engine document (.duplicateStatement statement (Branch.statementOf negated)) child.path
      child.value
  | noCondition {negated : Bool} {level : Nat} {path : Locator} {node : Value}
      (isNode : StandsAs document (.branch negated) level path node)
      (none : ∀ child ∈ childrenAt path node, ¬ child.IsCondition) :
    Defect engine document (.missingCondition (Branch.statementOf negated)) path node
  | noThen {negated : Bool} {level : Nat} {path : Locator} {node : Value}
      (isNode : StandsAs document (.branch negated) level path node)
      (hasCondition : ∃ child ∈ childrenAt path node, child.IsCondition)
      (none : ∀ child ∈ childrenAt path node, child.name ≠ Statement.thenBody.name) :
    Defect engine document (.missingThen (Branch.statementOf negated)) path node
  | otherSort {expected : Shape} {path : Locator} {node : Value}
      (expects : Expects document expected path node)
      (notAdmitted : expected.admits engine.settings node.kind = false) :
    Defect engine document (.invalidNode expected node.kind) path node
  | tooDeep {role : Role} {path : Locator} {node : Value} (nests : role.levels = 1)
      (isNode : StandsAs document role (engine.settings.maxDepth + 1) path node) :
    Defect engine document (.tooDeep engine.settings.maxDepth) path node
  | noDiscriminator {level : Nat} {path : Locator} {fields : Fields}
      (isNode : StandsAs document .condition level path (.object fields))
      (none : ∀ kind, Fields.get? fields engine.settings.discriminator ≠ some (.text kind)) :
    Defect engine document (.missingDiscriminator engine.settings.discriminator) path
      (.object fields)
  | unbuiltCondition {level : Nat} {path : Locator} {fields : Fields} {kind : String}
      {problem : BuildProblem} (isNode : StandsAs document .condition level path (.object fields))
      (kindIs : Fields.get? fields engine.settings.discriminator = some (.text kind))
      (unbuilt : engine.conditions.Refuses kind
        (Fields.without fields engine.settings.discriminator) problem) :
    Defect engine document (.build problem) path (.object fields)
  | unbuiltConsumer {level : Nat} {path : Locator} {node : Value} {kind : String} {config : Fields}
      {problem : BuildProblem} (isNode : StandsAs document (.consumer kind) level path node)
      (configIs : node.configuration = .ok config)
      (unbuilt : engine.consumers.Refuses kind config problem) :
    Defect engine document (.build problem) path node

/-! ## Places lead to nodes -/

variable {document : Value} {role inner : Role} {level : Nat} {path : Locator} {node : Value}

/-- A field of an object is found at its name. -/
theorem at?_field {fields : Fields} (h : document.at? path = some (.object fields))
    (name : String) : document.at? (path.field name) = Fields.get? fields name := by
  rw [Locator.field, Value.at?_append, h, Option.bind_some, Value.at?, List.foldlM_cons]
  exact bind_pure _

/-- An item of an array is found at its index. -/
theorem at?_item {items : List Value} (h : document.at? path = some (.array items)) (i : Nat) :
    document.at? (path.item i) = items[i]? := by
  rw [Locator.item, Value.at?_append, h, Option.bind_some, Value.at?, List.foldlM_cons]
  exact bind_pure _

/-- Below a node that its place leads to, the places of the children lead to the children. -/
theorem at?_and_distinct_of_mem (hat : document.at? path = some node) (hnode : node.Distinct)
    {child : Child} (h : child ∈ childrenAt path node) :
    document.at? child.path = some child.value ∧ child.value.Distinct := by
  obtain ⟨fields, rfl, hfield, hpath⟩ | ⟨items, i, fields, rfl, hitem, hfield, hpath⟩ :=
    mem_childrenAt h
  · obtain ⟨hnames, hvalues⟩ := Value.distinct_object_iff.mp hnode
    rw [hpath, at?_field hat, Fields.get?_eq_some_of_mem hnames hfield]
    exact ⟨rfl, hvalues _ hfield⟩
  · have hobject := Value.distinct_array_iff.mp hnode _ (List.mem_of_getElem? hitem)
    obtain ⟨hnames, hvalues⟩ := Value.distinct_object_iff.mp hobject
    have hatItem := (at?_item hat i).trans hitem
    rw [hpath, Locator.entry, at?_field hatItem, Fields.get?_eq_some_of_mem hnames hfield]
    exact ⟨rfl, hvalues _ hfield⟩

/-- A node that stands somewhere is found there. -/
theorem StandsAs.at?_and_distinct (h : StandsAs document role level path node)
    (hdistinct : document.Distinct) : document.at? path = some node ∧ node.Distinct := by
  induction h with
  | root => exact ⟨rfl, hdistinct⟩
  | child _ isChild _ ih =>
    obtain ⟨hat, hnode⟩ := ih
    exact at?_and_distinct_of_mem hat hnode isChild

theorem Under.exists_around {before : List Child} {child : Child}
    (h : Under document role level before child) :
    ∃ path node, StandsAs document role level path node ∧ child ∈ childrenAt path node := by
  obtain ⟨path, node, after, hnode, hchildren⟩ := h
  refine ⟨path, node, hnode, ?_⟩
  rw [hchildren]
  exact List.mem_append_right _ List.mem_cons_self

/-- A child that is allowed is read as its name says. -/
theorem Under.standsAs {before : List Child} {child : Child}
    (h : Under document role level before child) (hrole : role.below child.name = some inner) :
    StandsAs document inner (level + inner.levels) child.path child.value := by
  obtain ⟨path, node, hnode, hmem⟩ := h.exists_around
  exact .child hnode hmem hrole

/-- The last step of the way to a child is the field that it is called by. -/
theorem Under.exists_path {before : List Child} {child : Child}
    (h : Under document role level before child) :
    ∃ around : Locator, child.path = around.field child.name := by
  obtain ⟨path, node, -, hmem⟩ := h.exists_around
  obtain ⟨-, -, -, hpath⟩ | ⟨-, i, -, -, -, -, hpath⟩ := mem_childrenAt hmem
  · exact ⟨path, hpath⟩
  · exact ⟨path.item i, hpath⟩

/-- A child is there, whether or not its name is allowed. -/
theorem Under.at? {before : List Child} {child : Child}
    (h : Under document role level before child) (hdistinct : document.Distinct) :
    document.at? child.path = some child.value := by
  obtain ⟨path, node, hnode, hmem⟩ := h.exists_around
  obtain ⟨hat, hdistinct⟩ := hnode.at?_and_distinct hdistinct
  exact (at?_and_distinct_of_mem hat hdistinct hmem).1

/-- A node that something else was expected of is found at its place. -/
theorem Expects.at? {expected : Shape} (h : Expects document expected path node)
    (hdistinct : document.Distinct) : document.at? path = some node := by
  cases h with
  | node isNode => exact (isNode.at?_and_distinct hdistinct).1
  | item around _ isItem =>
    rw [at?_item (around.at?_and_distinct hdistinct).1]
    exact isItem

variable {T : Type} {engine : Engine T}

/-- **The place of a defect leads to the node that has it.** -/
theorem Defect.at? {problem : Problem} (h : Defect engine document problem path node)
    (hdistinct : document.Distinct) : document.at? path = some node := by
  cases h with
  | unexpected isChild | misplaced isChild | secondCondition isChild | secondBody isChild =>
    exact isChild.at? hdistinct
  | otherSort expects => exact expects.at? hdistinct
  | noCondition isNode | noThen isNode | tooDeep _ isNode | noDiscriminator isNode
  | unbuiltCondition isNode | unbuiltConsumer isNode => exact (isNode.at?_and_distinct hdistinct).1

/-- The name that a problem is about. -/
def Problem.tag? : Problem → Option String
  | .unexpectedStatement name _ => some name
  | .misplacedStatement statement _ | .duplicateCondition statement _
  | .duplicateStatement statement _ => some statement.name
  | _ => none

/-- A problem about a name is found at a field of this name. -/
theorem Defect.exists_path {problem : Problem} {name : String}
    (h : Defect engine document problem path node) (hname : problem.tag? = some name) :
    ∃ around : Locator, path = around.field name := by
  cases h with
  | unexpected isChild =>
    obtain rfl := Option.some.inj hname
    exact isChild.exists_path
  | misplaced isChild called | secondCondition isChild called | secondBody isChild called =>
    obtain rfl := Option.some.inj hname
    rw [← called]
    exact isChild.exists_path
  | _ => cases hname

/-! ## What the reader fails with -/

/-- An error that names a defect of the document. -/
def Faulty (engine : Engine T) (document : Value) (e : Error) : Prop :=
  ∃ node, Defect engine document e.problem e.path node

section Faulty

variable {e : Error} {budget : Nat} {before after : List Child} {child : Child}

/-- A node whose children cannot be listed has the wrong shape. -/
theorem faulty_of_children (hnode : StandsAs document role level path node)
    (hshape : role.shape = .arrayOfObjects) (h : children engine.settings node path = .error e) :
    Faulty engine document e := by
  obtain ⟨hadmits, rfl⟩ | ⟨items, i, item, rfl, hitem, hkind, rfl⟩ := children_eq_error h
  · have hexpects : Expects document .arrayOfObjects path node := hshape ▸ .node hnode
    exact ⟨node, .otherSort hexpects hadmits⟩
  · exact ⟨item, .otherSort (.item hnode hshape hitem) (decide_eq_false hkind)⟩

/-- The children of a node that is read, each with those before it. -/
theorem under_of_children (hnode : StandsAs document role level path node) {cs : List Child}
    (hchildren : children engine.settings node path = .ok cs)
    (hsplit : cs = before ++ child :: after) : Under document role level before child :=
  ⟨path, node, after, hnode, (eq_childrenAt hchildren).symm.trans hsplit⟩

theorem faulty_of_readPredicate (hnode : StandsAs document .condition level path node)
    (h : readPredicate engine node path = .error e) : Faulty engine document e := by
  obtain ⟨hkind, rfl⟩ | ⟨fields, rfl, ⟨hnone, rfl⟩ |
      ⟨kind, problem, hkind, hrefuses, rfl⟩⟩ :=
    readPredicate_eq_error h
  · exact ⟨node, .otherSort (.node hnode) (decide_eq_false hkind)⟩
  · have hmissing :
        ∀ kind, Fields.get? fields engine.settings.discriminator ≠ some (.text kind) := by
      intro kind hkind
      rw [hkind] at hnone
      cases hnone
    exact ⟨.object fields, .noDiscriminator hnode hmissing⟩
  · exact ⟨.object fields, .unbuiltCondition hnode hkind hrefuses⟩

theorem faulty_of_readConsumer {kind : String}
    (hnode : StandsAs document (.consumer kind) level path node)
    (h : readConsumer engine kind node path = .error e) : Faulty engine document e := by
  obtain ⟨hadmits, rfl⟩ | ⟨config, problem, hconfig, hrefuses, rfl⟩ :=
    readConsumer_eq_error h
  · exact ⟨node, .otherSort (.node hnode) hadmits⟩
  · exact ⟨node, .unbuiltConsumer hnode hconfig hrefuses⟩

/-- Groups that cannot be read with so many levels left have a defect. -/
def FaultyGroups (engine : Engine T) (document : Value) (budget : Nat) : Prop :=
  ∀ any level path node e, StandsAs document (.group any) level path node →
    level + budget = engine.settings.maxDepth + 1 →
    readGroup engine budget any node path = .error e → Faulty engine document e

/-- Branches and groups read their conditions alike. -/
theorem faulty_of_readCondition (hgroups : FaultyGroups engine document budget)
    (hlevel : level + budget = engine.settings.maxDepth) (hrole : role.statement?.isSome)
    (hunder : Under document role level before child) {statement : Statement}
    (hname : child.name = statement.name) (hcondition : statement.isCondition = true)
    (h : readCondition engine (readGroup engine budget) statement child.value child.path =
      .error e) : Faulty engine document e := by
  have hbelow := role.below_of_eq_name hname
  obtain ⟨rfl, hread⟩ | ⟨any, rfl, hread⟩ := readCondition_eq_error hcondition h
  · have hinner : role.ofStatement? .condition = some .condition := by
      cases role <;> first | rfl | cases hrole
    exact faulty_of_readPredicate (hunder.standsAs (hbelow.trans hinner)) hread
  · have hinner : role.ofStatement? (Condition.groupStatement any) = some (.group any) := by
      cases any <;> cases role <;> first | rfl | cases hrole
    have hnode := hunder.standsAs (hbelow.trans hinner)
    have hnext : level + 1 + budget = engine.settings.maxDepth + 1 := by omega
    exact hgroups any _ _ _ e hnode hnext hread

/-- The error of a group says what is wrong with it. -/
theorem faulty_of_readGroup (budget : Nat) : FaultyGroups engine document budget := by
  -- The levels left shrink with every group, and those above grow.
  induction budget with
  | zero =>
    intro any level path node e hnode hlevel h
    obtain rfl : level = engine.settings.maxDepth + 1 := hlevel
    obtain rfl : _ = e := Except.error.inj h
    exact ⟨node, .tooDeep rfl hnode⟩
  | succ budget ih =>
    intro any level path node e hnode hlevel h
    obtain h | ⟨cs, before, child, after, hchildren, hsplit, hchild⟩ := readGroup_eq_error h
    · exact faulty_of_children hnode rfl h
    · have hunder := under_of_children hnode hchildren hsplit
      obtain ⟨hname, rfl⟩ | ⟨statement, hname, hcondition, hread⟩ :=
        readMember_eq_error hchild
      · exact ⟨child.value, .unexpected hunder rfl hname⟩
      · have hlevel : level + budget = engine.settings.maxDepth := by omega
        exact faulty_of_readCondition ih hlevel rfl hunder hname hcondition hread

/-- Branches that cannot be read with so many levels left have a defect. -/
def FaultyBranches (engine : Engine T) (document : Value) (budget : Nat) : Prop :=
  ∀ negated level path node e, StandsAs document (.branch negated) level path node →
    level + budget = engine.settings.maxDepth + 1 →
    readBranch engine budget negated node path = .error e → Faulty engine document e

/-- The error of a body says what is wrong with it, if those of branches do. -/
theorem faulty_of_readBody (hbranches : FaultyBranches engine document budget) {body : Body}
    (hnode : StandsAs document (.body body) level path node)
    (hlevel : level + budget = engine.settings.maxDepth)
    (h : readBody engine budget body node path = .error e) : Faulty engine document e := by
  obtain h | ⟨cs, before, child, after, hchildren, hsplit, hchild⟩ := readBody_eq_error h
  · exact faulty_of_children hnode rfl h
  · have hunder := under_of_children hnode hchildren hsplit
    obtain ⟨statement, hname, hbranch, rfl⟩ | ⟨negated, hname, hread⟩ |
        ⟨hword, hread⟩ :=
      readEntry_eq_error hchild
    · exact ⟨child.value, .misplaced hunder hname hbranch⟩
    · have hinner : (Role.body body).ofStatement? (Branch.statementOf negated)
          = some (.branch negated) := by cases negated <;> rfl
      have hchildNode := hunder.standsAs ((Role.below_of_eq_name _ hname).trans hinner)
      have hnext : level + 1 + budget = engine.settings.maxDepth + 1 := by omega
      exact hbranches negated _ _ _ e hchildNode hnext hread
    · have hinner : (Role.body body).below child.name = some (.consumer child.name) := by
        rw [Role.below, hword]
        rfl
      exact faulty_of_readConsumer (hunder.standsAs hinner) hread

theorem Child.isCondition_iff :
    child.IsCondition ↔ Part.ofName? child.name = some .condition := by
  constructor
  · rintro ⟨statement, hname, hcondition⟩
    rw [hname, Part.ofName?, Statement.lookup_name]
    cases statement <;> first | rfl | cases hcondition
  · intro h
    rw [Part.ofName?_eq_condition_iff] at h
    simp only [List.mem_cons, List.not_mem_nil, or_false] at h
    obtain hname | hname | hname := h
    · exact ⟨.condition, hname, rfl⟩
    · exact ⟨.allOf, hname, rfl⟩
    · exact ⟨.anyOf, hname, rfl⟩

theorem Part.among_eq_nil_iff {part : Part} {cs : List Child} :
    part.among cs = [] ↔ ∀ child ∈ cs, Part.ofName? child.name ≠ some part := by
  rw [Part.among, List.filter_eq_nil_iff]
  simp only [decide_eq_true_eq, ne_eq]

/-- A branch whose children were read lacks a condition or a `then` side. -/
theorem faulty_of_missing {negated : Bool} {cs : List Child}
    (hnode : StandsAs document (.branch negated) level path node)
    (hchildren : children engine.settings node path = .ok cs)
    (h : (Part.condition.among cs = [] ∧
        e = ⟨.missingCondition (Branch.statementOf negated), path⟩) ∨
      (Part.condition.among cs ≠ [] ∧ Part.thenBody.among cs = [] ∧
        e = ⟨.missingThen (Branch.statementOf negated), path⟩)) :
    Faulty engine document e := by
  obtain rfl := eq_childrenAt hchildren
  obtain ⟨hnone, rfl⟩ | ⟨hcondition, hnone, rfl⟩ := h
  · rw [Part.among_eq_nil_iff] at hnone
    have hnone : ∀ child ∈ childrenAt path node, ¬ child.IsCondition :=
      fun child hchild hcondition => hnone child hchild (Child.isCondition_iff.mp hcondition)
    exact ⟨node, .noCondition hnode hnone⟩
  · obtain ⟨first, hfirst⟩ := List.exists_mem_of_ne_nil _ hcondition
    have hfirstCondition := Child.isCondition_iff.mpr (Part.ofName?_of_mem_among hfirst)
    rw [Part.among_eq_nil_iff] at hnone
    have hnone : ∀ child ∈ childrenAt path node, child.name ≠ Statement.thenBody.name :=
      fun child hchild hname => hnone child hchild (Part.ofName?_eq_thenBody_iff.mpr hname)
    exact ⟨node,
      .noThen hnode ⟨first, List.mem_of_mem_filter hfirst, hfirstCondition⟩ hnone⟩

/-- The error of a branch says what is wrong with it. -/
theorem faulty_of_readBranch (budget : Nat) : FaultyBranches engine document budget := by
  induction budget with
  | zero =>
    intro negated level path node e hnode hlevel h
    obtain rfl : level = engine.settings.maxDepth + 1 := hlevel
    obtain rfl : _ = e := Except.error.inj h
    exact ⟨node, .tooDeep rfl hnode⟩
  | succ budget ih =>
    intro negated level path node e hnode hlevel h
    have hlevel : level + budget = engine.settings.maxDepth := by omega
    obtain h | ⟨cs, hchildren, h⟩ := readBranch_eq_error h
    · exact faulty_of_children hnode rfl h
    · obtain ⟨before, child, after, hsplit, hpart⟩ | hmissing := h
      · have hunder := under_of_children hnode hchildren hsplit
        cases hpart with
        | unexpected hname he =>
          subst he
          exact ⟨child.value, .unexpected hunder rfl hname⟩
        | secondCondition hfirst hname hcondition he =>
          have hfirstCondition := Child.isCondition_iff.mpr (Part.ofName?_of_mem_among hfirst)
          subst he
          exact ⟨child.value,
            .secondCondition hunder hname hcondition (List.mem_of_mem_filter hfirst)
              hfirstCondition⟩
        | secondBody hfirst hsame hname hbody he =>
          subst he
          exact ⟨child.value, .secondBody hunder hname hbody hfirst hsame⟩
        | condition hname hcondition hread =>
          exact faulty_of_readCondition (faulty_of_readGroup budget) hlevel rfl hunder hname
            hcondition hread
        | thenBody hname hread =>
          have hchild := hunder.standsAs (Role.below_of_eq_name _ hname)
          exact faulty_of_readBody ih hchild hlevel hread
        | elseBody hname hread =>
          have hchild := hunder.standsAs (Role.below_of_eq_name _ hname)
          exact faulty_of_readBody ih hchild hlevel hread
      · exact faulty_of_missing hnode hchildren hmissing

end Faulty

end Document

variable {T : Type} {engine : Engine T} {document : Value} {e : Document.Error}

theorem Engine.faulty_of_read (h : engine.read document = .error e) :
    Document.Faulty engine document e :=
  Document.faulty_of_readBody (Document.faulty_of_readBranch _) .root (Nat.zero_add _)
    (Document.eq_error_of_return h)

/-- **The reader fails with a defect of the document**: the place of the error leads to the node
that has it, and if the problem is about a name, the last step is the field of this name. -/
theorem Engine.defect_of_read (hdistinct : document.Distinct)
    (h : engine.read document = .error e) :
    ∃ node, document.at? e.path = some node ∧
      Document.Defect engine document e.problem e.path node ∧
      ∀ name, e.problem.tag? = some name →
        ∃ around : Locator, e.path = around.field name := by
  obtain ⟨node, hdefect⟩ := Engine.faulty_of_read h
  exact ⟨node, hdefect.at? hdistinct, hdefect, fun name hname => hdefect.exists_path hname⟩

/-- A branch whose `then` side holds a consumer and another `then`. -/
def Document.strayThen : Value :=
  .single "if" (.array [
    .single "condition" (.single "type" (.text "always")),
    .single "then"
      (.array [.single "trim" (.single "field" (.text "name")), .single "then" .null])])

/-- A `then` in a `then` is found where the error says. -/
theorem Engine.defect_of_read_strayThen :
    Document.strayThen.Distinct ∧
      ∃ path : Locator, path.text = "$.if[1].then[1].then" ∧
        Builtin.engine.read Document.strayThen
          = .error ⟨.misplacedStatement .thenBody .thenSide, path⟩ ∧
        ∃ node, Document.strayThen.at? path = some node ∧
          Document.Defect Builtin.engine Document.strayThen
            (.misplacedStatement .thenBody .thenSide) path node ∧
          ∃ around : Locator, path = around.field "then" := by
  have hdistinct : Document.strayThen.Distinct := by
    simp [Document.strayThen, Value.single, Value.Distinct, Value.DistinctItems,
      Value.DistinctFields, Fields.names]
  have hread : Builtin.engine.read Document.strayThen
      = .error ⟨.misplacedStatement .thenBody .thenSide, _⟩ := rfl
  obtain ⟨node, hat, hdefect, hlast⟩ := Engine.defect_of_read hdistinct hread
  exact ⟨hdistinct, _, by decide, hread, node, hat, hdefect, hlast "then" rfl⟩

end DecisionFlow
