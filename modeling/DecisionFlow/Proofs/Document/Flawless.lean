import DecisionFlow.Proofs.Document.Defects
import DecisionFlow.Proofs.Document.Positions

/-!
# Documents without defects

The defects that errors speak of are those of documents that are refused: a document of the grammar
has none of them.

- `Accepts`: what the grammar asks of a node, by what it is read as.
- `Accepts.below`, `StandsAs.exists_accepts`: in a document of the grammar, all nodes are accepted.
- `IsBranch.not_second`: a branch of the grammar gives no part twice.
- `Defect.not_isBody`: a document with a defect is none of the grammar.
- `Engine.read_fails_iff_exists_defect`: **a document is refused exactly if it has a defect**.
-/

namespace DecisionFlow

namespace Document

variable {T : Type} {engine : Engine T} {document : Value} {role inner : Role} {level levels : Nat}
  {path : Locator} {node : Value} {child : Child}

/-! ## What the grammar asks of a node -/

/-- What the grammar asks of a node, with so many levels that may still nest. -/
def Accepts (engine : Engine T) (levels : Nat) : Role → Value → Prop
  | .body _, node => IsBody engine levels node
  | .branch _, node => IsBranch engine levels node
  | .group _, node => IsGroup engine levels node
  | .condition, node => IsPredicate engine node
  | .consumer kind, node => IsConsumer engine kind node

theorem map_field_childrenAt (path : Locator) (node : Value) :
    (childrenAt path node).map Child.field = childFields node := by
  cases node with
  | array items =>
    rw [childrenAt, childFields, List.map_flatMap, ← List.zipIdx_map_fst 0 items,
      List.flatMap_map]
    simp only [map_field_childrenOfFields, List.zipIdx_map_fst]
  | object fields => exact map_field_childrenOfFields path fields
  | _ => rfl

theorem Lists.map_field_childrenAt {settings : Settings} {fields : Fields}
    (h : Lists settings node fields) (path : Locator) :
    (childrenAt path node).map Child.field = fields := by
  rw [Document.map_field_childrenAt, h.eq_childFields]

/-- What goes for the fields that a node lists goes for its children. -/
theorem Lists.forall_childrenAt {settings : Settings} {fields : Fields}
    {P : String → Value → Prop} (h : Lists settings node fields)
    (hfields : ∀ field ∈ fields, P field.1 field.2) (hchild : child ∈ childrenAt path node) :
    P child.name child.value := by
  rw [← h.map_field_childrenAt path] at hfields
  exact hfields _ (List.mem_map_of_mem hchild)

/-! ## Nodes below accepted nodes -/

theorem IsCondition.exists_name {name : String} (h : IsCondition engine levels name node) :
    ∃ statement : Statement, name = statement.name ∧ statement.isCondition = true := by
  cases h with
  | predicate => exact ⟨.condition, rfl, rfl⟩
  | @group _ any => exact ⟨Condition.groupStatement any, rfl, by cases any <;> rfl⟩

/-- Conditions are accepted as what they are read as below a branch or a group. -/
theorem IsCondition.accepts {name : String} (h : IsCondition engine levels name node)
    (hrole : role.statement?.isSome) (hbelow : role.below name = some inner) :
    Accepts engine levels inner node := by
  cases h with
  | predicate predicate =>
    have hinner : role.ofStatement? .condition = some .condition := by
      cases role <;> first | rfl | cases hrole
    rw [role.below_of_eq_name rfl, hinner] at hbelow
    obtain rfl := Option.some.inj hbelow
    exact predicate
  | @group _ any _ group =>
    have hinner : role.ofStatement? (Condition.groupStatement any) = some (.group any) := by
      cases any <;> cases role <;> first | rfl | cases hrole
    rw [role.below_of_eq_name rfl, hinner] at hbelow
    obtain rfl := Option.some.inj hbelow
    exact group

/-- A child of an accepted node is accepted, with one level less below a branch or a group. -/
theorem Accepts.below (h : Accepts engine levels role node)
    (hchild : child ∈ childrenAt path node) (hbelow : role.below child.name = some inner) :
    ∃ left, levels = left + role.levels ∧ Accepts engine left inner child.value := by
  obtain ⟨name, value, place⟩ := child
  cases role with
  | body body =>
    obtain ⟨hlists, hentries⟩ := h
    have hentry : IsEntry engine levels name value := hlists.forall_childrenAt hentries hchild
    refine ⟨levels, rfl, ?_⟩
    cases hentry with
    | @branch _ negated _ branch =>
      have hinner : (Role.body body).ofStatement? (Branch.statementOf negated)
          = some (.branch negated) := by cases negated <;> rfl
      rw [Role.below_of_eq_name _ rfl, hinner] at hbelow
      obtain rfl := Option.some.inj hbelow
      exact branch
    | consumer noStatement consumer =>
      rw [Role.below, Statement.lookup_eq_none_iff.mpr noStatement, Option.elim_none] at hbelow
      obtain rfl := Option.some.inj hbelow
      exact consumer
  | branch negated =>
    obtain ⟨hlists, hparts⟩ := h
    have hpart : IsPart engine _ name value := hlists.forall_childrenAt hparts hchild
    refine ⟨_, rfl, ?_⟩
    cases hpart with
    | condition condition => exact condition.accepts rfl hbelow
    | thenBody body | elseBody body =>
      rw [Role.below_of_eq_name _ rfl] at hbelow
      obtain rfl := Option.some.inj hbelow
      exact body
  | group any =>
    obtain ⟨hlists, hmembers⟩ := h
    have hmember : IsCondition engine _ name value := hlists.forall_childrenAt hmembers hchild
    exact ⟨_, rfl, hmember.accepts rfl hbelow⟩
  | condition | consumer kind =>
    -- What is below these is configuration.
    rw [Role.below] at hbelow
    cases hword : Statement.lookup name <;> rw [hword] at hbelow <;> cases hbelow

/-- **Whatever is read in a document of the grammar is accepted**, with the levels that are left
there. -/
theorem StandsAs.exists_accepts (h : StandsAs document role level path node) {limit : Nat}
    (hdocument : IsBody engine limit document) :
    ∃ levels, level + levels = limit + role.levels ∧ Accepts engine levels role node := by
  induction h with
  | root => exact ⟨limit, Nat.zero_add _, hdocument⟩
  | child _ isChild called ih =>
    obtain ⟨levels, hlevels, haccepts⟩ := ih
    obtain ⟨left, rfl, hchild⟩ := haccepts.below isChild called
    exact ⟨left, by omega, hchild⟩

/-- An accepted node is of the sort that is expected. -/
theorem Accepts.admits (h : Accepts engine levels role node) :
    role.shape.admits engine.settings node.kind = true := by
  cases role with
  | body | branch | group =>
    obtain ⟨hlists, -⟩ := h
    cases hlists with
    | null | array => rfl
    | object fields allowed => simp [Role.shape, Shape.admits, Value.kind, allowed]
  | condition =>
    obtain ⟨-, -, -⟩ := h
    rfl
  | consumer kind =>
    cases h with
    | null | object => rfl

/-! ## No defects -/

/-- A statement that an entry of a body is called by is a branch. -/
theorem IsEntry.isBranch_of_eq_name {name : String} {statement : Statement}
    (h : IsEntry engine levels name node) (hname : name = statement.name) :
    statement.isBranch = true := by
  have hlookup := Statement.lookup_eq_some_iff.mpr hname
  cases h with
  | @branch _ negated =>
    rw [Statement.lookup_name] at hlookup
    obtain rfl := Option.some.inj hlookup
    cases negated <;> rfl
  | consumer noStatement => exact absurd hname (noStatement statement)

/-- A part of a branch stands under a name that its statement permits. -/
theorem IsPart.exists_permitted {name : String} (h : IsPart engine levels name node)
    (negated : Bool) :
    ∃ statement ∈ (Branch.statementOf negated).permitted, name = statement.name := by
  rw [Branch.permitted_statementOf]
  cases h with
  | condition condition =>
    obtain ⟨statement, rfl, hcondition⟩ := condition.exists_name
    refine ⟨statement, ?_, rfl⟩
    cases statement <;> first | decide | cases hcondition
  | thenBody => exact ⟨.thenBody, by decide, rfl⟩
  | elseBody => exact ⟨.elseBody, by decide, rfl⟩

/-- Children of accepted branches and groups are called like a statement that is permitted there. -/
theorem Accepts.exists_permitted (h : Accepts engine levels role node)
    (hchild : child ∈ childrenAt path node) {parent : Statement}
    (hparent : role.statement? = some parent) :
    ∃ statement ∈ parent.permitted, child.name = statement.name := by
  cases role with
  | branch negated =>
    obtain rfl := Option.some.inj hparent
    obtain ⟨hlists, hparts⟩ := h
    have hpart : IsPart engine _ child.name child.value := hlists.forall_childrenAt hparts hchild
    exact hpart.exists_permitted negated
  | group any =>
    obtain rfl := Option.some.inj hparent
    obtain ⟨hlists, hmembers⟩ := h
    have hmember : IsCondition engine _ child.name child.value :=
      hlists.forall_childrenAt hmembers hchild
    obtain ⟨statement, hname, hcondition⟩ := hmember.exists_name
    refine ⟨statement, ?_, hname⟩
    rw [Condition.permitted_groupStatement]
    cases statement <;> first | decide | cases hcondition
  | _ => cases hparent

/-- How many children of an accepted branch give each part. -/
theorem IsBranch.length_among (h : IsBranch engine levels node) (path : Locator) :
    (Part.condition.among (childrenAt path node)).length = 1 ∧
      (Part.thenBody.among (childrenAt path node)).length = 1 ∧
      (Part.elseBody.among (childrenAt path node)).length ≤ 1 := by
  obtain ⟨hlists, -, hcondition, hthen, helse⟩ := h
  simp only [Part.length_among, hlists.map_field_childrenAt, Part.ofName?_eq_condition_iff,
    Part.ofName?_eq_thenBody_iff, Part.ofName?_eq_elseBody_iff]
  exact ⟨hcondition, hthen, helse⟩

theorem Part.among_append {part : Part} (before after : List Child) :
    part.among (before ++ after) = part.among before ++ part.among after :=
  List.filter_append _ _

/-- No part of an accepted branch is given a second time. -/
theorem IsBranch.not_second (h : IsBranch engine levels node) {before after : List Child}
    {first : Child} {part : Part} (hchildren : childrenAt path node = before ++ child :: after)
    (hmem : first ∈ before) (hfirst : Part.ofName? first.name = some part) :
    Part.ofName? child.name ≠ some part := by
  intro hchild
  have hatMost : (part.among (childrenAt path node)).length ≤ 1 := by
    obtain ⟨hcondition, hthen, helse⟩ := h.length_among path
    cases part with
    | condition => exact Nat.le_of_eq hcondition
    | thenBody => exact Nat.le_of_eq hthen
    | elseBody => exact helse
  have hbefore : first ∈ part.among before :=
    List.mem_filter.mpr ⟨hmem, decide_eq_true hfirst⟩
  have hpos := List.length_pos_of_mem hbefore
  rw [hchildren, Part.among_append, Part.among_cons, if_pos hchild, List.length_append,
    List.length_cons] at hatMost
  omega

/-- What a registry refuses to build, its factories do not accept. -/
theorem not_accepted_of_refuses {B : Type} {r : Registry B} {kind : String} {config : Fields}
    {problem : BuildProblem} (h : r.Refuses kind config problem) {factory : Factory B}
    {behaviour : B} (hregistered : r.factory? kind = some factory) :
    factory config ≠ .ok behaviour := by
  intro haccepted
  cases h with
  | unknown unregistered =>
    rw [unregistered] at hregistered
    cases hregistered
  | rejected registered rejects =>
    obtain rfl := Option.some.inj (registered.symm.trans hregistered)
    rw [rejects] at haccepted
    cases haccepted

/-- A shape that the grammar asks for admits what a readable document has there. -/
theorem Expects.admits {expected : Shape} (h : Expects document expected path node)
    (hdocument : IsBody engine engine.settings.maxDepth document) :
    expected.admits engine.settings node.kind = true := by
  cases h with
  | node isNode =>
    obtain ⟨levels, -, haccepts⟩ := isNode.exists_accepts hdocument
    exact haccepts.admits
  | @item role level i path items item around hasChildren isItem =>
    obtain ⟨levels, -, haccepts⟩ := around.exists_accepts hdocument
    have hlists : ∃ fields, Lists engine.settings (.array items) fields := by
      cases role with
      | body | branch | group =>
        obtain ⟨hlists, -⟩ := haccepts
        exact ⟨_, hlists⟩
      | condition | consumer => cases hasChildren
    obtain ⟨fields, hlists⟩ := hlists
    obtain ⟨own, rfl⟩ := hlists.exists_item_eq_object (List.mem_of_getElem? isItem)
    rfl

/-- **A document of the grammar has no defect.** -/
theorem Defect.not_isBody {problem : Problem} (h : Defect engine document problem path node) :
    ¬ IsBody engine engine.settings.maxDepth document := by
  intro hdocument
  cases h with
  | unexpected isChild parentIs notPermitted =>
    obtain ⟨place, around, haround, hmem⟩ := isChild.exists_around
    obtain ⟨levels, -, haccepts⟩ := haround.exists_accepts hdocument
    obtain ⟨statement, hstatement, hname⟩ := haccepts.exists_permitted hmem parentIs
    exact notPermitted statement hstatement hname
  | @misplaced _ _ _ child _ isChild called noBranch =>
    obtain ⟨place, around, haround, hmem⟩ := isChild.exists_around
    obtain ⟨levels, -, hlists, hentries⟩ := haround.exists_accepts hdocument
    have hentry : IsEntry engine levels child.name child.value :=
      hlists.forall_childrenAt hentries hmem
    rw [hentry.isBranch_of_eq_name called] at noBranch
    cases noBranch
  | secondCondition isChild called isCondition isBefore firstIsCondition =>
    obtain ⟨place, around, after, haround, hchildren⟩ := isChild
    obtain ⟨levels, -, haccepts⟩ := haround.exists_accepts hdocument
    have hfirst := Child.isCondition_iff.mp firstIsCondition
    have hchild := Child.isCondition_iff.mp ⟨_, called, isCondition⟩
    exact IsBranch.not_second haccepts hchildren isBefore hfirst hchild
  | @secondBody _ _ _ _ child statement isChild called isBody isBefore sameName =>
    obtain ⟨place, around, after, haround, hchildren⟩ := isChild
    obtain ⟨levels, -, haccepts⟩ := haround.exists_accepts hdocument
    obtain ⟨part, hpart⟩ : ∃ part, Part.ofName? child.name = some part := by
      rw [called]
      cases statement with
      | thenBody => exact ⟨.thenBody, by decide⟩
      | elseBody => exact ⟨.elseBody, by decide⟩
      | _ => cases isBody
    exact IsBranch.not_second haccepts hchildren isBefore (sameName ▸ hpart) hpart
  | noCondition isNode none =>
    obtain ⟨levels, -, haccepts⟩ := isNode.exists_accepts hdocument
    obtain ⟨hone, -, -⟩ := IsBranch.length_among haccepts path
    have hnil : Part.condition.among (childrenAt path node) = [] :=
      Part.among_eq_nil_iff.mpr fun child hchild hpart =>
        none child hchild (Child.isCondition_iff.mpr hpart)
    rw [hnil] at hone
    cases hone
  | noThen isNode _ none =>
    obtain ⟨levels, -, haccepts⟩ := isNode.exists_accepts hdocument
    obtain ⟨-, hone, -⟩ := IsBranch.length_among haccepts path
    have hnil : Part.thenBody.among (childrenAt path node) = [] :=
      Part.among_eq_nil_iff.mpr fun child hchild hpart =>
        none child hchild (Part.ofName?_eq_thenBody_iff.mp hpart)
    rw [hnil] at hone
    cases hone
  | otherSort expects notAdmitted =>
    rw [expects.admits hdocument] at notAdmitted
    cases notAdmitted
  | @tooDeep role _ _ nests isNode =>
    -- No level is left for a branch or a group that deep.
    obtain ⟨levels, hlevels, haccepts⟩ := isNode.exists_accepts hdocument
    obtain rfl : levels = 0 := by omega
    cases role with
    | branch | group => cases haccepts
    | body | condition | consumer => cases nests
  | noDiscriminator isNode none =>
    obtain ⟨levels, -, haccepts⟩ := isNode.exists_accepts hdocument
    cases haccepts with
    | intro discriminator => exact none _ discriminator
  | unbuiltCondition isNode kindIs unbuilt =>
    obtain ⟨levels, -, haccepts⟩ := isNode.exists_accepts hdocument
    cases haccepts with
    | intro discriminator registered accepted =>
      rw [kindIs] at discriminator
      cases discriminator
      exact not_accepted_of_refuses unbuilt registered accepted
  | unbuiltConsumer isNode configIs unbuilt =>
    obtain ⟨levels, -, haccepts⟩ := isNode.exists_accepts hdocument
    cases haccepts with
    | null registered accepted | object registered accepted =>
      obtain rfl := Except.ok.inj configIs
      exact not_accepted_of_refuses unbuilt registered accepted

end Document

/-- **A document is refused exactly if it has a defect.** -/
theorem Engine.read_fails_iff_exists_defect {T : Type} (engine : Engine T) (document : Value) :
    (∃ e, engine.read document = .error e) ↔
      ∃ problem path node, Document.Defect engine document problem path node := by
  constructor
  · rintro ⟨e, h⟩
    obtain ⟨node, hdefect⟩ := Engine.faulty_of_read h
    exact ⟨e.problem, e.path, node, hdefect⟩
  · rintro ⟨problem, path, node, hdefect⟩
    cases hread : engine.read document with
    | error e => exact ⟨e, rfl⟩
    | ok flow =>
      have hbody := (Engine.read_succeeds_iff engine document).mp ⟨flow, hread⟩
      exact absurd hbody hdefect.not_isBody

end DecisionFlow
