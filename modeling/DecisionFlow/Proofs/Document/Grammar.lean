import DecisionFlow.Proofs.Document.Reading

/-!
# The grammar of documents

Which trees are documents, said without the reader and without what they stand for.

- `IsPredicate`, `IsConsumer`: the nodes that the registries build.
- `IsCondition`, `IsGroup`: conditions, and groups of them.
- `IsBody`, `IsEntry`, `IsBranch`, `IsPart`: bodies and branches.
- `Engine.read_succeeds_iff`: the reader accepts exactly the bodies of this grammar.

Each form is indexed by the number of levels that branches and groups may still nest. A branch or a
group uses up one level, and its children have the rest.
-/

namespace DecisionFlow.Document

variable {T : Type} (engine : Engine T)

/-! ## The grammar -/

/-- An object whose discriminator names a registered type of conditions that accepts the other
fields. -/
inductive IsPredicate : Value → Prop where
  | intro {fields : Fields} {kind : String} {factory : Factory (Predicate T)}
      {behaviour : Predicate T}
      (discriminator : Fields.get? fields engine.settings.discriminator = some (.text kind))
      (registered : engine.conditions.factory? kind = some factory)
      (accepted : factory (Fields.without fields engine.settings.discriminator) = .ok behaviour) :
    IsPredicate (.object fields)

/-- A registered type of consumers with fields that it accepts; null stands for no fields. -/
inductive IsConsumer : String → Value → Prop where
  | null {kind : String} {factory : Factory (Consumer T)} {behaviour : Consumer T}
      (registered : engine.consumers.factory? kind = some factory)
      (accepted : factory [] = .ok behaviour) :
    IsConsumer kind .null
  | object {kind : String} {fields : Fields} {factory : Factory (Consumer T)}
      {behaviour : Consumer T}
      (registered : engine.consumers.factory? kind = some factory)
      (accepted : factory fields = .ok behaviour) :
    IsConsumer kind (.object fields)

mutual

/-- A child that is a condition: a single one, or a group. -/
inductive IsCondition : Nat → String → Value → Prop where
  | predicate {levels : Nat} {node : Value} (predicate : IsPredicate engine node) :
    IsCondition levels Statement.condition.name node
  | group {levels : Nat} {any : Bool} {node : Value} (group : IsGroup levels node) :
    IsCondition levels (Condition.groupStatement any).name node

/-- A group: its children are conditions. -/
inductive IsGroup : Nat → Value → Prop where
  | intro {levels : Nat} {node : Value} {fields : Fields}
      (lists : Lists engine.settings node fields)
      (members : ∀ field ∈ fields, IsCondition levels field.1 field.2) :
    IsGroup (levels + 1) node

end

mutual

/-- A body: its children are branches and consumers. -/
inductive IsBody : Nat → Value → Prop where
  | intro {levels : Nat} {node : Value} {fields : Fields}
      (lists : Lists engine.settings node fields)
      (entries : ∀ field ∈ fields, IsEntry levels field.1 field.2) :
    IsBody levels node

/-- A child of a body. A consumer bears a name that is no statement. -/
inductive IsEntry : Nat → String → Value → Prop where
  | branch {levels : Nat} {negated : Bool} {node : Value} (branch : IsBranch levels node) :
    IsEntry levels (Branch.statementOf negated).name node
  | consumer {levels : Nat} {name : String} {node : Value}
      (noStatement : ∀ statement : Statement, name ≠ statement.name)
      (consumer : IsConsumer engine name node) :
    IsEntry levels name node

/-- A branch: one condition, one `then` and at most one `else`, in any order, and nothing else. -/
inductive IsBranch : Nat → Value → Prop where
  | intro {levels : Nat} {node : Value} {fields : Fields}
      (lists : Lists engine.settings node fields)
      (parts : ∀ field ∈ fields, IsPart levels field.1 field.2)
      (oneCondition : fields.countP (·.1 ∈
        [Statement.condition.name, Statement.allOf.name, Statement.anyOf.name]) = 1)
      (oneThen : fields.countP (·.1 = Statement.thenBody.name) = 1)
      (oneElse : fields.countP (·.1 = Statement.elseBody.name) ≤ 1) :
    IsBranch (levels + 1) node

/-- A child of a branch: a condition, or the body of a side. -/
inductive IsPart : Nat → String → Value → Prop where
  | condition {levels : Nat} {name : String} {node : Value}
      (condition : IsCondition engine levels name node) :
    IsPart levels name node
  | thenBody {levels : Nat} {node : Value} (body : IsBody levels node) :
    IsPart levels Statement.thenBody.name node
  | elseBody {levels : Nat} {node : Value} (body : IsBody levels node) :
    IsPart levels Statement.elseBody.name node

end

/-! ## What the reader accepts -/

variable {engine}

/-- A predicate is read exactly when the grammar has it as one. -/
theorem exists_readPredicate_iff {value : Value} {path : Locator} :
    (∃ node, readPredicate engine value path = .ok node) ↔ IsPredicate engine value := by
  simp only [readPredicate_eq_ok_iff, Registry.build_eq_ok_iff]
  constructor
  · rintro ⟨node, fields, kind, rfl, hkind, factory, hfactory, behaviour, hbuilt, -⟩
    exact .intro hkind hfactory hbuilt
  · rintro ⟨hkind, hfactory, hbuilt⟩
    exact ⟨_, _, _, rfl, hkind, _, hfactory, _, hbuilt, rfl⟩

theorem exists_readConsumer_iff {kind : String} {value : Value} {path : Locator} :
    (∃ node, readConsumer engine kind value path = .ok node) ↔
      IsConsumer engine kind value := by
  simp only [readConsumer_eq_ok_iff, Registry.build_eq_ok_iff]
  constructor
  · rintro ⟨node, fields, hfields, factory, hfactory, behaviour, hbuilt, -⟩
    cases value with
    | null =>
      cases hfields
      exact .null hfactory hbuilt
    | object fields' =>
      cases hfields
      exact .object hfactory hbuilt
    | _ => cases hfields
  · rintro (⟨hfactory, hbuilt⟩ | ⟨hfactory, hbuilt⟩)
    · exact ⟨_, [], rfl, _, hfactory, _, hbuilt, rfl⟩
    · exact ⟨_, _, rfl, _, hfactory, _, hbuilt, rfl⟩

/-- A member of a group is accepted if groups are. -/
theorem exists_readMember_iff {levels : Nat}
    (hgroup : ∀ any node path,
      (∃ condition, readGroup engine levels any node path = .ok condition) ↔
        IsGroup engine levels node)
    {any : Bool} {child : Child} :
    (∃ condition, readMember engine (readGroup engine levels) any child = .ok condition) ↔
      IsCondition engine levels child.name child.value := by
  simp only [readMember_eq_ok_iff]
  constructor
  · rintro ⟨condition, ⟨hname, node, hnode, -⟩ | ⟨inner, hname, hcondition⟩⟩
    · rw [hname]
      exact .predicate (exists_readPredicate_iff.mp ⟨node, hnode⟩)
    · rw [hname]
      exact .group ((hgroup _ _ _).mp ⟨condition, hcondition⟩)
  · obtain ⟨name, value, path⟩ := child
    intro h
    cases h with
    | predicate predicate =>
      obtain ⟨node, hnode⟩ := exists_readPredicate_iff.mpr predicate
      exact ⟨.predicate node, .inl ⟨rfl, node, hnode, rfl⟩⟩
    | @group _ any _ group =>
      obtain ⟨condition, hcondition⟩ := (hgroup any _ _).mpr group
      exact ⟨condition, .inr ⟨any, rfl, hcondition⟩⟩

/-- What is asked of the children of a node is asked of the fields that it lists. -/
theorem exists_children_and_iff {node : Value} (path : Locator) {P : Fields → Prop} :
    (∃ cs, children engine.settings node path = .ok cs ∧ P (cs.map Child.field)) ↔
      ∃ fields, Lists engine.settings node fields ∧ P fields := by
  constructor
  · rintro ⟨cs, hcs, h⟩
    exact ⟨_, exists_children_iff.mp ⟨cs, hcs, rfl⟩, h⟩
  · rintro ⟨fields, hlists, h⟩
    obtain ⟨cs, hcs, rfl⟩ := exists_children_iff.mpr hlists
    exact ⟨cs, hcs, h⟩

/-- A node is accepted if it lists children that are accepted one by one. -/
theorem exists_children_forall_iff {node : Value} {path : Locator} {P : String → Value → Prop} :
    (∃ cs, children engine.settings node path = .ok cs ∧
      ∀ child ∈ cs, P child.name child.value) ↔
      ∃ fields, Lists engine.settings node fields ∧
        ∀ field ∈ fields, P field.1 field.2 := by
  rw [← exists_children_and_iff path (P := fun fields => ∀ field ∈ fields, P field.1 field.2)]
  simp only [List.forall_mem_map, Child.field]

/-- A group is read exactly when the grammar has it as one, whether all or any of it must pass. -/
theorem exists_readGroup_iff {levels : Nat} {any : Bool} {node : Value} {path : Locator} :
    (∃ condition, readGroup engine levels any node path = .ok condition) ↔
      IsGroup engine levels node := by
  induction levels generalizing any node path with
  | zero =>
    constructor
    · rintro ⟨condition, h⟩
      exact absurd h readGroup_zero
    · intro h
      cases h
  | succ levels ih =>
    have hmember : ∀ child,
        (∃ member, readMember engine (readGroup engine levels) any child = .ok member) ↔
          IsCondition engine levels child.name child.value :=
      fun child => exists_readMember_iff fun _ _ _ => ih
    calc
      (∃ condition, readGroup engine (levels + 1) any node path = .ok condition)
      _ ↔ ∃ cs, children engine.settings node path = .ok cs ∧
            ∀ child ∈ cs, IsCondition engine levels child.name child.value := by
        simp only [readGroup_eq_ok_iff, ← hmember, ← exists_forall₂_iff]
        constructor
        · rintro ⟨condition, cs, hcs, members, -, hmembers⟩
          exact ⟨cs, hcs, members, hmembers⟩
        · rintro ⟨cs, hcs, members, hmembers⟩
          exact ⟨_, cs, hcs, members, rfl, hmembers⟩
      _ ↔ ∃ fields, Lists engine.settings node fields ∧
            ∀ field ∈ fields, IsCondition engine levels field.1 field.2 :=
        exists_children_forall_iff
      _ ↔ IsGroup engine (levels + 1) node := by
        constructor
        · rintro ⟨fields, hlists, hmembers⟩
          exact .intro hlists hmembers
        · rintro ⟨hlists, hmembers⟩
          exact ⟨_, hlists, hmembers⟩

/-- An entry of a body is accepted if branches are. -/
theorem exists_readEntry_iff {levels : Nat}
    (hbranch : ∀ negated node path,
      (∃ branch, readBranch engine levels negated node path = .ok branch) ↔
        IsBranch engine levels node)
    {body : Body} {child : Child} :
    (∃ step, readEntry engine (readBranch engine levels) body child = .ok step) ↔
      IsEntry engine levels child.name child.value := by
  simp only [readEntry_eq_ok_iff]
  constructor
  · rintro ⟨step, ⟨negated, hname, branch, hread, -⟩ | ⟨hname, node, hnode, -⟩⟩
    · rw [hname]
      exact .branch ((hbranch _ _ _).mp ⟨branch, hread⟩)
    · exact .consumer (Statement.lookup_eq_none_iff.mp hname)
        (exists_readConsumer_iff.mp ⟨node, hnode⟩)
  · obtain ⟨name, value, path⟩ := child
    intro h
    cases h with
    | @branch _ negated _ branch =>
      obtain ⟨branch', hread⟩ := (hbranch negated _ _).mpr branch
      exact ⟨_, .inl ⟨negated, rfl, branch', hread, rfl⟩⟩
    | consumer noStatement consumer =>
      obtain ⟨node, hnode⟩ := exists_readConsumer_iff.mpr consumer
      exact ⟨_, .inr ⟨Statement.lookup_eq_none_iff.mpr noStatement, node, hnode, rfl⟩⟩

theorem exists_readBody_iff_of_readBranch {levels : Nat}
    (hbranch : ∀ negated node path,
      (∃ branch, readBranch engine levels negated node path = .ok branch) ↔
        IsBranch engine levels node)
    {body : Body} {node : Value} {path : Locator} :
    (∃ step, readBody engine levels body node path = .ok step) ↔ IsBody engine levels node := by
  have hentry : ∀ child,
      (∃ step, readEntry engine (readBranch engine levels) body child = .ok step) ↔
        IsEntry engine levels child.name child.value :=
    fun child => exists_readEntry_iff hbranch
  calc
    (∃ step, readBody engine levels body node path = .ok step)
    _ ↔ ∃ cs, children engine.settings node path = .ok cs ∧
          ∀ child ∈ cs, IsEntry engine levels child.name child.value := by
      simp only [readBody_eq_ok_iff, ← hentry, ← exists_forall₂_iff]
      constructor
      · rintro ⟨step, cs, hcs, steps, -, hsteps⟩
        exact ⟨cs, hcs, steps, hsteps⟩
      · rintro ⟨cs, hcs, steps, hsteps⟩
        exact ⟨_, cs, hcs, steps, rfl, hsteps⟩
    _ ↔ ∃ fields, Lists engine.settings node fields ∧
          ∀ field ∈ fields, IsEntry engine levels field.1 field.2 :=
      exists_children_forall_iff
    _ ↔ IsBody engine levels node := by
      constructor
      · rintro ⟨fields, hlists, hentries⟩
        exact .intro hlists hentries
      · rintro ⟨hlists, hentries⟩
        exact ⟨_, hlists, hentries⟩

/-- How many children give a part does not depend on where they stand. -/
theorem Part.length_among {part : Part} {cs : List Child} :
    (part.among cs).length
      = (cs.map Child.field).countP fun field => Part.ofName? field.1 = some part := by
  rw [Part.among, ← List.countP_eq_length_filter, List.countP_map]
  rfl

/-- Exactly one child can be read when there is one and it can be. -/
theorem exists_forall₂_singleton_iff {α β : Type} {R : α → β → Prop} {xs : List α} :
    (∃ y, List.Forall₂ R xs [y]) ↔ (∀ x ∈ xs, ∃ y, R x y) ∧ xs.length = 1 := by
  rw [← exists_forall₂_iff]
  constructor
  · rintro ⟨y, h⟩
    exact ⟨⟨_, h⟩, h.length_eq⟩
  · rintro ⟨⟨ys, h⟩, hlength⟩
    rw [h.length_eq] at hlength
    obtain ⟨y, rfl⟩ := List.length_eq_one_iff.mp hlength
    exact ⟨y, h⟩

/-- At most one child can be read when there is at most one and it can be. -/
theorem exists_forall₂_toList_iff {α β : Type} {R : α → β → Prop} {xs : List α} :
    (∃ y : Option β, List.Forall₂ R xs y.toList) ↔
      (∀ x ∈ xs, ∃ y, R x y) ∧ xs.length ≤ 1 := by
  rw [← exists_forall₂_iff]
  constructor
  · rintro ⟨y, h⟩
    exact ⟨⟨_, h⟩, h.length_eq ▸ Option.length_toList_le⟩
  · rintro ⟨⟨ys, h⟩, hlength⟩
    rw [h.length_eq] at hlength
    match ys, hlength with
    | [], _ => exact ⟨none, h⟩
    | [y], _ => exact ⟨some y, h⟩

theorem ofName?_of_isCondition {levels : Nat} {name : String} {node : Value}
    (h : IsCondition engine levels name node) : Part.ofName? name = some .condition := by
  rw [Part.ofName?_eq_condition_iff]
  cases h with
  | predicate => simp
  | @group _ any => cases any <;> simp [Condition.groupStatement]

/-- The name of a part says what its value has to be. -/
theorem isPart_iff {levels : Nat} {name : String} {node : Value} :
    IsPart engine levels name node ↔
      match Part.ofName? name with
      | none => False
      | some .condition => IsCondition engine levels name node
      | some .thenBody | some .elseBody => IsBody engine levels node := by
  constructor
  · intro h
    cases h with
    | condition condition =>
      rw [ofName?_of_isCondition condition]
      exact condition
    | thenBody body =>
      rw [Part.ofName?_eq_thenBody_iff.mpr rfl]
      exact body
    | elseBody body =>
      rw [Part.ofName?_eq_elseBody_iff.mpr rfl]
      exact body
  · intro h
    cases hpart : Part.ofName? name with
    | none =>
      rw [hpart] at h
      exact h.elim
    | some part =>
      rw [hpart] at h
      cases part with
      | condition => exact .condition h
      | thenBody =>
        rw [Part.ofName?_eq_thenBody_iff.mp hpart]
        exact .thenBody h
      | elseBody =>
        rw [Part.ofName?_eq_elseBody_iff.mp hpart]
        exact .elseBody h

/-- Children that each give a part are accepted part by part. -/
theorem forall_isPart_iff {levels : Nat} {cs : List Child} :
    (∀ child ∈ cs, IsPart engine levels child.name child.value) ↔
      (∀ child ∈ cs, Part.ofName? child.name ≠ none) ∧
      (∀ child ∈ Part.condition.among cs, IsCondition engine levels child.name child.value) ∧
      (∀ child ∈ Part.thenBody.among cs, IsBody engine levels child.value) ∧
      ∀ child ∈ Part.elseBody.among cs, IsBody engine levels child.value := by
  simp only [isPart_iff, Part.among, List.mem_filter, decide_eq_true_eq, and_imp]
  simp only [← forall_and]
  refine forall₂_congr fun child _ => ?_
  cases Part.ofName? child.name with
  | none => simp
  | some part => cases part <;> simp

/-- A branch is read exactly when the grammar has it as one, negated or not. -/
theorem exists_readBranch_iff {levels : Nat} {negated : Bool} {node : Value} {path : Locator} :
    (∃ branch, readBranch engine levels negated node path = .ok branch) ↔
      IsBranch engine levels node := by
  induction levels generalizing negated node path with
  | zero =>
    constructor
    · rintro ⟨branch, h⟩
      exact absurd h readBranch_zero
    · intro h
      cases h
  | succ levels ih =>
    have hcondition : ∀ child,
        (∃ condition, readMember engine (readGroup engine levels) false child = .ok condition) ↔
          IsCondition engine levels child.name child.value :=
      fun child => exists_readMember_iff fun _ _ _ => exists_readGroup_iff
    have hbody : ∀ body node path,
        (∃ step, readBody engine levels body node path = .ok step) ↔
          IsBody engine levels node :=
      fun body node path => exists_readBody_iff_of_readBranch fun _ _ _ => ih
    calc
      (∃ branch, readBranch engine (levels + 1) negated node path = .ok branch)
      _ ↔ ∃ cs, children engine.settings node path = .ok cs ∧
            (∀ child ∈ cs, IsPart engine levels child.name child.value) ∧
            (Part.condition.among cs).length = 1 ∧ (Part.thenBody.among cs).length = 1 ∧
            (Part.elseBody.among cs).length ≤ 1 := by
        simp only [readBranch_eq_ok_iff, forall_isPart_iff, ← hcondition]
        constructor
        · rintro ⟨branch, cs, hcs, hall, -, hc, ht, elseBody, -, he⟩
          obtain ⟨hc, hc1⟩ := exists_forall₂_singleton_iff.mp ⟨_, hc⟩
          obtain ⟨ht, ht1⟩ := exists_forall₂_singleton_iff.mp ⟨_, ht⟩
          obtain ⟨he, he1⟩ := exists_forall₂_toList_iff.mp ⟨_, he⟩
          exact ⟨cs, hcs, ⟨hall, hc, fun child h => (hbody _ _ _).mp (ht child h),
            fun child h => (hbody _ _ _).mp (he child h)⟩, hc1, ht1, he1⟩
        · rintro ⟨cs, hcs, ⟨hall, hc, ht, he⟩, hc1, ht1, he1⟩
          obtain ⟨condition, hc⟩ := exists_forall₂_singleton_iff.mpr ⟨hc, hc1⟩
          obtain ⟨thenBody, ht⟩ := exists_forall₂_singleton_iff.mpr
            ⟨fun child h => (hbody .thenSide _ child.path).mpr (ht child h), ht1⟩
          obtain ⟨elseBody, he⟩ := exists_forall₂_toList_iff.mpr
            ⟨fun child h => (hbody .elseSide _ child.path).mpr (he child h), he1⟩
          exact ⟨⟨negated, condition, thenBody, elseBody.join⟩, cs, hcs, hall, rfl, hc,
            ht, elseBody, rfl, he⟩
      _ ↔ ∃ fields, Lists engine.settings node fields ∧
            (∀ field ∈ fields, IsPart engine levels field.1 field.2) ∧
            fields.countP (fun field => Part.ofName? field.1 = some .condition) = 1 ∧
            fields.countP (fun field => Part.ofName? field.1 = some .thenBody) = 1 ∧
            fields.countP (fun field => Part.ofName? field.1 = some .elseBody) ≤ 1 := by
        simp only [Part.length_among]
        rw [← exists_children_and_iff path]
        simp only [List.forall_mem_map, Child.field]
      _ ↔ IsBranch engine (levels + 1) node := by
        simp only [Part.ofName?_eq_condition_iff, Part.ofName?_eq_thenBody_iff,
          Part.ofName?_eq_elseBody_iff]
        constructor
        · rintro ⟨fields, hlists, hparts, hconditions, hthens, helses⟩
          exact .intro hlists hparts hconditions hthens helses
        · rintro ⟨hlists, hparts, hconditions, hthens, helses⟩
          exact ⟨_, hlists, hparts, hconditions, hthens, helses⟩

theorem exists_readBody_iff {levels : Nat} {node : Value} (body : Body) (path : Locator) :
    (∃ step, readBody engine levels body node path = .ok step) ↔ IsBody engine levels node :=
  exists_readBody_iff_of_readBranch fun _ _ _ => exists_readBranch_iff

end DecisionFlow.Document

namespace DecisionFlow

/-- **The reader accepts exactly its grammar**: a tree is read into a flow if and only if it is a
body in which branches and groups nest no deeper than the settings allow. -/
theorem Engine.read_succeeds_iff {T : Type} (engine : Engine T) (document : Value) :
    (∃ flow, engine.read document = .ok flow) ↔
      Document.IsBody engine engine.settings.maxDepth document := by
  rw [← Document.exists_readBody_iff .root []]
  simp only [Engine.read_eq_ok_iff]
  constructor
  · rintro ⟨flow, h⟩
    exact ⟨flow.root, h⟩
  · rintro ⟨root, h⟩
    exact ⟨⟨root⟩, h⟩

end DecisionFlow
