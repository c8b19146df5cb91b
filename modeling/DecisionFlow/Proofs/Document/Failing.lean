import DecisionFlow.Proofs.Document.Reading

/-!
# What the reader refuses, function by function

For each function of the reader, what it was about when it failed: the error is its own, with the
reason, or that of a function it called. The reader stops at the first problem, so what stands
before it was read.

- `Shape.admits`: the kinds of values that a sort of node may be.
- `children_eq_error`: nodes whose children cannot be listed.
- `Registry.Refuses`: kinds and configurations that a registry builds no node of.
- `readPredicate_eq_error`, `readConsumer_eq_error`: nodes that the registries build.
- `readMember_eq_error`, `readGroup_eq_error`: conditions.
- `readEntry_eq_error`, `readBody_eq_error`: bodies.
- `PartFails`, `readBranch_eq_error`: branches. What is said twice follows a child that said it
  before.
-/

namespace DecisionFlow

/-- Why a registry does not build a node: it does not know the kind, or the factory of the kind
rejects the configuration. -/
inductive Registry.Refuses {B : Type} (r : Registry B) (kind : String) (config : Fields) :
    BuildProblem → Prop where
  | unknown (unregistered : r.factory? kind = none) :
    Refuses r kind config (.unknownKind r.family kind)
  | rejected {factory : Factory B} {cause : Config.Problem}
      (registered : r.factory? kind = some factory) (rejects : factory config = .error cause) :
    Refuses r kind config (.invalidConfig r.family kind cause)

/-- A node is not built for an unknown kind, or if the factory rejects the configuration. -/
theorem Registry.refuses_of_build {B : Type} {r : Registry B} {kind : String} {config : Fields}
    {problem : BuildProblem} (h : r.build kind config = .error problem) :
    r.Refuses kind config problem := by
  rw [build] at h
  cases hfactory : r.factory? kind with
  | none =>
    rw [hfactory] at h
    obtain rfl := Except.error.inj h
    exact .unknown hfactory
  | some factory =>
    rw [hfactory] at h
    dsimp only at h
    cases hbuilt : factory config with
    | error cause =>
      rw [hbuilt] at h
      obtain rfl := Except.error.inj h
      exact .rejected hfactory hbuilt
    | ok behaviour =>
      rw [hbuilt] at h
      cases h

namespace Document

/-! ## Failing one by one -/

section Sequences

variable {ε α β γ : Type} {e : ε}

/-- What goes wrong goes wrong at first or later. -/
theorem eq_error_of_bind {x : Except ε α} {f : α → Except ε β} (h : x >>= f = .error e) :
    x = .error e ∨ ∃ a, x = .ok a ∧ f a = .error e := by
  cases x with
  | error e' =>
    obtain rfl := Except.error.inj h
    exact .inl rfl
  | ok a => exact .inr ⟨a, rfl, h⟩

theorem eq_error_of_return {x : Except ε α} {f : α → β}
    (h : (do return f (← x)) = (.error e : Except ε β)) : x = .error e := by
  obtain h | ⟨a, -, h⟩ := eq_error_of_bind h
  · exact h
  · cases h

/-- Of a list that cannot be read one member cannot be. -/
theorem exists_of_mapM_eq_error {f : α → Except ε β} {xs : List α}
    (h : xs.mapM f = .error e) :
    ∃ before x after, xs = before ++ x :: after ∧ f x = .error e := by
  induction xs with
  | nil => cases h
  | cons x xs ih =>
    rw [List.mapM_cons] at h
    obtain hx | ⟨y, -, hrest⟩ := eq_error_of_bind h
    · exact ⟨[], x, xs, rfl, hx⟩
    · obtain ⟨before, x', after, rfl, hx'⟩ := ih (eq_error_of_return hrest)
      exact ⟨x :: before, x', after, rfl, hx'⟩

/-- If a list cannot be gone through, a member cannot be taken in after what was before it. -/
theorem exists_of_foldlM_eq_error {f : β → α → Except ε β} {xs : List α} {start : β}
    (h : xs.foldlM f start = .error e) :
    ∃ before x after b, xs = before ++ x :: after ∧ before.foldlM f start = .ok b ∧
      f b x = .error e := by
  induction xs generalizing start with
  | nil => cases h
  | cons x xs ih =>
    rw [List.foldlM_cons] at h
    obtain hx | ⟨next, hnext, hrest⟩ := eq_error_of_bind h
    · exact ⟨[], x, xs, start, rfl, rfl, hx⟩
    · obtain ⟨before, x', after, b, rfl, hbefore, hx'⟩ := ih hrest
      refine ⟨x :: before, x', after, b, rfl, ?_, hx'⟩
      rw [List.foldlM_cons]
      exact bind_eq_ok_iff.mpr ⟨next, hnext, hbefore⟩

end Sequences

/-! ## Nodes of another sort -/

/-- Whether a value of this kind may stand where a sort of node is expected. -/
def Shape.admits (settings : Settings) : Shape → Value.Kind → Bool
  | .object, kind => kind = .object
  | .objectOrNull, kind => kind = .object || kind = .null
  | .arrayOfObjects, kind =>
    kind = .array || kind = .null || (kind = .object && settings.acceptObjectShape)

/-- The first item that is no object. -/
theorem childrenOfItems_eq_error {path : Locator} {index : Nat} {items : List Value} {e : Error}
    (h : childrenOfItems path index items = .error e) :
    ∃ i item, items[i]? = some item ∧ item.kind ≠ .object ∧
      e = ⟨.invalidNode .object item.kind, path.item (index + i)⟩ := by
  induction items generalizing index with
  | nil => cases h
  | cons item rest ih =>
    cases item with
    | object fields =>
      obtain ⟨i, item, hitem, hkind, rfl⟩ := ih (eq_error_of_return h)
      refine ⟨i + 1, item, hitem, hkind, ?_⟩
      rw [Nat.add_right_comm, Nat.add_assoc]
    | _ => exact ⟨0, _, rfl, by simp [Value.kind], (Except.error.inj h).symm⟩

/-- Children cannot be listed if the node has the wrong shape, or an item of it is no object. -/
theorem children_eq_error {settings : Settings} {node : Value} {path : Locator} {e : Error}
    (h : children settings node path = .error e) :
    (Shape.arrayOfObjects.admits settings node.kind = false ∧
      e = ⟨.invalidNode .arrayOfObjects node.kind, path⟩) ∨
    ∃ items i item, node = .array items ∧ items[i]? = some item ∧ item.kind ≠ .object ∧
      e = ⟨.invalidNode .object item.kind, path.item i⟩ := by
  cases node with
  | null => cases h
  | array items =>
    obtain ⟨i, item, hitem, hkind, rfl⟩ := childrenOfItems_eq_error h
    refine .inr ⟨items, i, item, rfl, hitem, hkind, ?_⟩
    rw [Nat.zero_add]
  | object fields =>
    rw [children] at h
    split at h
    case isTrue => cases h
    case isFalse hrefused =>
      refine .inl ⟨?_, (Except.error.inj h).symm⟩
      simpa [Shape.admits, Value.kind] using hrefused
  | _ => exact .inl ⟨rfl, (Except.error.inj h).symm⟩

/-! ## Nodes from the registries -/

variable {T : Type} {engine : Engine T}

theorem located_eq_error {α : Type} {path : Locator} {x : Except BuildProblem α} {e : Error}
    (h : located path x = .error e) :
    ∃ problem, x = .error problem ∧ e = ⟨.build problem, path⟩ := by
  cases x with
  | ok a => cases h
  | error problem => exact ⟨problem, rfl, (Except.error.inj h).symm⟩

/-- Why a condition is refused: its shape, its discriminator or its registry. -/
theorem readPredicate_eq_error {node : Value} {path : Locator} {e : Error}
    (h : readPredicate engine node path = .error e) :
    (node.kind ≠ .object ∧ e = ⟨.invalidNode .object node.kind, path⟩) ∨
    ∃ fields, node = .object fields ∧
      (((Fields.get? fields engine.settings.discriminator).bind Value.text? = none ∧
        e = ⟨.missingDiscriminator engine.settings.discriminator, path⟩) ∨
      ∃ kind problem, Fields.get? fields engine.settings.discriminator = some (.text kind) ∧
        engine.conditions.Refuses kind
          (Fields.without fields engine.settings.discriminator) problem ∧
        e = ⟨.build problem, path⟩) := by
  cases node with
  | object fields =>
    refine .inr ⟨fields, rfl, ?_⟩
    simp only [readPredicate] at h
    cases hget : Fields.get? fields engine.settings.discriminator with
    | none =>
      rw [hget] at h
      exact .inl ⟨rfl, (Except.error.inj h).symm⟩
    | some value =>
      rw [hget] at h
      cases value with
      | text kind =>
        obtain ⟨problem, hbuild, rfl⟩ := located_eq_error h
        exact .inr ⟨kind, problem, rfl, Registry.refuses_of_build hbuild, rfl⟩
      | _ => exact .inl ⟨rfl, (Except.error.inj h).symm⟩
  | _ => exact .inl ⟨by simp [Value.kind], (Except.error.inj h).symm⟩

/-- Why a consumer is refused: its shape or its registry. -/
theorem readConsumer_eq_error {kind : String} {node : Value} {path : Locator} {e : Error}
    (h : readConsumer engine kind node path = .error e) :
    (Shape.objectOrNull.admits engine.settings node.kind = false ∧
      e = ⟨.invalidNode .objectOrNull node.kind, path⟩) ∨
    ∃ config problem, node.configuration = .ok config ∧
      engine.consumers.Refuses kind config problem ∧ e = ⟨.build problem, path⟩ := by
  cases node with
  | null =>
    obtain ⟨problem, hbuild, rfl⟩ := located_eq_error h
    exact .inr ⟨[], problem, rfl, Registry.refuses_of_build hbuild, rfl⟩
  | object fields =>
    obtain ⟨problem, hbuild, rfl⟩ := located_eq_error h
    exact .inr ⟨fields, problem, rfl, Registry.refuses_of_build hbuild, rfl⟩
  | _ => exact .inl ⟨rfl, (Except.error.inj h).symm⟩

/-! ## Conditions -/

variable {readGroup' : Bool → Value → Locator → Except Error (Condition T)} {e : Error}

/-- A name that no word of a list is called by stands for none of them. -/
theorem ne_name_of_filter_lookup_eq_none {name : String} {p : Statement → Bool}
    (h : (Statement.lookup name).filter p = none) {statement : Statement}
    (hp : p statement = true) : name ≠ statement.name := by
  rintro rfl
  rw [Statement.lookup_name, Option.filter_some, if_pos hp] at h
  cases h

theorem isCondition_of_mem_permitted {any : Bool} {statement : Statement}
    (h : statement ∈ (Condition.groupStatement any).permitted) :
    statement.isCondition = true := by
  rw [Condition.permitted_groupStatement] at h
  cases statement <;> simp at h ⊢ <;> rfl

/-- A condition is refused as a predicate or as a group. -/
theorem readCondition_eq_error {statement : Statement} {node : Value} {path : Locator}
    (hcondition : statement.isCondition = true)
    (h : readCondition engine readGroup' statement node path = .error e) :
    (statement = .condition ∧ readPredicate engine node path = .error e) ∨
    ∃ any, statement = Condition.groupStatement any ∧ readGroup' any node path = .error e := by
  cases statement with
  | condition => exact .inl ⟨rfl, eq_error_of_return h⟩
  | allOf => exact .inr ⟨false, rfl, h⟩
  | anyOf => exact .inr ⟨true, rfl, h⟩
  | _ => cases hcondition

/-- A member is refused for its name or as the condition that it is. -/
theorem readMember_eq_error {any : Bool} {child : Child}
    (h : readMember engine readGroup' any child = .error e) :
    ((∀ statement ∈ (Condition.groupStatement any).permitted, child.name ≠ statement.name) ∧
      e = ⟨.unexpectedStatement child.name (Condition.groupStatement any), child.path⟩) ∨
    ∃ statement : Statement, child.name = statement.name ∧ statement.isCondition = true ∧
      readCondition engine readGroup' statement child.value child.path = .error e := by
  rw [readMember] at h
  cases hword : (Statement.lookup child.name).filter (·.isCondition) with
  | none =>
    rw [hword] at h
    refine .inl ⟨fun statement hstatement => ?_, (Except.error.inj h).symm⟩
    exact ne_name_of_filter_lookup_eq_none hword (isCondition_of_mem_permitted hstatement)
  | some statement =>
    rw [hword] at h
    obtain ⟨hlookup, hcondition⟩ := Option.filter_eq_some_iff.mp hword
    exact .inr ⟨statement, Statement.lookup_eq_some_iff.mp hlookup, hcondition, h⟩

/-- A group is refused for its shape or for one of its members. -/
theorem readGroup_eq_error {budget : Nat} {any : Bool} {node : Value} {path : Locator}
    (h : readGroup engine (budget + 1) any node path = .error e) :
    children engine.settings node path = .error e ∨
    ∃ cs before child after, children engine.settings node path = .ok cs ∧
      cs = before ++ child :: after ∧
      readMember engine (readGroup engine budget) any child = .error e := by
  rw [readGroup] at h
  obtain h | ⟨cs, hcs, h⟩ := eq_error_of_bind h
  · exact .inl h
  · obtain ⟨before, child, after, hsplit, hchild⟩ :=
      exists_of_mapM_eq_error (eq_error_of_return h)
    exact .inr ⟨cs, before, child, after, hcs, hsplit, hchild⟩

/-! ## Bodies -/

/-- An entry is refused for its name, as a branch or as a consumer. -/
theorem readEntry_eq_error {readBranch' : Bool → Value → Locator → Except Error (Branch T)}
    {body : Body} {child : Child} (h : readEntry engine readBranch' body child = .error e) :
    (∃ statement : Statement, child.name = statement.name ∧ statement.isBranch = false ∧
      e = ⟨.misplacedStatement statement body, child.path⟩) ∨
    (∃ negated, child.name = (Branch.statementOf negated).name ∧
      readBranch' negated child.value child.path = .error e) ∨
    (Statement.lookup child.name = none ∧
      readConsumer engine child.name child.value child.path = .error e) := by
  rw [readEntry] at h
  cases hword : Statement.lookup child.name with
  | none =>
    rw [hword] at h
    exact .inr (.inr ⟨rfl, eq_error_of_return h⟩)
  | some statement =>
    rw [hword] at h
    have hname : child.name = statement.name := Statement.lookup_eq_some_iff.mp hword
    cases statement with
    | ifHolds => exact .inr (.inl ⟨false, hname, eq_error_of_return h⟩)
    | ifNot => exact .inr (.inl ⟨true, hname, eq_error_of_return h⟩)
    | _ => exact .inl ⟨_, hname, rfl, (Except.error.inj h).symm⟩

/-- A body is refused for its shape or for one of its entries. -/
theorem readBody_eq_error {budget : Nat} {body : Body} {node : Value} {path : Locator}
    (h : readBody engine budget body node path = .error e) :
    children engine.settings node path = .error e ∨
    ∃ cs before child after, children engine.settings node path = .ok cs ∧
      cs = before ++ child :: after ∧
      readEntry engine (readBranch engine budget) body child = .error e := by
  rw [readBody, readBodyWith] at h
  obtain h | ⟨cs, hcs, h⟩ := eq_error_of_bind h
  · exact .inl h
  · obtain ⟨before, child, after, hsplit, hchild⟩ :=
      exists_of_mapM_eq_error (eq_error_of_return h)
    exact .inr ⟨cs, before, child, after, hcs, hsplit, hchild⟩

/-! ## Branches -/

/-- Why a child of a branch is refused when the children before it were read. -/
inductive PartFails (engine : Engine T) (budget : Nat) (negated : Bool) (e : Error)
    (before : List Child) (child : Child) : Prop where
  | unexpected
      (hname : ∀ statement ∈ (Branch.statementOf negated).permitted,
        child.name ≠ statement.name)
      (he : e = ⟨.unexpectedStatement child.name (Branch.statementOf negated), child.path⟩)
  | secondCondition {first : Child} {statement : Statement}
      (hfirst : first ∈ Part.condition.among before) (hname : child.name = statement.name)
      (hcondition : statement.isCondition = true)
      (he : e = ⟨.duplicateCondition statement (Branch.statementOf negated), child.path⟩)
  | secondBody {first : Child} {statement : Statement} (hfirst : first ∈ before)
      (hsame : first.name = child.name) (hname : child.name = statement.name)
      (hbody : statement.isBody = true)
      (he : e = ⟨.duplicateStatement statement (Branch.statementOf negated), child.path⟩)
  | condition {statement : Statement} (hname : child.name = statement.name)
      (hcondition : statement.isCondition = true)
      (hread : readCondition engine (readGroup engine budget) statement child.value child.path
        = .error e)
  | thenBody (hname : child.name = Statement.thenBody.name)
      (hread : readBody engine budget .thenSide child.value child.path = .error e)
  | elseBody (hname : child.name = Statement.elseBody.name)
      (hread : readBody engine budget .elseSide child.value child.path = .error e)

/-- What is there of a part was given by a child. -/
theorem Fills.exists_mem {α : Type} {read : Child → Except Error α} {cs : List Child} {a : α}
    (h : Fills read none cs (some a)) : ∃ child, child ∈ cs := by
  rw [fills_none, Option.toList_some] at h
  cases h with
  | cons => exact ⟨_, List.mem_cons_self⟩

theorem Fills.eq_nil {α : Type} {read : Child → Except Error α} {cs : List Child}
    (h : Fills read none cs none) : cs = [] := by
  rw [fills_none, Option.toList_none] at h
  cases h
  rfl

/-- A part that may be given once: it is there already, or it cannot be read. -/
theorem once_eq_error {α β γ : Type} {part : Option α} {path : Locator} {problem : Problem}
    {x : Except Error β} {put : β → γ}
    (h : (if part.isSome then fail path problem else do return put (← x)) = .error e) :
    (∃ a, part = some a ∧ e = ⟨problem, path⟩) ∨ x = .error e := by
  cases part with
  | none => exact .inr (eq_error_of_return h)
  | some a => exact .inl ⟨a, rfl, (Except.error.inj h).symm⟩

/-- A part of a branch is refused for its name, as a repetition or as what it stands for. -/
theorem partFails_of_readPart {budget : Nat} {negated : Bool} {before : List Child} {child : Child}
    {parts : BranchParts T}
    (hbefore : before.foldlM (readPart engine (readGroup engine budget) (readBody engine budget)
      (Branch.statementOf negated)) {} = .ok parts)
    (h : readPart engine (readGroup engine budget) (readBody engine budget)
      (Branch.statementOf negated) parts child = .error e) :
    PartFails engine budget negated e before child := by
  obtain ⟨-, hcondition, hthen, helse⟩ := foldlM_readPart_iff.mp hbefore
  rw [readPart] at h
  cases hword : (Statement.lookup child.name).filter
      ((Branch.statementOf negated).permitted.contains ·) with
  | none =>
    rw [hword] at h
    refine .unexpected (fun statement hstatement => ?_) (Except.error.inj h).symm
    exact ne_name_of_filter_lookup_eq_none hword (List.contains_iff_mem.mpr hstatement)
  | some statement =>
    rw [hword] at h
    obtain ⟨hlookup, hstatement⟩ := Option.filter_eq_some_iff.mp hword
    have hname : child.name = statement.name := Statement.lookup_eq_some_iff.mp hlookup
    cases statement with
    | ifHolds | ifNot =>
      rw [Branch.permitted_statementOf] at hstatement
      cases hstatement
    | thenBody =>
      obtain ⟨body, hparts, rfl⟩ | hread := once_eq_error h
      · rw [hparts] at hthen
        obtain ⟨first, hfirst⟩ := hthen.exists_mem
        have hfirstName := Part.ofName?_eq_thenBody_iff.mp (Part.ofName?_of_mem_among hfirst)
        exact .secondBody (List.mem_of_mem_filter hfirst) (hfirstName.trans hname.symm) hname
          rfl rfl
      · exact .thenBody hname hread
    | elseBody =>
      obtain ⟨body, hparts, rfl⟩ | hread := once_eq_error h
      · rw [hparts] at helse
        obtain ⟨first, hfirst⟩ := helse.exists_mem
        have hfirstName := Part.ofName?_eq_elseBody_iff.mp (Part.ofName?_of_mem_among hfirst)
        exact .secondBody (List.mem_of_mem_filter hfirst) (hfirstName.trans hname.symm) hname
          rfl rfl
      · exact .elseBody hname hread
    | condition | allOf | anyOf =>
      obtain ⟨condition, hparts, rfl⟩ | hread := once_eq_error h
      · rw [hparts] at hcondition
        obtain ⟨first, hfirst⟩ := hcondition.exists_mem
        exact .secondCondition hfirst hname rfl rfl
      · exact .condition hname rfl hread

/-- A branch is refused for its children or, when all of them were read, for what is missing. -/
theorem readBranch_eq_error {budget : Nat} {negated : Bool} {node : Value} {path : Locator}
    (h : readBranch engine (budget + 1) negated node path = .error e) :
    children engine.settings node path = .error e ∨
    ∃ cs, children engine.settings node path = .ok cs ∧
      ((∃ before child after, cs = before ++ child :: after ∧
        PartFails engine budget negated e before child) ∨
      (Part.condition.among cs = [] ∧
        e = ⟨.missingCondition (Branch.statementOf negated), path⟩) ∨
      (Part.condition.among cs ≠ [] ∧ Part.thenBody.among cs = [] ∧
        e = ⟨.missingThen (Branch.statementOf negated), path⟩)) := by
  rw [readBranch] at h
  obtain h | ⟨cs, hcs, h⟩ := eq_error_of_bind h
  · exact .inl h
  · refine .inr ⟨cs, hcs, ?_⟩
    obtain hfold | ⟨parts, hparts, hfinish⟩ := eq_error_of_bind h
    · obtain ⟨before, child, after, parts, hsplit, hbefore, hchild⟩ :=
        exists_of_foldlM_eq_error hfold
      exact .inl ⟨before, child, after, hsplit, partFails_of_readPart hbefore hchild⟩
    · obtain ⟨-, hcondition, hthen, -⟩ := foldlM_readPart_iff.mp hparts
      obtain ⟨condition, thenBody, elseBody⟩ := parts
      cases condition with
      | none => exact .inr (.inl ⟨hcondition.eq_nil, (Except.error.inj hfinish).symm⟩)
      | some condition =>
        cases thenBody with
        | none =>
          obtain ⟨child, hchild⟩ := hcondition.exists_mem
          refine .inr (.inr ⟨List.ne_nil_of_mem hchild, hthen.eq_nil, ?_⟩)
          exact (Except.error.inj hfinish).symm
        | some thenBody => cases hfinish

end Document

end DecisionFlow
