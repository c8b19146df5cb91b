import DecisionFlow.Proofs.Document.Children

/-!
# What the reader accepts, function by function

For each function of the reader, when it succeeds and what it then returns. Later proofs cite these
statements and never open the functions.

- `readPredicate_eq_ok_iff`, `readConsumer_eq_ok_iff`: nodes that the registries build.
- `readMember_eq_ok_iff`, `readGroup_eq_ok_iff`: conditions.
- `readEntry_eq_ok_iff`, `readBody_eq_ok_iff`: bodies.
- `Part`, `foldlM_readPart_iff`, `readBranch_eq_ok_iff`: branches. The parts of a branch may come in
  any order, so its children are sorted by the part that they give.
-/

namespace DecisionFlow

/-- A name is looked up in vain if no statement is called so. -/
theorem Statement.lookup_eq_none_iff {name : String} :
    Statement.lookup name = none ↔ ∀ statement : Statement, name ≠ statement.name := by
  rw [Option.eq_none_iff_forall_ne_some]
  exact forall_congr' fun statement => not_congr Statement.lookup_eq_some_iff

/-- `if` and `ifNot` permit the same children. -/
theorem Branch.permitted_statementOf (negated : Bool) : (Branch.statementOf negated).permitted
    = [.condition, .allOf, .anyOf, .thenBody, .elseBody] := by
  cases negated <;> rfl

/-- So do `allOf` and `anyOf`. -/
theorem Condition.permitted_groupStatement (any : Bool) : (Condition.groupStatement any).permitted
    = [.condition, .allOf, .anyOf] := by
  cases any <;> rfl

/-- A registry builds a node if it knows the kind and its factory accepts the configuration. -/
theorem Registry.build_eq_ok_iff {B : Type} {r : Registry B} {kind : String} {config : Fields}
    {node : Node B} :
    r.build kind config = .ok node ↔
      ∃ factory, r.factory? kind = some factory ∧
        ∃ behaviour, factory config = .ok behaviour ∧ node = ⟨kind, config, behaviour⟩ := by
  rw [Registry.build]
  cases r.factory? kind with
  | none => simp
  | some factory =>
    dsimp only
    cases hbuilt : factory config with
    | error cause => simp [hbuilt]
    | ok behaviour => simp [hbuilt, eq_comm]

/-- A node that was built is built again from the kind and the configuration that it keeps. -/
theorem Registry.build_self {B : Type} {r : Registry B} {kind : String} {config : Fields}
    {node : Node B} (h : r.build kind config = .ok node) :
    r.build node.kind node.config = .ok node := by
  obtain ⟨factory, hfactory, behaviour, hbuilt, rfl⟩ := Registry.build_eq_ok_iff.mp h
  exact h

namespace Document

variable {T : Type} {engine : Engine T}

/-! ## Nodes from the registries -/

/-- A place is only told of problems. -/
theorem located_eq_ok_iff {α : Type} {path : Locator} {x : Except BuildProblem α} {a : α} :
    located path x = .ok a ↔ x = .ok a := by
  cases x <;> simp [located, fail]

/-- A condition is read from an object whose discriminator is a text, and built from the other
fields. -/
theorem readPredicate_eq_ok_iff {value : Value} {path : Locator} {node : PredicateNode T} :
    readPredicate engine value path = .ok node ↔
      ∃ fields kind, value = .object fields ∧
        Fields.get? fields engine.settings.discriminator = some (.text kind) ∧
        engine.conditions.build kind (Fields.without fields engine.settings.discriminator)
          = .ok node := by
  cases value with
  | object fields =>
    simp only [readPredicate, Value.object.injEq]
    cases hget : Fields.get? fields engine.settings.discriminator with
    | none =>
      simp only [Option.bind_none, fail]
      constructor
      · intro h
        cases h
      · rintro ⟨fields, kind, rfl, hkind, -⟩
        rw [hget] at hkind
        cases hkind
    | some name =>
      cases name with
      | text kind =>
        simp only [Option.bind_some, Value.text?, located_eq_ok_iff]
        constructor
        · intro h
          exact ⟨fields, kind, rfl, hget, h⟩
        · rintro ⟨fields, kind', rfl, hkind, h⟩
          rw [hget] at hkind
          cases hkind
          exact h
      | _ =>
        -- A discriminator that is no text is refused like one that is not there.
        simp only [Option.bind_some, Value.text?, fail]
        constructor
        · intro h
          cases h
        · rintro ⟨fields, kind, rfl, hkind, -⟩
          rw [hget] at hkind
          cases hkind
  | _ => simp [readPredicate, fail]

/-- A consumer is built from the fields of an object, or from none for null. -/
theorem readConsumer_eq_ok_iff {kind : String} {value : Value} {path : Locator}
    {node : ConsumerNode T} :
    readConsumer engine kind value path = .ok node ↔
      ∃ fields, value.configuration = .ok fields ∧
        engine.consumers.build kind fields = .ok node := by
  cases value with
  | null => simp [readConsumer, located_eq_ok_iff, Value.configuration]
  | object fields => simp [readConsumer, located_eq_ok_iff, Value.configuration]
  | _ => simp [readConsumer, fail, Value.configuration]

/-! ## Conditions -/

variable {readGroup' : Bool → Value → Locator → Except Error (Condition T)}

/-- A member of a group is a predicate or a group again, by its name. -/
theorem readMember_eq_ok_iff {any : Bool} {child : Child} {condition : Condition T} :
    readMember engine readGroup' any child = .ok condition ↔
      (child.name = Statement.condition.name ∧
        ∃ node, readPredicate engine child.value child.path = .ok node ∧
          condition = .predicate node) ∨
      ∃ inner, child.name = (Condition.groupStatement inner).name ∧
        readGroup' inner child.value child.path = .ok condition := by
  simp only [Bool.exists_bool, Condition.groupStatement, Bool.false_eq_true, ↓reduceIte,
    ← Statement.lookup_eq_some_iff]
  rw [readMember]
  cases hword : Statement.lookup child.name with
  | none => simp [fail]
  | some statement =>
    cases statement with
    | condition =>
      simp only [Option.filter_some, Statement.isCondition, ↓reduceIte, readCondition,
        bind_eq_ok_iff, pure, Except.pure, Except.ok.injEq]
      simp [eq_comm]
    | allOf => simp [Option.filter_some, Statement.isCondition, readCondition]
    | anyOf => simp [Option.filter_some, Statement.isCondition, readCondition]
    | _ => simp [Option.filter_some, Statement.isCondition, fail]

/-- No group is read where no level is left. -/
theorem readGroup_zero {any : Bool} {node : Value} {path : Locator} {condition : Condition T} :
    readGroup engine 0 any node path ≠ .ok condition := by
  simp [readGroup, fail]

/-- A group is read if its children are listed and each is read as a member, one level further down.
-/
theorem readGroup_eq_ok_iff {budget : Nat} {any : Bool} {node : Value} {path : Locator}
    {condition : Condition T} :
    readGroup engine (budget + 1) any node path = .ok condition ↔
      ∃ cs, children engine.settings node path = .ok cs ∧
        ∃ members, condition = .group any members ∧
          List.Forall₂ (fun child member =>
            readMember engine (readGroup engine budget) any child = .ok member) cs members := by
  simp only [readGroup, bind_eq_ok_iff, mapM_eq_ok_iff, pure, Except.pure, Except.ok.injEq]
  refine exists_congr fun cs => and_congr_right fun _ => exists_congr fun members => ?_
  rw [and_comm, eq_comm]

/-! ## Bodies -/

variable {readBranch' : Bool → Value → Locator → Except Error (Branch T)}

/-- An entry of a body is a branch if it is called like one, and a consumer if it is called like no
statement. -/
theorem readEntry_eq_ok_iff {body : Body} {child : Child} {step : Step T} :
    readEntry engine readBranch' body child = .ok step ↔
      (∃ negated, child.name = (Branch.statementOf negated).name ∧
        ∃ branch, readBranch' negated child.value child.path = .ok branch ∧
          step = branch.toStep) ∨
      (Statement.lookup child.name = none ∧
        ∃ node, readConsumer engine child.name child.value child.path = .ok node ∧
          step = .consumer node) := by
  simp only [Bool.exists_bool, Branch.statementOf, Bool.false_eq_true, ↓reduceIte,
    ← Statement.lookup_eq_some_iff]
  rw [readEntry]
  cases hword : Statement.lookup child.name with
  | none =>
    simp only [bind_eq_ok_iff, pure, Except.pure, Except.ok.injEq]
    simp [eq_comm]
  | some statement =>
    cases statement with
    | ifHolds | ifNot =>
      simp only [bind_eq_ok_iff, pure, Except.pure, Except.ok.injEq]
      simp [eq_comm]
    | _ => simp [fail]

/-- A body is composed of what its children are read as. -/
theorem readBodyWith_eq_ok_iff {body : Body} {node : Value} {path : Locator}
    {step : Option (Step T)} :
    readBodyWith engine readBranch' body node path = .ok step ↔
      ∃ cs, children engine.settings node path = .ok cs ∧
        ∃ steps, step = Step.compose steps ∧
          List.Forall₂ (fun child step => readEntry engine readBranch' body child = .ok step)
            cs steps := by
  simp only [readBodyWith, bind_eq_ok_iff, mapM_eq_ok_iff, pure, Except.pure, Except.ok.injEq]
  refine exists_congr fun cs => and_congr_right fun _ => exists_congr fun steps => ?_
  rw [and_comm, eq_comm]

/-! ## The parts of a branch -/

/-- The parts of a branch that its children give. -/
inductive Part where
  | condition
  | thenBody
  | elseBody
deriving DecidableEq, Repr

/-- The part of a branch that a child of this name gives. -/
def Part.ofName? (name : String) : Option Part :=
  match Statement.lookup name with
  | some .condition | some .allOf | some .anyOf => some .condition
  | some .thenBody => some .thenBody
  | some .elseBody => some .elseBody
  | some .ifHolds | some .ifNot | none => none

theorem Part.ofName?_eq_condition_iff {name : String} :
    Part.ofName? name = some .condition ↔
      name ∈ [Statement.condition.name, Statement.allOf.name, Statement.anyOf.name] := by
  simp only [List.mem_cons, List.not_mem_nil, or_false, ← Statement.lookup_eq_some_iff]
  rw [Part.ofName?]
  cases Statement.lookup name with
  | none => simp
  | some statement => cases statement <;> simp

theorem Part.ofName?_eq_thenBody_iff {name : String} :
    Part.ofName? name = some .thenBody ↔ name = Statement.thenBody.name := by
  rw [← Statement.lookup_eq_some_iff, Part.ofName?]
  cases Statement.lookup name with
  | none => simp
  | some statement => cases statement <;> simp

theorem Part.ofName?_eq_elseBody_iff {name : String} :
    Part.ofName? name = some .elseBody ↔ name = Statement.elseBody.name := by
  rw [← Statement.lookup_eq_some_iff, Part.ofName?]
  cases Statement.lookup name with
  | none => simp
  | some statement => cases statement <;> simp

/-- The children of a branch that give a part, in order. -/
def Part.among (part : Part) (cs : List Child) : List Child :=
  cs.filter (Part.ofName? ·.name = some part)

/-- A part that may be given once: reading it succeeds if it is not there yet. -/
theorem once_eq_ok_iff {α β γ : Type} {part : Option α} {path : Locator} {problem : Problem}
    {x : Except Error β} {put : β → γ} {c : γ} :
    (if part.isSome then fail path problem else do return put (← x)) = .ok c ↔
      part = none ∧ ∃ b, x = .ok b ∧ c = put b := by
  cases part with
  | none =>
    simp only [Option.isSome_none, Bool.false_eq_true, ↓reduceIte, bind_eq_ok_iff, pure,
      Except.pure, Except.ok.injEq, true_and]
    simp [eq_comm]
  | some a => simp [fail]

/-- A member of a group is read by the statement that it is called like. -/
theorem readMember_of_lookup {any : Bool} {child : Child} {statement : Statement}
    (h : Statement.lookup child.name = some statement) (hcondition : statement.isCondition = true) :
    readMember engine readGroup' any child
      = readCondition engine readGroup' statement child.value child.path := by
  rw [readMember, h, Option.filter_some, if_pos hcondition]

theorem Part.ofName?_of_mem_among {part : Part} {child : Child} {cs : List Child}
    (h : child ∈ part.among cs) : Part.ofName? child.name = some part := by
  simpa using (List.mem_filter.mp h).2

/-- The children that give a part are sorted out one by one. -/
theorem Part.among_cons {part : Part} {child : Child} {cs : List Child} :
    part.among (child :: cs) =
      if Part.ofName? child.name = some part then child :: part.among cs else part.among cs := by
  simp [Part.among, List.filter_cons]

/-- A child of a branch gives the part that its name stands for, which was not given before. -/
theorem readPart_eq_ok_iff
    {readBody' : Body → Value → Locator → Except Error (Option (Step T))} {negated : Bool}
    {parts next : BranchParts T} {child : Child} :
    readPart engine readGroup' readBody' (Branch.statementOf negated) parts child = .ok next ↔
      match Part.ofName? child.name with
      | none => False
      | some .condition => parts.condition = none ∧
        ∃ condition, readMember engine readGroup' false child = .ok condition ∧
          next = { parts with condition := some condition }
      | some .thenBody => parts.thenBody = none ∧
        ∃ body, readBody' .thenSide child.value child.path = .ok body ∧
          next = { parts with thenBody := some body }
      | some .elseBody => parts.elseBody = none ∧
        ∃ body, readBody' .elseSide child.value child.path = .ok body ∧
          next = { parts with elseBody := some body } := by
  rw [readPart, Part.ofName?, Branch.permitted_statementOf]
  cases hword : Statement.lookup child.name with
  | none => simp [fail]
  | some statement =>
    cases statement with
    | ifHolds | ifNot => simp [Option.filter_some, fail]
    | thenBody | elseBody => exact once_eq_ok_iff
    | condition | allOf | anyOf =>
      rw [readMember_of_lookup hword rfl]
      exact once_eq_ok_iff

/-- Children that all give one part, read when `start` is there of it already, leave `result`. -/
def Fills {α : Type} (read : Child → Except Error α) (start : Option α) (cs : List Child)
    (result : Option α) : Prop :=
  ∃ read', List.Forall₂ (fun child a => read child = .ok a) cs read' ∧
    result.toList = start.toList ++ read'

section Fills

variable {α : Type} {read : Child → Except Error α} {start result : Option α} {child : Child}
  {cs : List Child}

theorem fills_nil : Fills read start [] result ↔ result = start := by
  constructor
  · rintro ⟨read', hread, hresult⟩
    cases hread
    rw [List.append_nil] at hresult
    rw [← Option.head?_toList (o := result), hresult, Option.head?_toList]
  · rintro rfl
    exact ⟨[], .nil, (List.append_nil _).symm⟩

/-- The first child fills the part and leaves no room for another. -/
theorem fills_cons :
    Fills read start (child :: cs) result ↔
      start = none ∧ ∃ a, read child = .ok a ∧ Fills read (some a) cs result := by
  constructor
  · rintro ⟨read', hread, hresult⟩
    cases hread with
    | @cons _ a _ rest ha hrest =>
      cases start with
      | none => exact ⟨rfl, a, ha, rest, hrest, hresult⟩
      | some first =>
        -- The part would be given twice, but the result has room for one.
        have hlength := congrArg List.length hresult
        have hle : result.toList.length ≤ 1 := by cases result <;> simp
        simp only [Option.toList_some, List.length_append, List.length_cons, List.length_nil]
          at hlength
        omega
  · rintro ⟨rfl, a, ha, rest, hrest, hresult⟩
    exact ⟨a :: rest, .cons ha hrest, hresult⟩

/-- A part that was open is filled by one child at most, with what that is read as. -/
theorem fills_none :
    Fills read none cs result ↔
      List.Forall₂ (fun child a => read child = .ok a) cs result.toList := by
  constructor
  · rintro ⟨read', hread, hresult⟩
    rw [hresult]
    exact hread
  · intro h
    exact ⟨_, h, rfl⟩

end Fills

/-- The parts that the children of a branch leave: every child gives a part, and no part is given
twice. The order of the children does not count. -/
theorem foldlM_readPart_iff
    {readBody' : Body → Value → Locator → Except Error (Option (Step T))} {negated : Bool}
    {cs : List Child} {start result : BranchParts T} :
    cs.foldlM (readPart engine readGroup' readBody' (Branch.statementOf negated)) start =
      .ok result ↔
      (∀ child ∈ cs, Part.ofName? child.name ≠ none) ∧
      Fills (readMember engine readGroup' false) start.condition (Part.condition.among cs)
        result.condition ∧
      Fills (fun child => readBody' .thenSide child.value child.path) start.thenBody
        (Part.thenBody.among cs) result.thenBody ∧
      Fills (fun child => readBody' .elseSide child.value child.path) start.elseBody
        (Part.elseBody.among cs) result.elseBody := by
  induction cs generalizing start with
  | nil =>
    obtain ⟨condition, thenBody, elseBody⟩ := start
    obtain ⟨condition', thenBody', elseBody'⟩ := result
    simp [Part.among, fills_nil, pure, Except.pure, eq_comm]
  | cons child rest ih =>
    simp only [List.foldlM_cons, bind_eq_ok_iff, readPart_eq_ok_iff, ih, List.forall_mem_cons]
    -- The child belongs to the children of one part only, and fills that part.
    cases hpart : Part.ofName? child.name with
    | none => simp
    | some part =>
      cases part with
      | condition =>
        simp only [Part.among_cons, hpart, Option.some.injEq, reduceCtorEq, ↓reduceIte,
          fills_cons, ne_eq, not_false_eq_true, true_and]
        constructor
        · rintro ⟨_, ⟨hstart, condition, hread, rfl⟩, hall, hcondition, hbodies⟩
          exact ⟨hall, ⟨hstart, condition, hread, hcondition⟩, hbodies⟩
        · rintro ⟨hall, ⟨hstart, condition, hread, hcondition⟩, hbodies⟩
          exact ⟨_, ⟨hstart, condition, hread, rfl⟩, hall, hcondition, hbodies⟩
      | thenBody =>
        simp only [Part.among_cons, hpart, Option.some.injEq, reduceCtorEq, ↓reduceIte,
          fills_cons, ne_eq, not_false_eq_true, true_and]
        constructor
        · rintro ⟨_, ⟨hstart, body, hread, rfl⟩, hall, hcondition, hthen, helse⟩
          exact ⟨hall, hcondition, ⟨hstart, body, hread, hthen⟩, helse⟩
        · rintro ⟨hall, hcondition, ⟨hstart, body, hread, hthen⟩, helse⟩
          exact ⟨_, ⟨hstart, body, hread, rfl⟩, hall, hcondition, hthen, helse⟩
      | elseBody =>
        simp only [Part.among_cons, hpart, Option.some.injEq, reduceCtorEq, ↓reduceIte,
          fills_cons, ne_eq, not_false_eq_true, true_and]
        constructor
        · rintro ⟨_, ⟨hstart, body, hread, rfl⟩, hall, hcondition, hthen, helse⟩
          exact ⟨hall, hcondition, hthen, hstart, body, hread, helse⟩
        · rintro ⟨hall, hcondition, hthen, hstart, body, hread, helse⟩
          exact ⟨_, ⟨hstart, body, hread, rfl⟩, hall, hcondition, hthen, helse⟩

/-! ## Branches -/

/-- A branch is complete once its condition and its `then` were given. -/
theorem finishBranch_eq_ok_iff {negated : Bool} {parts : BranchParts T} {path : Locator}
    {branch : Branch T} :
    finishBranch negated parts path = .ok branch ↔
      branch.negated = negated ∧ parts.condition = some branch.condition ∧
        parts.thenBody = some branch.thenBody ∧ branch.elseBody = parts.elseBody.join := by
  obtain ⟨condition, thenBody, elseBody⟩ := parts
  obtain ⟨negated', condition', thenBody', elseBody'⟩ := branch
  cases condition with
  | none => simp [finishBranch, fail]
  | some condition =>
    cases thenBody with
    | none => simp [finishBranch, fail]
    | some thenBody => simp [finishBranch, eq_comm]

/-- No branch is read where no level is left. -/
theorem readBranch_zero {negated : Bool} {node : Value} {path : Locator} {branch : Branch T} :
    readBranch engine 0 negated node path ≠ .ok branch := by
  simp [readBranch, fail]

/-- **Reading a branch**: every child gives a part; one child gives the condition, one the `then`
side and at most one the `else` side. -/
theorem readBranch_eq_ok_iff {budget : Nat} {negated : Bool} {node : Value} {path : Locator}
    {branch : Branch T} :
    readBranch engine (budget + 1) negated node path = .ok branch ↔
      ∃ cs, children engine.settings node path = .ok cs ∧
        (∀ child ∈ cs, Part.ofName? child.name ≠ none) ∧
        branch.negated = negated ∧
        List.Forall₂ (fun child condition =>
          readMember engine (readGroup engine budget) false child = .ok condition)
          (Part.condition.among cs) [branch.condition] ∧
        List.Forall₂ (fun child body =>
          readBody engine budget .thenSide child.value child.path = .ok body)
          (Part.thenBody.among cs) [branch.thenBody] ∧
        ∃ elseBody : Option (Option (Step T)), branch.elseBody = elseBody.join ∧
          List.Forall₂ (fun child body =>
            readBody engine budget .elseSide child.value child.path = .ok body)
            (Part.elseBody.among cs) elseBody.toList := by
  simp only [readBranch, bind_eq_ok_iff, foldlM_readPart_iff, fills_none, finishBranch_eq_ok_iff]
  refine exists_congr fun cs => and_congr_right fun _ => ?_
  constructor
  · rintro ⟨parts, ⟨hall, hcondition, hthen, helse⟩, hnegated, hc, ht, he⟩
    rw [hc] at hcondition
    rw [ht] at hthen
    exact ⟨hall, hnegated, hcondition, hthen, parts.elseBody, he, helse⟩
  · rintro ⟨hall, hnegated, hcondition, hthen, elseBody, he, helse⟩
    exact ⟨⟨some branch.condition, some branch.thenBody, elseBody⟩,
      ⟨hall, hcondition, hthen, helse⟩, hnegated, rfl, rfl, he⟩

/-- Reading a body with what is read for a branch at this budget. -/
theorem readBody_eq_ok_iff {budget : Nat} {body : Body} {node : Value} {path : Locator}
    {step : Option (Step T)} :
    readBody engine budget body node path = .ok step ↔
      ∃ cs, children engine.settings node path = .ok cs ∧
        ∃ steps, step = Step.compose steps ∧
          List.Forall₂ (fun child step => readEntry engine (readBranch engine budget) body child
            = .ok step) cs steps :=
  readBodyWith_eq_ok_iff

end Document

/-- A document is read as a body of the root, with all levels left. -/
theorem Engine.read_eq_ok_iff {T : Type} {engine : Engine T} {document : Value} {flow : Flow T} :
    engine.read document = .ok flow ↔
      Document.readBody engine engine.settings.maxDepth .root document [] = .ok flow.root := by
  simp only [Engine.read, Document.bind_eq_ok_iff, pure, Except.pure, Except.ok.injEq]
  constructor
  · rintro ⟨root, h, rfl⟩
    exact h
  · intro h
    exact ⟨flow.root, h, rfl⟩

end DecisionFlow
