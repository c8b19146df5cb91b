import DecisionFlow.Proofs.Document.Defects
import DecisionFlow.Proofs.Document.Locators

/-!
# Nodes visited child by child

Bodies, branches and groups are read in one way: their children are listed, then taken in one by
one, and at the end something may be missing. What a child does to the reading of a node around it
is told by its name or by what is read of the child itself.

- `readNode`: reads a node as what it stands for, with nothing kept of it.
- `take`, `conclude`: takes in a child of a node, and ends the reading of the node.
- `readNode_eq_visit`: nodes with children are read by taking these in.
- `readNode_eq_error`, `readNode_of_take`: why they are refused.
- `Told`, `told_take`: a child is refused for its name, or as the node that it holds is refused.
- `ErrsBelow`, `errsBelow`: **an error is at the node that was read, or below it.**
-/

namespace DecisionFlow.Document

variable {T : Type} (engine : Engine T)

/-! ## Visits -/

/-- Reads a node as what it stands for, with `budget` levels left, and keeps nothing of it. -/
def readNode (budget : Nat) : Role → Value → Locator → Except Error Unit
  | .body body, node, path => (readBody engine budget body node path).map fun _ => ()
  | .branch negated, node, path => (readBranch engine budget negated node path).map fun _ => ()
  | .group any, node, path => (readGroup engine budget any node path).map fun _ => ()
  | .condition, node, path => (readPredicate engine node path).map fun _ => ()
  | .consumer kind, node, path => (readConsumer engine kind node path).map fun _ => ()

/-- Takes in a child of a node, with `budget` levels left for the child. Only of a branch there is
something to remember for the children after it. -/
def take (budget : Nat) : Role → BranchParts T → Child → Except Error (BranchParts T)
  | .body body, parts, child =>
    (readEntry engine (readBranch engine budget) body child).map fun _ => parts
  | .branch negated, parts, child =>
    readPart engine (readGroup engine budget) (readBody engine budget)
      (Branch.statementOf negated) parts child
  | .group any, parts, child =>
    (readMember engine (readGroup engine budget) any child).map fun _ => parts
  | .condition, parts, _ | .consumer _, parts, _ => .ok parts

/-- Ends the reading of a node whose children were taken in. -/
def conclude : Role → BranchParts T → Locator → Except Error Unit
  | .branch negated, parts, path => (finishBranch negated parts path).map fun _ => ()
  | _, _, _ => .ok ()

section Sequences

variable {ε α β σ : Type}

theorem map_eq_error_iff {x : Except ε α} {f : α → β} {e : ε} :
    x.map f = .error e ↔ x = .error e := by
  cases x with
  | error e' => simp [Except.map]
  | ok a => simp [Except.map]

/-- Members that are read one by one can be read for their errors only. -/
theorem foldlM_map_const (f : α → Except ε β) (xs : List α) (s : σ) :
    xs.foldlM (fun s x => (f x).map fun _ => s) s = (xs.mapM f).map fun _ => s := by
  induction xs with
  | nil => rfl
  | cons x xs ih =>
    rw [List.foldlM_cons, List.mapM_cons]
    cases f x with
    | error e => rfl
    | ok b =>
      show xs.foldlM (fun s x => (f x).map fun _ => s) s = _
      rw [ih]
      cases xs.mapM f with
      | error e => simp [bind, Except.bind, Except.map]
      | ok bs => simp [bind, Except.bind, Except.map, pure, Except.pure]

/-- The same, if the members are listed first and something is made of them at the end. -/
theorem map_mapM_eq_foldlM {γ : Type} (members : Except ε (List α)) (f : α → Except ε β)
    (g : List β → γ) (s : σ) :
    Except.map (fun _ => ()) (do return g (← (← members).mapM f)) = (do
      let _ ← (← members).foldlM (fun s x => (f x).map fun _ => s) s
      return ()) := by
  cases members with
  | error e => rfl
  | ok xs =>
    show Except.map _ (do return g (← xs.mapM f)) = (do let _ ← xs.foldlM _ s; return ())
    rw [foldlM_map_const]
    cases xs.mapM f <;> rfl

end Sequences

variable {engine} {budget : Nat} {role : Role} {node : Value} {path : Locator} {e : Error}

/-- Where no level is left, no branch or group is read. -/
theorem readNode_zero (hlevels : role.levels = 1) (node : Value) (path : Locator) :
    readNode engine 0 role node path = fail path (.tooDeep engine.settings.maxDepth) := by
  cases role with
  | branch | group => rfl
  | _ => cases hlevels

/-- With levels enough, a node is read by listing its children, taking them one after another and
concluding. -/
theorem readNode_eq_visit (hshape : role.shape = .arrayOfObjects) (budget : Nat) (node : Value)
    (path : Locator) :
    readNode engine (budget + role.levels) role node path = (do
      let cs ← children engine.settings node path
      let parts ← cs.foldlM (take engine budget role) {}
      conclude role parts path) := by
  cases role with
  | body body =>
    exact map_mapM_eq_foldlM (children engine.settings node path)
      (readEntry engine (readBranch engine budget) body) Step.compose ({} : BranchParts T)
  | group any =>
    show (readGroup engine (budget + 1) any node path).map _ = _
    rw [readGroup]
    exact map_mapM_eq_foldlM (children engine.settings node path)
      (readMember engine (readGroup engine budget) any) (Condition.group any) ({} : BranchParts T)
  | branch negated =>
    show (readBranch engine (budget + 1) negated node path).map _ = _
    rw [readBranch]
    cases children engine.settings node path with
    | error e => rfl
    | ok cs =>
      show Except.map _ (do
        let parts ← cs.foldlM (take engine budget (.branch negated)) {}
        finishBranch negated parts path) = (do
        let parts ← cs.foldlM (take engine budget (.branch negated)) {}
        conclude (.branch negated) parts path)
      cases cs.foldlM (take engine budget (.branch negated)) {} <;> rfl
  | condition | consumer => cases hshape

/-! ## Taking in a child -/

section Taking

variable (engine budget)

/-- A reading of a child, in which the child is refused for its name, whatever it holds, or exactly
as the node of this role is refused that it holds. -/
inductive Told {α : Type} (role : Role) (name : String) (path : Locator)
    (read : Value → Except Error α) : Prop where
  | refused (problem : Problem) (refuses : ∀ value, read value = .error ⟨problem, path⟩) :
    Told role name path read
  | inner {inner : Role} (called : role.below name = some inner)
      (agrees : ∀ value e, read value = .error e ↔
        readNode engine budget inner value path = .error e) :
    Told role name path read

variable {engine budget} {α β : Type} {name : String}

/-- What is made of a child afterwards does not change where its faults lie. -/
theorem Told.map {read : Value → Except Error α} (h : Told engine budget role name path read)
    (f : α → β) : Told engine budget role name path fun value => (read value).map f := by
  cases h with
  | refused problem refuses => exact .refused problem fun value => by rw [refuses]; rfl
  | inner called agrees =>
    exact .inner called fun value e => map_eq_error_iff.trans (agrees value e)

/-- A part that may be given once is refused if it is there. -/
theorem Told.once {read : Value → Except Error α} (h : Told engine budget role name path read)
    (f : α → β) (part : Option γ) (problem : Problem) :
    Told engine budget role name path fun value =>
      if part.isSome then fail path problem else do return f (← read value) := by
  cases part with
  | none => exact h.map f
  | some c => exact .refused problem fun _ => rfl

/-- A condition is refused as the predicate or the group that it holds. -/
theorem told_readCondition (hrole : role.statement?.isSome) {statement : Statement}
    (hword : Statement.lookup name = some statement) (hcondition : statement.isCondition = true) :
    Told engine budget role name path fun value =>
      readCondition engine (readGroup engine budget) statement value path := by
  have hbelow := role.below_of_eq_name (Statement.lookup_eq_some_iff.mp hword)
  cases statement with
  | condition =>
    have hinner : role.ofStatement? .condition = some .condition := by
      cases role <;> first | rfl | cases hrole
    refine .inner (hbelow.trans hinner) fun value e => ?_
    exact map_eq_error_iff.trans map_eq_error_iff.symm
  | allOf =>
    have hinner : role.ofStatement? .allOf = some (.group false) := by
      cases role <;> first | rfl | cases hrole
    exact .inner (hbelow.trans hinner) fun value e => map_eq_error_iff.symm
  | anyOf =>
    have hinner : role.ofStatement? .anyOf = some (.group true) := by
      cases role <;> first | rfl | cases hrole
    exact .inner (hbelow.trans hinner) fun value e => map_eq_error_iff.symm
  | _ => cases hcondition

/-- An entry is refused for its name, or as the branch or the consumer that it holds. -/
theorem told_readEntry (body : Body) (name : String) (path : Locator) :
    Told engine budget (.body body) name path fun value =>
      readEntry engine (readBranch engine budget) body ⟨name, value, path⟩ := by
  cases hword : Statement.lookup name with
  | none =>
    have hbelow : (Role.body body).below name = some (.consumer name) := by
      rw [Role.below, hword]
      rfl
    refine .inner hbelow fun value e => ?_
    simp only [readEntry, hword]
    exact map_eq_error_iff.trans map_eq_error_iff.symm
  | some statement =>
    have hbelow := (Role.body body).below_of_eq_name (Statement.lookup_eq_some_iff.mp hword)
    cases statement with
    | ifHolds | ifNot =>
      refine .inner hbelow fun value e => ?_
      simp only [readEntry, hword]
      exact map_eq_error_iff.trans map_eq_error_iff.symm
    | _ => exact .refused _ fun value => by simp only [readEntry, hword]; rfl

/-- A member is refused for its name, or as the predicate or the group that it holds. -/
theorem told_readMember (any : Bool) (name : String) (path : Locator) :
    Told engine budget (.group any) name path fun value =>
      readMember engine (readGroup engine budget) any ⟨name, value, path⟩ := by
  cases hword : (Statement.lookup name).filter (·.isCondition) with
  | none =>
    refine .refused (.unexpectedStatement name (Condition.groupStatement any)) fun value => ?_
    simp only [readMember, hword]
    rfl
  | some statement =>
    obtain ⟨hlookup, hcondition⟩ := Option.filter_eq_some_iff.mp hword
    simp only [readMember, hword]
    exact told_readCondition rfl hlookup hcondition

/-- A part of a branch is refused for its name, or as the condition or the body that it holds. -/
theorem told_readPart (negated : Bool) (parts : BranchParts T) (name : String) (path : Locator) :
    Told engine budget (.branch negated) name path fun value =>
      readPart engine (readGroup engine budget) (readBody engine budget)
        (Branch.statementOf negated) parts
        ⟨name, value, path⟩ := by
  cases hword :
    (Statement.lookup name).filter ((Branch.statementOf negated).permitted.contains ·) with
  | none =>
    refine .refused (.unexpectedStatement name (Branch.statementOf negated)) fun value => ?_
    simp only [readPart, hword]
    rfl
  | some statement =>
    obtain ⟨hlookup, hpermitted⟩ := Option.filter_eq_some_iff.mp hword
    have hbelow := (Role.branch negated).below_of_eq_name (Statement.lookup_eq_some_iff.mp hlookup)
    simp only [readPart, hword]
    cases statement with
    | ifHolds | ifNot =>
      rw [Branch.permitted_statementOf] at hpermitted
      cases hpermitted
    | thenBody =>
      have hbody : Told engine budget (.branch negated) name path fun value =>
          readBody engine budget .thenSide value path :=
        .inner hbelow fun value e => map_eq_error_iff.symm
      exact hbody.once _ parts.thenBody _
    | elseBody =>
      have hbody : Told engine budget (.branch negated) name path fun value =>
          readBody engine budget .elseSide value path :=
        .inner hbelow fun value e => map_eq_error_iff.symm
      exact hbody.once _ parts.elseBody _
    | condition | allOf | anyOf =>
      exact (told_readCondition rfl hlookup rfl).once _ parts.condition _

/-- **What a child does to the node around it is told by its name or by what is read of it.** -/
theorem told_take (hshape : role.shape = .arrayOfObjects) (parts : BranchParts T) (name : String)
    (path : Locator) :
    Told engine budget role name path fun value =>
      take engine budget role parts ⟨name, value, path⟩ := by
  cases role with
  | body body => exact (told_readEntry body name path).map _
  | group any => exact (told_readMember any name path).map _
  | branch negated => exact told_readPart negated parts name path
  | condition | consumer => cases hshape

end Taking

/-- What is missing from a node is reported at the node. -/
theorem path_of_conclude {parts : BranchParts T} (h : conclude role parts path = .error e) :
    e.path = path := by
  cases role with
  | branch negated =>
    have hfinish : finishBranch negated parts path = .error e := map_eq_error_iff.mp h
    obtain ⟨condition, thenBody, elseBody⟩ := parts
    cases condition with
    | none => rw [← Except.error.inj hfinish]
    | some condition =>
      cases thenBody with
      | none => rw [← Except.error.inj hfinish]
      | some thenBody => cases hfinish
  | _ => cases h

/-! ## Places of errors -/

/-- Why a node with children is refused: its children cannot be listed, one of them cannot be taken
in after those before it, or something is missing at the end. -/
theorem readNode_eq_error (hshape : role.shape = .arrayOfObjects)
    (h : readNode engine (budget + role.levels) role node path = .error e) :
    children engine.settings node path = .error e ∨
    ∃ cs, children engine.settings node path = .ok cs ∧
      ((∃ before child after parts, cs = before ++ child :: after ∧
        before.foldlM (take engine budget role) {} = .ok parts ∧
        take engine budget role parts child = .error e) ∨
      ∃ parts : BranchParts T, conclude role parts path = .error e) := by
  rw [readNode_eq_visit hshape] at h
  obtain h | ⟨cs, hcs, h⟩ := eq_error_of_bind h
  · exact .inl h
  · refine .inr ⟨cs, hcs, ?_⟩
    obtain hfold | ⟨parts, -, hconclude⟩ := eq_error_of_bind h
    · exact .inl (exists_of_foldlM_eq_error hfold)
    · exact .inr ⟨parts, hconclude⟩

/-- A child that cannot be taken in ends the reading, whatever comes after it. -/
theorem readNode_of_take (hshape : role.shape = .arrayOfObjects) {before after : List Child}
    {child : Child} {parts : BranchParts T}
    (hchildren : children engine.settings node path = .ok (before ++ child :: after))
    (hbefore : before.foldlM (take engine budget role) {} = .ok parts)
    (htake : take engine budget role parts child = .error e) :
    readNode engine (budget + role.levels) role node path = .error e := by
  have hfold : (before ++ child :: after).foldlM (take engine budget role) {} = .error e := by
    rw [List.foldlM_append, hbefore]
    show (child :: after).foldlM (take engine budget role) parts = .error e
    rw [List.foldlM_cons, htake]
    rfl
  rw [readNode_eq_visit hshape, hchildren]
  show (do
    let parts ← (before ++ child :: after).foldlM (take engine budget role) {}
    conclude role parts path) = .error e
  rw [hfold]
  rfl

/-- An error of listing the children is at the node or at one of its items. -/
theorem path_of_children {settings : Settings} (h : children settings node path = .error e) :
    e.path = path ∨
    ∃ items i, node = .array items ∧ i < items.length ∧ e.path = path.item i := by
  obtain ⟨-, rfl⟩ | ⟨items, i, item, rfl, hitem, -, rfl⟩ := children_eq_error h
  · exact .inl rfl
  · obtain ⟨hlt, -⟩ := List.getElem?_eq_some_iff.mp hitem
    exact .inr ⟨items, i, rfl, hlt, rfl⟩

/-- Children lie below their node. -/
theorem prefix_of_mem_children {settings : Settings} {cs : List Child} {child : Child}
    (h : children settings node path = .ok cs) (hchild : child ∈ cs) : path <+: child.path := by
  rw [eq_childrenAt h] at hchild
  obtain ⟨fields, -, -, hpath⟩ | ⟨items, i, fields, -, -, -, hpath⟩ := mem_childrenAt hchild
  · rw [hpath]
    exact List.prefix_append ..
  · rw [hpath]
    exact path.prefix_entry i child.name

/-- Nodes of this role that are refused are refused for something in them. -/
def ErrsBelow (engine : Engine T) (budget : Nat) (role : Role) : Prop :=
  ∀ node path e, readNode engine budget role node path = .error e → path <+: e.path

/-- A child that is refused is blamed at or below its own place. -/
theorem errsBelow_take (hshape : role.shape = .arrayOfObjects)
    (hinner : ∀ name inner, role.below name = some inner → ErrsBelow engine budget inner)
    {parts : BranchParts T} {child : Child} (h : take engine budget role parts child = .error e) :
    child.path <+: e.path := by
  cases told_take hshape parts child.name child.path with
  | refused problem refuses =>
    obtain rfl := Except.error.inj ((refuses child.value).symm.trans h)
    exact List.prefix_rfl
  | inner called agrees => exact hinner _ _ called _ _ _ ((agrees _ _).mp h)

/-- A node that is taken apart errs below itself if its children do. -/
theorem errsBelow_visit (hshape : role.shape = .arrayOfObjects)
    (hinner : ∀ name inner, role.below name = some inner → ErrsBelow engine budget inner) :
    ErrsBelow engine (budget + role.levels) role := by
  intro node path e h
  obtain hchildren | ⟨cs, hcs, hvisit⟩ := readNode_eq_error hshape h
  · obtain hpath | ⟨items, i, -, -, hpath⟩ := path_of_children hchildren
    · exact hpath ▸ List.prefix_rfl
    · exact hpath ▸ path.prefix_item i
  · obtain ⟨before, child, after, parts, rfl, -, htake⟩ | ⟨parts, hconclude⟩ := hvisit
    · have hchild : child ∈ before ++ child :: after :=
        List.mem_append_right _ List.mem_cons_self
      exact (prefix_of_mem_children hcs hchild).trans (errsBelow_take hshape hinner htake)
    · exact path_of_conclude hconclude ▸ List.prefix_rfl

theorem errsBelow_condition (budget : Nat) : ErrsBelow engine budget .condition := by
  intro node path e h
  obtain ⟨-, rfl⟩ | ⟨fields, -, ⟨-, rfl⟩ | ⟨kind, problem, -, -, rfl⟩⟩ :=
    readPredicate_eq_error (map_eq_error_iff.mp h)
  all_goals exact List.prefix_rfl

theorem errsBelow_consumer (budget : Nat) (kind : String) :
    ErrsBelow engine budget (.consumer kind) := by
  intro node path e h
  obtain ⟨-, rfl⟩ | ⟨config, problem, -, -, rfl⟩ :=
    readConsumer_eq_error (map_eq_error_iff.mp h)
  all_goals exact List.prefix_rfl

/-- A body is never directly inside a body. -/
theorem Role.below_body_ne (body other : Body) (name : String) :
    (Role.body body).below name ≠ some (.body other) := by
  intro h
  rw [Role.below] at h
  cases hword : Statement.lookup name with
  | none =>
    rw [hword] at h
    cases h
  | some statement =>
    rw [hword] at h
    cases statement <;> cases h

/-- A body is read on the level of its branches, so it is enough to know about
branches and groups. -/
theorem errsBelow_of_nested
    (hnested : ∀ role : Role, role.levels = 1 → ErrsBelow engine budget role) (role : Role) :
    ErrsBelow engine budget role := by
  cases role with
  | body body =>
    have hinner : ∀ name inner, (Role.body body).below name = some inner →
        ErrsBelow engine budget inner := by
      intro name inner hbelow
      cases inner with
      | body other => exact absurd hbelow (Role.below_body_ne body other name)
      | branch | group => exact hnested _ rfl
      | condition => exact errsBelow_condition budget
      | consumer kind => exact errsBelow_consumer budget kind
    exact errsBelow_visit rfl hinner
  | branch | group => exact hnested _ rfl
  | condition => exact errsBelow_condition budget
  | consumer kind => exact errsBelow_consumer budget kind

/-- **An error is at the node that was read, or below it.** -/
theorem errsBelow (budget : Nat) (role : Role) : ErrsBelow engine budget role := by
  -- The induction is on the levels that are left, and only branches and groups take one up.
  refine errsBelow_of_nested ?_ role
  induction budget with
  | zero =>
    intro role hlevels node path e h
    rw [readNode_zero hlevels] at h
    obtain rfl := Except.error.inj h
    exact List.prefix_rfl
  | succ budget ih =>
    intro role hlevels
    have hshape : role.shape = .arrayOfObjects := by cases role <;> first | rfl | cases hlevels
    have hvisit := errsBelow_visit hshape fun _ inner _ => errsBelow_of_nested ih inner
    rwa [hlevels] at hvisit

end DecisionFlow.Document
