import DecisionFlow.Builtin
import DecisionFlow.Proofs.Document.Fitting

/-!
# The limit on nesting

Branches and groups of a document draw on one budget of levels while it is read. How deep each of
them is nested can be counted off from the tree, and so can the depth of the flow from the graph.
The limit is exact for both counts.

- `Document.nestings`: the branches and groups of a document with their levels, in document order.
- `Document.limited`: what is read of a part of a document under a limit, if nothing else is wrong.
- `readGroup_withMaxDepth`, `readBranch_withMaxDepth`, `readBody_withMaxDepth`: what was read under
  one limit is `limited` by any other.
- `within_of_readBody`, `within_of_readBranch`: no branch or group is nested deeper than what is
  read.
- `Engine.read_withMaxDepth`: a document that was read under one limit, read under another.
-/

namespace DecisionFlow

/-- The engine with another limit on nesting. -/
def Engine.withMaxDepth {T : Type} (engine : Engine T) (limit : Nat) : Engine T :=
  { engine with settings := { engine.settings with maxDepth := limit } }

namespace Document

/-! ## Levels of a document -/

/-- A branch or a group of a document. -/
structure Nesting where
  path : Locator
  /-- How many branches and groups stand around it, itself included. -/
  level : Nat

mutual

/-- The branches and groups below a node at `path`, in document order. As many as `level` stand
around the children of the node. -/
def nestingsBelow (level : Nat) (path : Locator) : Value → List Nesting
  | .array items => nestingsOfItems level path 0 items
  | .object fields => nestingsOfFields level path fields
  | _ => []

/-- The branches and groups in items, the first being item `index` of the array at `path`. -/
def nestingsOfItems (level : Nat) (path : Locator) (index : Nat) : List Value → List Nesting
  | [] => []
  | .object fields :: rest =>
    nestingsOfFields level (path.item index) fields ++ nestingsOfItems level path (index + 1) rest
  | _ :: rest => nestingsOfItems level path (index + 1) rest

/-- The branches and groups in fields of the object at `path`. Configurations are not
looked into. -/
def nestingsOfFields (level : Nat) (path : Locator) : List (String × Value) → List Nesting
  | [] => []
  | (name, node) :: rest =>
    (match Statement.lookup name with
      | some .ifHolds | some .ifNot | some .allOf | some .anyOf =>
        ⟨path.field name, level + 1⟩ :: nestingsBelow (level + 1) (path.field name) node
      | some .thenBody | some .elseBody => nestingsBelow level (path.field name) node
      | some .condition | none => [])
      ++ nestingsOfFields level path rest

end

/-- The branches and groups of a document with their levels, in document order. -/
def nestings (document : Value) : List Nesting := nestingsBelow 0 [] document

/-- A branch or a group, and those below it. -/
def nestingsAt (level : Nat) (path : Locator) (node : Value) : List Nesting :=
  ⟨path, level + 1⟩ :: nestingsBelow (level + 1) path node

/-- The branches and groups in a child. -/
def Child.nestings (level : Nat) (child : Child) : List Nesting :=
  match Statement.lookup child.name with
  | some .ifHolds | some .ifNot | some .allOf | some .anyOf =>
    nestingsAt level child.path child.value
  | some .thenBody | some .elseBody => nestingsBelow level child.path child.value
  | some .condition | none => []

/-- The nestings of fields are those of the children that they make. -/
theorem nestingsOfFields_eq_flatMap (level : Nat) (path : Locator) (fields : Fields) :
    nestingsOfFields level path fields
      = (childrenOfFields path fields).flatMap (Child.nestings level) := by
  induction fields with
  | nil => rfl
  | cons field rest ih =>
    obtain ⟨name, node⟩ := field
    rw [nestingsOfFields, ih]
    rfl

/-- The nestings of items are those of the children that they make. -/
theorem nestingsOfItems_eq_flatMap {level : Nat} {path : Locator} {index : Nat} {items : List Value}
    {cs : List Child} (h : childrenOfItems path index items = .ok cs) :
    nestingsOfItems level path index items = cs.flatMap (Child.nestings level) := by
  induction items generalizing index cs with
  | nil =>
    cases h
    rfl
  | cons item rest ih =>
    cases item with
    | object fields =>
      obtain ⟨later, hlater, hcs⟩ := bind_eq_ok_iff.mp h
      cases hcs
      rw [nestingsOfItems, ih hlater, nestingsOfFields_eq_flatMap, List.flatMap_append]
    | _ => cases h

/-- The branches and groups below a node are those in its children. -/
theorem nestingsBelow_eq_flatMap {settings : Settings} {level : Nat} {node : Value} {path : Locator}
    {cs : List Child} (h : children settings node path = .ok cs) :
    nestingsBelow level path node = cs.flatMap (Child.nestings level) := by
  cases node with
  | null =>
    cases h
    rfl
  | array items =>
    rw [nestingsBelow]
    exact nestingsOfItems_eq_flatMap h
  | object fields =>
    rw [children] at h
    split at h
    case isTrue =>
      cases h
      rw [nestingsBelow]
      exact nestingsOfFields_eq_flatMap level path fields
    case isFalse => cases h
  | _ => cases h

/-! ## Reading under a limit -/

/-- What is read of a part of a document under a limit: `a`, unless a branch or a group in the part
is one level too deep. Then the first of these is reported. -/
def limited {α : Type} (limit : Nat) (ns : List Nesting) (a : α) : Except Error α :=
  match ns.find? (·.level = limit + 1) with
  | none => .ok a
  | some n => fail n.path (.tooDeep limit)

section Limited

variable {α β : Type} {limit : Nat} {ns more : List Nesting} {a : α} {b : β}

/-- What is read of one part and then of another. -/
theorem limited_bind {f : α → Except Error β} (h : f a = limited limit more b) :
    limited limit ns a >>= f = limited limit (ns ++ more) b := by
  rw [limited, limited, List.find?_append]
  cases ns.find? (·.level = limit + 1) with
  | none => exact h
  | some n => rfl

theorem limited_return {f : α → β} :
    (do return f (← limited limit ns a)) = limited limit ns (f a) := by
  rw [limited, limited]
  cases ns.find? (·.level = limit + 1) with
  | none => rfl
  | some n => rfl

/-- The first nesting beyond the limit is reported. -/
theorem limited_cons_of_eq {n : Nesting} (h : n.level = limit + 1) :
    limited limit (n :: ns) a = fail n.path (.tooDeep limit) := by
  rw [limited, List.find?_cons_of_pos (by simpa using h)]

/-- Nestings within the limit are passed over. -/
theorem limited_cons_of_ne {n : Nesting} (h : n.level ≠ limit + 1) :
    limited limit (n :: ns) a = limited limit ns a := by
  rw [limited, limited, List.find?_cons_of_neg (by simpa using h)]

variable {nestingsIn : Child → List Nesting}

/-- If members are limited by their nestings, a list of them is limited by the nestings in order. -/
theorem mapM_eq_limited {read : Child → Except Error α} {cs : List Child} {as : List α}
    (h : List.Forall₂ (fun child a => read child = limited limit (nestingsIn child) a) cs as) :
    cs.mapM read = limited limit (cs.flatMap nestingsIn) as := by
  induction h with
  | nil => rfl
  | @cons child a cs as hchild _ ih =>
    rw [List.mapM_cons, hchild, List.flatMap_cons]
    refine limited_bind ?_
    rw [ih]
    exact limited_return

/-- So is a fold over them. -/
theorem foldlM_eq_limited {read read' : β → Child → Except Error β} {cs : List Child}
    {start result : β} (h : cs.foldlM read start = .ok result)
    (hread : ∀ child ∈ cs, ∀ before after, read before child = .ok after →
      read' before child = limited limit (nestingsIn child) after) :
    cs.foldlM read' start = limited limit (cs.flatMap nestingsIn) result := by
  induction cs generalizing start with
  | nil =>
    cases h
    rfl
  | cons child rest ih =>
    obtain ⟨hchild, hrest⟩ := List.forall_mem_cons.mp hread
    rw [List.foldlM_cons] at h ⊢
    obtain ⟨next, hnext, hlater⟩ := bind_eq_ok_iff.mp h
    rw [hchild start next hnext, List.flatMap_cons]
    exact limited_bind (ih hlater hrest)

end Limited

variable {T : Type} {engine : Engine T} {limit : Nat}

/-- How children are listed does not depend on the limit. -/
theorem children_withMaxDepth (engine : Engine T) (limit : Nat) :
    children (engine.withMaxDepth limit).settings = children engine.settings := by
  funext node path
  cases node <;> rfl

/-- Nor do conditions, which nest nothing. -/
theorem readPredicate_withMaxDepth (engine : Engine T) (limit : Nat) :
    readPredicate (engine.withMaxDepth limit) = readPredicate engine := rfl

theorem readConsumer_withMaxDepth (engine : Engine T) (limit : Nat) :
    readConsumer (engine.withMaxDepth limit) = readConsumer engine := rfl

/-! ### Conditions -/

/-- What a group was read as is limited in the same way by another reader of groups. -/
def LimitsGroups (limit level : Nat)
    (read read' : Bool → Value → Locator → Except Error (Condition T)) : Prop :=
  ∀ any node path condition, read any node path = .ok condition →
    read' any node path = limited limit (nestingsAt level path node) condition

variable {level : Nat} {groups groups' : Bool → Value → Locator → Except Error (Condition T)}

/-- A member is limited by the nestings of its child, if groups are. -/
theorem readMember_withMaxDepth (hgroups : LimitsGroups limit level groups groups') {any : Bool}
    {child : Child} {condition : Condition T}
    (h : readMember engine groups any child = .ok condition) :
    readMember (engine.withMaxDepth limit) groups' any child
      = limited limit (child.nestings level) condition := by
  obtain ⟨hname, node, hnode, rfl⟩ | ⟨inner, hname, hcondition⟩ := readMember_eq_ok_iff.mp h
  · -- A single condition has nothing nested in it.
    have hword := Statement.lookup_eq_some_iff.mpr hname
    rw [readMember_of_lookup hword rfl, readCondition, readPredicate_withMaxDepth, hnode,
      Child.nestings, hword]
    · rfl
    all_goals
      intro h
      cases h
  · have hword := Statement.lookup_eq_some_iff.mpr hname
    have hlimited := hgroups _ _ _ _ hcondition
    cases inner with
    | false =>
      rw [readMember_of_lookup hword rfl, Child.nestings, hword]
      exact hlimited
    | true =>
      rw [readMember_of_lookup hword rfl, Child.nestings, hword]
      exact hlimited

/-- **A group that was read, read under another limit.** The level around it and the levels that are
left add up to the limit. -/
theorem readGroup_withMaxDepth {budget : Nat} {any : Bool} {node : Value} {path : Locator}
    {condition : Condition T} (h : readGroup engine budget any node path = .ok condition)
    {left : Nat} (hleft : level + left = limit) :
    readGroup (engine.withMaxDepth limit) left any node path
      = limited limit (nestingsAt level path node) condition := by
  induction budget generalizing any node path condition level left with
  | zero => exact absurd h readGroup_zero
  | succ budget ih =>
    obtain ⟨cs, hcs, members, rfl, hmembers⟩ := readGroup_eq_ok_iff.mp h
    cases left with
    | zero =>
      rw [nestingsAt, limited_cons_of_eq (show level + 1 = limit + 1 by omega)]
      rfl
    | succ left =>
      rw [nestingsAt, limited_cons_of_ne (show level + 1 ≠ limit + 1 by omega), readGroup,
        children_withMaxDepth, hcs, nestingsBelow_eq_flatMap hcs]
      have hgroups : LimitsGroups limit (level + 1) (readGroup engine budget)
          (readGroup (engine.withMaxDepth limit) left) :=
        fun _ _ _ _ hcondition => ih hcondition (by omega)
      have hall := mapM_eq_limited
        (hmembers.imp fun _ _ hmember => readMember_withMaxDepth hgroups hmember)
      exact (congrArg (fun read => do return Condition.group any (← read)) hall).trans
        limited_return

/-! ### Branches and bodies -/

/-- What a body was read as is limited in the same way by another reader of bodies. -/
def LimitsBodies (limit level : Nat)
    (read read' : Body → Value → Locator → Except Error (Option (Step T))) : Prop :=
  ∀ body node path step, read body node path = .ok step →
    read' body node path = limited limit (nestingsBelow level path node) step

variable {bodies bodies' : Body → Value → Locator → Except Error (Option (Step T))}

/-- A part that may be given once, read under another limit. -/
theorem once_limited {α β γ : Type} {part : Option α} {path : Locator} {problem : Problem}
    {x x' : Except Error β} {put : β → γ} {ns : List Nesting} {c : γ}
    (hx : ∀ b, x = .ok b → x' = limited limit ns b)
    (h : (if part.isSome then fail path problem else do return put (← x)) = .ok c) :
    (if part.isSome then fail path problem else do return put (← x')) = limited limit ns c := by
  obtain ⟨rfl, b, hb, rfl⟩ := once_eq_ok_iff.mp h
  rw [Option.isSome_none, if_neg Bool.false_ne_true, hx b hb]
  exact limited_return

theorem readCondition_withMaxDepth (hgroups : LimitsGroups limit level groups groups')
    {child : Child} {statement : Statement} (hword : Statement.lookup child.name = some statement)
    (hform : statement.isCondition = true) {condition : Condition T}
    (h : readCondition engine groups statement child.value child.path = .ok condition) :
    readCondition (engine.withMaxDepth limit) groups' statement child.value child.path
      = limited limit (child.nestings level) condition := by
  -- As a member of a group the child is read by the same function.
  have hmember : readMember engine groups false child = .ok condition :=
    (readMember_of_lookup hword hform).trans h
  exact (readMember_of_lookup hword hform).symm.trans (readMember_withMaxDepth hgroups hmember)

/-- A part of a branch is limited by the nestings of its child, if groups and bodies are. -/
theorem readPart_withMaxDepth (hgroups : LimitsGroups limit level groups groups')
    (hbodies : LimitsBodies limit level bodies bodies') {negated : Bool} (child : Child)
    {parts next : BranchParts T}
    (h : readPart engine groups bodies (Branch.statementOf negated) parts child = .ok next) :
    readPart (engine.withMaxDepth limit) groups' bodies' (Branch.statementOf negated) parts child
      = limited limit (child.nestings level) next := by
  rw [readPart, Branch.permitted_statementOf] at h ⊢
  cases hword : Statement.lookup child.name with
  | none =>
    rw [hword] at h
    cases h
  | some statement =>
    rw [hword] at h
    cases statement with
    | ifHolds | ifNot => cases h
    | thenBody | elseBody =>
      rw [Child.nestings, hword]
      exact once_limited (hbodies _ _ _) h
    | condition | allOf | anyOf =>
      exact once_limited (fun _ => readCondition_withMaxDepth hgroups hword rfl) h

/-- What a branch was read as is limited in the same way by another reader of branches. -/
def LimitsBranches (limit level : Nat)
    (read read' : Bool → Value → Locator → Except Error (Branch T)) : Prop :=
  ∀ negated node path branch, read negated node path = .ok branch →
    read' negated node path = limited limit (nestingsAt level path node) branch

variable {branches branches' : Bool → Value → Locator → Except Error (Branch T)}

/-- An entry is limited by the nestings of its child, if branches are. -/
theorem readEntry_withMaxDepth (hbranches : LimitsBranches limit level branches branches')
    {body : Body} {child : Child} {step : Step T}
    (h : readEntry engine branches body child = .ok step) :
    readEntry (engine.withMaxDepth limit) branches' body child
      = limited limit (child.nestings level) step := by
  obtain ⟨negated, hname, branch, hread, rfl⟩ | ⟨hname, node, hnode, rfl⟩ :=
    readEntry_eq_ok_iff.mp h
  · have hword := Statement.lookup_eq_some_iff.mpr hname
    have hstep := (congrArg (fun read => do return Branch.toStep (← read))
      (hbranches _ _ _ _ hread)).trans limited_return
    rw [readEntry, hword, Child.nestings, hword]
    cases negated with
    | false => exact hstep
    | true => exact hstep
  · rw [readEntry, hname, Child.nestings, hname, readConsumer_withMaxDepth, hnode]
    rfl

/-- A body is limited by the nestings below it, if branches are. -/
theorem readBodyWith_withMaxDepth (hbranches : LimitsBranches limit level branches branches') :
    LimitsBodies limit level (readBodyWith engine branches)
      (readBodyWith (engine.withMaxDepth limit) branches') := by
  intro body node path step h
  obtain ⟨cs, hcs, steps, rfl, hsteps⟩ := readBodyWith_eq_ok_iff.mp h
  have hall := mapM_eq_limited (hsteps.imp fun _ _ hstep => readEntry_withMaxDepth hbranches hstep)
  rw [readBodyWith, children_withMaxDepth, hcs, nestingsBelow_eq_flatMap hcs]
  exact (congrArg (fun read => do return Step.compose (← read)) hall).trans limited_return

/-- **A branch that was read, read under another limit.** -/
theorem readBranch_withMaxDepth {budget : Nat} {negated : Bool} {node : Value} {path : Locator}
    {branch : Branch T} (h : readBranch engine budget negated node path = .ok branch) {left : Nat}
    (hleft : level + left = limit) :
    readBranch (engine.withMaxDepth limit) left negated node path
      = limited limit (nestingsAt level path node) branch := by
  induction budget generalizing negated node path branch level left with
  | zero => exact absurd h readBranch_zero
  | succ budget ih =>
    rw [readBranch] at h
    obtain ⟨cs, hcs, h⟩ := bind_eq_ok_iff.mp h
    obtain ⟨parts, hparts, hfinish⟩ := bind_eq_ok_iff.mp h
    cases left with
    | zero =>
      rw [nestingsAt, limited_cons_of_eq (show level + 1 = limit + 1 by omega)]
      rfl
    | succ left =>
      have hrest : level + 1 + left = limit := by omega
      rw [nestingsAt, limited_cons_of_ne (show level + 1 ≠ limit + 1 by omega), readBranch,
        children_withMaxDepth, hcs, nestingsBelow_eq_flatMap hcs]
      have hgroups : LimitsGroups limit (level + 1) (readGroup engine budget)
          (readGroup (engine.withMaxDepth limit) left) :=
        fun _ _ _ _ hcondition => readGroup_withMaxDepth hcondition hrest
      have hbodies : LimitsBodies limit (level + 1) (readBodyWith engine (readBranch engine budget))
          (readBodyWith (engine.withMaxDepth limit)
            (readBranch (engine.withMaxDepth limit) left)) :=
        readBodyWith_withMaxDepth fun _ _ _ _ hbranch => ih hbranch hrest
      have hall := foldlM_eq_limited hparts fun child _ _ _ hpart =>
        readPart_withMaxDepth hgroups hbodies child hpart
      -- Putting the parts together needs no further level.
      have hdone : finishBranch negated parts path = limited limit [] branch := hfinish
      have hbranch := (congrArg (· >>= fun parts => finishBranch negated parts path) hall).trans
        (limited_bind hdone)
      rw [List.append_nil] at hbranch
      exact hbranch

/-- **A body that was read, read under another limit.** -/
theorem readBody_withMaxDepth {budget : Nat} {body : Body} {node : Value} {path : Locator}
    {step : Option (Step T)} (h : readBody engine budget body node path = .ok step) {left : Nat}
    (hleft : level + left = limit) :
    readBody (engine.withMaxDepth limit) left body node path
      = limited limit (nestingsBelow level path node) step :=
  readBodyWith_withMaxDepth (fun _ _ _ _ hbranch => readBranch_withMaxDepth hbranch hleft) _ _ _ _ h

/-! ## Levels and depth -/

/-- No branch or group among these goes more than `depth` levels beyond `level`. -/
def Within (level depth : Nat) (ns : List Nesting) : Prop := ∀ n ∈ ns, n.level ≤ level + depth

theorem within_nil {depth : Nat} : Within level depth [] := fun _ h => nomatch h

/-- What nests within a depth nests within a greater one. -/
theorem Within.mono {depth depth' : Nat} {ns : List Nesting} (h : Within level depth ns)
    (hle : depth ≤ depth') : Within level depth' ns := by
  intro n hn
  have hlevel := h n hn
  omega

/-- A branch or a group takes up one level. -/
theorem within_nestingsAt {depth : Nat} {node : Value} {path : Locator}
    (h : Within (level + 1) depth (nestingsBelow (level + 1) path node)) :
    Within level (1 + depth) (nestingsAt level path node) := by
  intro n hn
  obtain rfl | hn := List.mem_cons.mp hn
  · show level + 1 ≤ level + (1 + depth)
    omega
  · have hlevel := h n hn
    omega

theorem exists_mem_of_forall₂ {α β : Type} {R : α → β → Prop} {xs : List α}
    {ys : List β} (h : List.Forall₂ R xs ys) : ∀ x ∈ xs, ∃ y ∈ ys, R x y := by
  induction h with
  | nil => exact fun _ h => nomatch h
  | @cons x y xs ys hxy _ ih =>
    refine List.forall_mem_cons.mpr ⟨⟨y, List.mem_cons_self, hxy⟩, fun x hx => ?_⟩
    obtain ⟨y, hy, hR⟩ := ih x hx
    exact ⟨y, List.mem_cons_of_mem _ hy, hR⟩

/-- What holds of the levels in each child holds of the levels below the node. -/
theorem within_flatMap {depth : Nat} {cs : List Child}
    (h : ∀ child ∈ cs, Within level depth (child.nestings level)) :
    Within level depth (cs.flatMap (Child.nestings level)) := by
  intro n hn
  obtain ⟨child, hchild, hn⟩ := List.mem_flatMap.mp hn
  exact h child hchild n hn

/-- No member is deeper than the group knows. -/
theorem depth_le_depthMembers {members : List (Condition T)} :
    ∀ member ∈ members, member.depth ≤ Condition.depthMembers members := by
  induction members with
  | nil => exact fun _ h => nomatch h
  | cons first rest ih =>
    rw [Condition.depthMembers]
    refine List.forall_mem_cons.mpr ⟨Nat.le_max_left .., fun member hmember => ?_⟩
    exact Nat.le_trans (ih member hmember) (Nat.le_max_right ..)

theorem depth_le_depthAll {steps : List (Step T)} :
    ∀ step ∈ steps, step.depth ≤ Step.depthAll steps := by
  induction steps with
  | nil => exact fun _ h => nomatch h
  | cons first rest ih =>
    rw [Step.depthAll]
    refine List.forall_mem_cons.mpr ⟨Nat.le_max_left .., fun step hstep => ?_⟩
    exact Nat.le_trans (ih step hstep) (Nat.le_max_right ..)

/-- A member nests as deep as the condition that was read, if groups do. -/
theorem within_of_readMember
    (hgroups : ∀ any node path condition, groups any node path = .ok condition →
      Within level condition.depth (nestingsAt level path node))
    {any : Bool} {child : Child} {condition : Condition T}
    (h : readMember engine groups any child = .ok condition) :
    Within level condition.depth (child.nestings level) := by
  obtain ⟨hname, node, -, rfl⟩ | ⟨inner, hname, hcondition⟩ := readMember_eq_ok_iff.mp h
  · rw [Child.nestings, Statement.lookup_eq_some_iff.mpr hname]
    exact within_nil
  · rw [Child.nestings, Statement.lookup_eq_some_iff.mpr hname]
    cases inner with
    | false => exact hgroups _ _ _ _ hcondition
    | true => exact hgroups _ _ _ _ hcondition

/-- A group nests as deep as the condition that was read. -/
theorem within_of_readGroup {budget : Nat} {any : Bool} {node : Value} {path : Locator}
    {condition : Condition T} (h : readGroup engine budget any node path = .ok condition) :
    Within level condition.depth (nestingsAt level path node) := by
  induction budget generalizing any node path condition level with
  | zero => exact absurd h readGroup_zero
  | succ budget ih =>
    obtain ⟨cs, hcs, members, rfl, hmembers⟩ := readGroup_eq_ok_iff.mp h
    rw [Condition.depth]
    refine within_nestingsAt ?_
    rw [nestingsBelow_eq_flatMap hcs]
    refine within_flatMap fun child hchild => ?_
    obtain ⟨member, hmember, hread⟩ := exists_mem_of_forall₂ hmembers child hchild
    exact (within_of_readMember (fun _ _ _ _ => ih) hread).mono
      (depth_le_depthMembers member hmember)

/-- A body nests as deep as the steps that were read, if branches do. -/
theorem within_of_readBody {budget : Nat}
    (hbranches : ∀ negated node path branch,
      readBranch engine budget negated node path = .ok branch →
      Within level branch.toStep.depth (nestingsAt level path node))
    {body : Body} {node : Value} {path : Locator} {step : Option (Step T)}
    (h : readBody engine budget body node path = .ok step) :
    Within level (Step.depthBody step) (nestingsBelow level path node) := by
  obtain ⟨cs, hcs, steps, rfl, hsteps⟩ := readBody_eq_ok_iff.mp h
  rw [nestingsBelow_eq_flatMap hcs, depthBody_eq_elim, sequential_depth.compose]
  refine within_flatMap fun child hchild => ?_
  obtain ⟨step, hstep, hread⟩ := exists_mem_of_forall₂ hsteps child hchild
  refine Within.mono ?_ (depth_le_depthAll step hstep)
  obtain ⟨negated, hname, branch, hbranch, rfl⟩ | ⟨hname, node, -, rfl⟩ :=
    readEntry_eq_ok_iff.mp hread
  · rw [Child.nestings, Statement.lookup_eq_some_iff.mpr hname]
    cases negated with
    | false => exact hbranches _ _ _ _ hbranch
    | true => exact hbranches _ _ _ _ hbranch
  · rw [Child.nestings, hname]
    exact within_nil

/-- The levels in the body of a side. -/
theorem nestings_of_ofName? {child : Child} {part : Part} (h : Part.ofName? child.name = some part)
    (hbody : part ≠ .condition) :
    child.nestings level = nestingsBelow level child.path child.value := by
  rw [Child.nestings]
  cases part with
  | condition => exact absurd rfl hbody
  | thenBody => rw [Statement.lookup_eq_some_iff.mpr (Part.ofName?_eq_thenBody_iff.mp h)]
  | elseBody => rw [Statement.lookup_eq_some_iff.mpr (Part.ofName?_eq_elseBody_iff.mp h)]

/-- A branch nests as deep as the step that was read. -/
theorem within_of_readBranch {budget : Nat} {negated : Bool} {node : Value} {path : Locator}
    {branch : Branch T} (h : readBranch engine budget negated node path = .ok branch) :
    Within level branch.toStep.depth (nestingsAt level path node) := by
  induction budget generalizing negated node path branch level with
  | zero => exact absurd h readBranch_zero
  | succ budget ih =>
    obtain ⟨cs, hcs, hparts, -, hcondition, hthen, elseBody, helse, helses⟩ :=
      readBranch_eq_ok_iff.mp h
    have hbody : ∀ body node path step, readBody engine budget body node path = .ok step →
        Within (level + 1) (Step.depthBody step) (nestingsBelow (level + 1) path node) :=
      fun _ _ _ _ => within_of_readBody fun _ _ _ _ => ih
    rw [Branch.toStep, Step.depth]
    refine within_nestingsAt ?_
    rw [nestingsBelow_eq_flatMap hcs]
    refine within_flatMap fun child hchild => ?_
    -- Each child is the condition, the `then` or the `else`, and is bounded by the depth of that
    -- part.
    obtain ⟨part, hpart⟩ := Option.ne_none_iff_exists'.mp (hparts child hchild)
    have hamong : child ∈ part.among cs := List.mem_filter.mpr ⟨hchild, by simpa using hpart⟩
    cases part with
    | condition =>
      obtain ⟨condition, hmem, hread⟩ := exists_mem_of_forall₂ hcondition child hamong
      obtain rfl := List.mem_singleton.mp hmem
      exact (within_of_readMember (fun _ _ _ _ => within_of_readGroup) hread).mono
        (Nat.le_max_left ..)
    | thenBody =>
      obtain ⟨body, hmem, hread⟩ := exists_mem_of_forall₂ hthen child hamong
      obtain rfl := List.mem_singleton.mp hmem
      rw [nestings_of_ofName? hpart (by decide)]
      exact (hbody _ _ _ _ hread).mono (Nat.le_trans (Nat.le_max_left ..) (Nat.le_max_right ..))
    | elseBody =>
      obtain ⟨body, hmem, hread⟩ := exists_mem_of_forall₂ helses child hamong
      rw [Option.mem_toList] at hmem
      obtain rfl := hmem
      rw [nestings_of_ofName? hpart (by decide), helse, Option.join_some]
      exact (hbody _ _ _ _ hread).mono (Nat.le_trans (Nat.le_max_right ..) (Nat.le_max_right ..))

end Document

/-! ## Depth and statistics -/

mutual

/-- The depth that is counted for a condition is its depth. -/
theorem Condition.maxDepth_statistics {T : Type} :
    ∀ condition : Condition T, condition.statistics.maxDepth = condition.depth
  | .predicate _ => by rw [Condition.statistics, Condition.depth]
  | .group _ members => by
    rw [Condition.statistics, Condition.depth, ← Condition.maxDepth_statisticsAll members]
    show (Condition.statisticsAll members).maxDepth + 1 =
      1 + (Condition.statisticsAll members).maxDepth
    omega

theorem Condition.maxDepth_statisticsAll {T : Type} : ∀ members : List (Condition T),
    (Condition.statisticsAll members).maxDepth = Condition.depthMembers members
  | [] => by rw [Condition.statisticsAll, Condition.depthMembers]
  | member :: rest => by
    rw [Condition.statisticsAll, Condition.depthMembers, ← Condition.maxDepth_statistics member,
      ← Condition.maxDepth_statisticsAll rest]
    rfl

end

mutual

/-- The depth that is counted for a step is its depth. -/
theorem Step.maxDepth_statistics {T : Type} :
    ∀ step : Step T, step.statistics.maxDepth = step.depth
  | .consumer _ => by rw [Step.statistics, Step.depth]
  | .branch _ condition thenBody elseBody => by
    rw [Step.statistics, Step.depth, ← Condition.maxDepth_statistics condition,
      ← Step.maxDepth_statisticsBody thenBody, ← Step.maxDepth_statisticsBody elseBody,
      ← Nat.max_assoc]
    exact Nat.add_comm _ 1
  | .sequence steps => by rw [Step.statistics, Step.depth, Step.maxDepth_statisticsAll steps]

theorem Step.maxDepth_statisticsBody {T : Type} : ∀ body : Option (Step T),
    (Step.statisticsBody body).maxDepth = Step.depthBody body
  | none => by rw [Step.statisticsBody, Step.depthBody]
  | some step => by rw [Step.statisticsBody, Step.depthBody, Step.maxDepth_statistics step]

theorem Step.maxDepth_statisticsAll {T : Type} : ∀ steps : List (Step T),
    (Step.statisticsAll steps).maxDepth = Step.depthAll steps
  | [] => by rw [Step.statisticsAll, Step.depthAll]
  | step :: rest => by
    rw [Step.statisticsAll, Step.depthAll, ← Step.maxDepth_statistics step,
      ← Step.maxDepth_statisticsAll rest]
    rfl

end

/-- The depth among the counts of a flow is the depth of the graph. -/
theorem Flow.maxDepth_statistics {T : Type} (flow : Flow T) :
    flow.statistics.maxDepth = flow.depth :=
  Step.maxDepth_statisticsBody flow.root

/-! ## Documents -/

section Documents

variable {T : Type} {engine : Engine T} {document : Value} {flow : Flow T}

open Document (nestings limited)

/-- A document that was read is limited by its nestings. -/
theorem Engine.read_withMaxDepth_eq_limited (h : engine.read document = .ok flow) (limit : Nat) :
    (engine.withMaxDepth limit).read document = limited limit (nestings document) flow := by
  have hroot := Document.readBody_withMaxDepth (Engine.read_eq_ok_iff.mp h) (Nat.zero_add limit)
  exact (congrArg (fun read => do return Flow.mk (← read)) hroot).trans Document.limited_return

/-- No branch or group of a document is nested deeper than the flow that is read. -/
theorem Engine.within_of_read (h : engine.read document = .ok flow) :
    Document.Within 0 flow.depth (nestings document) :=
  Document.within_of_readBody (fun _ _ _ _ => Document.within_of_readBranch)
    (Engine.read_eq_ok_iff.mp h)

/-- **The limit on nesting is exact.** A document that was read is read again under another limit,
with the same flow, if the depth that the flow reports is within the limit. If not, it is too deep,
at the first branch or group of the document that is nested one level deeper than the
limit allows. -/
theorem Engine.read_withMaxDepth (h : engine.read document = .ok flow) (limit : Nat) :
    (flow.statistics.maxDepth ≤ limit →
      (engine.withMaxDepth limit).read document = .ok flow) ∧
    (limit < flow.statistics.maxDepth →
      ∃ n, (nestings document).find? (·.level = limit + 1) = some n ∧
        (engine.withMaxDepth limit).read document = .error ⟨.tooDeep limit, n.path⟩) := by
  rw [Flow.maxDepth_statistics]
  have hlimited := Engine.read_withMaxDepth_eq_limited h limit
  rw [limited] at hlimited
  cases hfind : (nestings document).find? (·.level = limit + 1) with
  | none =>
    rw [hfind] at hlimited
    refine ⟨fun _ => hlimited, fun hdeep => ?_⟩
    -- What is read under the limit is no deeper than the limit.
    have hshallow : flow.depth ≤ limit :=
      (Document.fitsBody_of_readBody (Engine.read_eq_ok_iff.mp hlimited)).1.shallow
    omega
  | some n =>
    rw [hfind] at hlimited
    refine ⟨fun hshallow => ?_, fun _ => ⟨n, rfl, hlimited⟩⟩
    have hlevel : n.level = limit + 1 := by simpa using List.find?_some hfind
    have hle : n.level ≤ 0 + flow.depth :=
      Engine.within_of_read h n (List.mem_of_find?_eq_some hfind)
    omega

end Documents

/-- A branch with a group in its condition and, one level deeper, a group in the branch of its
`then`. -/
def Document.unevenBranch : Value :=
  let always := Value.single "condition" (.single "type" (.text "always"))
  .array [
    .single "trim" (.single "field" (.text "name")),
    .single "if" (.array [
      .single "allOf" (.array [always]),
      .single "then" (.array [
        .single "ifNot"
          (.array [.single "anyOf" (.array [always]), .single "then" (.array [])])])])]

/-- Three levels are enough for it, and with two the deeper group is reported. -/
theorem Engine.read_withMaxDepth_unevenBranch :
    ∃ flow, Builtin.engine.read Document.unevenBranch = .ok flow ∧
      (Builtin.engine.withMaxDepth 3).read Document.unevenBranch = .ok flow ∧
      ∃ path : Locator, path.text = "$[1].if[1].then[0].ifNot[0].anyOf" ∧
        (Builtin.engine.withMaxDepth 2).read Document.unevenBranch =
          .error ⟨.tooDeep 2, path⟩ := by
  have hread : Builtin.engine.read Document.unevenBranch = .ok _ := rfl
  refine ⟨_, hread, (Engine.read_withMaxDepth hread 3).1 (by decide), ?_⟩
  obtain ⟨n, hfirst, hdeep⟩ := (Engine.read_withMaxDepth hread 2).2 (by decide)
  obtain rfl : _ = n := Option.some.inj hfirst
  exact ⟨_, by decide, hdeep⟩

end DecisionFlow
