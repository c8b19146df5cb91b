import DecisionFlow.Proofs.Document.Positions
import DecisionFlow.Proofs.Document.Reading

/-!
# Readings compared

A node is read by the same steps whatever the engine is. So what two readings of related nodes have
in common follows from what the registries make of a configuration and from how nodes list their
children: nothing else of a node is looked at, and its place only counts for the path of an error.

- `Agree`: results that are related in both readings. Where the first reading stops early, with one
  of certain errors, nothing is asked of the second.
- `Below`: children of related nodes.
- `Comparable`: engines by which related nodes are read, as far as registries and children go.
- `Comparable.agree_readGroup`, `Comparable.agree_readBranch`, `Comparable.agree_readBody`,
  `Comparable.agree_read`: related nodes are read alike by engines that can be compared.
-/

namespace DecisionFlow.Document

/-! ## Agreement -/

/-- Both readings succeed with related results, or both fail with related errors, or the first
stops. -/
inductive Agree {ε ε' α β : Type} (stop : ε → Prop) (E : ε → ε' → Prop)
    (R : α → β → Prop) : Except ε α → Except ε' β → Prop where
  | ok {a : α} {b : β} (related : R a b) : Agree stop E R (.ok a) (.ok b)
  | error {e : ε} {e' : ε'} (related : E e e') : Agree stop E R (.error e) (.error e')
  | stopped {e : ε} {y : Except ε' β} (stops : stop e) : Agree stop E R (.error e) y

namespace Agree

variable {ε ε' α α' β β' : Type} {stop : ε → Prop} {E E' : ε → ε' → Prop}
  {R : α → β → Prop} {S : α' → β' → Prop}

/-- Readings that agree agree up to a coarser likeness of errors. -/
theorem mono {x : Except ε α} {y : Except ε' β} (h : Agree stop E R x y)
    (hE : ∀ e e', E e e' → E' e e') : Agree stop E' R x y := by
  cases h with
  | ok hab => exact .ok hab
  | error he => exact .error (hE _ _ he)
  | stopped hstop => exact .stopped hstop

/-- Readings that agree can be continued by readings that agree. -/
theorem bind {x : Except ε α} {y : Except ε' β} {f : α → Except ε α'}
    {g : β → Except ε' β'} (h : Agree stop E R x y)
    (hfg : ∀ a b, R a b → Agree stop E S (f a) (g b)) :
    Agree stop E S (x >>= f) (y >>= g) := by
  cases h with
  | ok hab => exact hfg _ _ hab
  | error he => exact .error he
  | stopped hstop => exact .stopped hstop

theorem map {x : Except ε α} {y : Except ε' β} {f : α → α'} {g : β → β'}
    (h : Agree stop E R x y) (hfg : ∀ a b, R a b → S (f a) (g b)) :
    Agree stop E S (x.map f) (y.map g) := by
  cases h with
  | ok hab => exact .ok (hfg _ _ hab)
  | error he => exact .error he
  | stopped hstop => exact .stopped hstop

/-- Lists that are read alike, member by member, agree as a whole. -/
theorem mapM {f : α → Except ε α'} {g : β → Except ε' β'} {as : List α} {bs : List β}
    (h : List.Forall₂ (fun a b => Agree stop E S (f a) (g b)) as bs) :
    Agree stop E (List.Forall₂ S) (as.mapM f) (bs.mapM g) := by
  induction h with
  | nil => exact .ok .nil
  | cons hab _ ih =>
    rw [List.mapM_cons, List.mapM_cons]
    exact hab.bind fun _ _ hfirst => ih.bind fun _ _ hrest => .ok (.cons hfirst hrest)

theorem mapM_eq {f : α → Except ε α'} {g : β → Except ε' α'} {as : List α} {bs : List β}
    (h : List.Forall₂ (fun a b => Agree stop E Eq (f a) (g b)) as bs) :
    Agree stop E Eq (as.mapM f) (bs.mapM g) := by
  have hall := mapM h
  rwa [List.forall₂_eq_eq_eq] at hall

/-- Folds agree if their steps do. -/
theorem foldlM {f : α' → α → Except ε α'} {g : α' → β → Except ε' α'} {as : List α}
    {bs : List β} (h : List.Forall₂ (fun a b => ∀ s, Agree stop E Eq (f s a) (g s b)) as bs)
    (s : α') :
    Agree stop E Eq (as.foldlM f s) (bs.foldlM g s) := by
  induction h generalizing s with
  | nil => exact .ok rfl
  | cons hab _ ih =>
    rw [List.foldlM_cons, List.foldlM_cons]
    refine (hab s).bind fun next _ heq => ?_
    subst heq
    exact ih next

/-- Results that agree are passed on in the same way. -/
theorem map_eq {x : Except ε α} {y : Except ε' α} (h : Agree stop E Eq x y) (f : α → β) :
    Agree stop E Eq (do return f (← x)) (do return f (← y)) :=
  h.bind fun _ _ heq => .ok (congrArg f heq)

end Agree

/-! ## What is compared -/

/-- Errors with the same problem, at places that correspond. -/
structure Corresponds (places : Locator → Locator → Prop) (e e' : Error) : Prop where
  problem : e.problem = e'.problem
  place : places e.path e'.path

/-- Two readings in which the same is read, but for the places of errors. The first may stop. -/
abbrev Compared (stop : Error → Prop) (places : Locator → Locator → Prop) {α : Type}
    (x y : Except Error α) : Prop :=
  Agree stop (Corresponds places) Eq x y

/-- Fields of nodes at one position, with the same name and related values. A value without a
position is configuration, and has to be the same. -/
def Below (R : Position → Value → Value → Prop) (position : Position)
    (field field' : String × Value) : Prop :=
  field.1 = field'.1 ∧
    match position.below field.1 with
    | some inner => R inner field.2 field'.2
    | none => field.2 = field'.2

/-- Fields are like themselves, if values are. -/
theorem Below.refl {R : Position → Value → Value → Prop} (hR : ∀ inner v, R inner v v)
    (position : Position) (field : String × Value) : Below R position field field := by
  refine ⟨rfl, ?_⟩
  split
  · exact hR _ _
  · rfl

theorem Below.of_called {R : Position → Value → Value → Prop} {position inner : Position}
    {name : String} {v w : Value} (called : position.below name = some inner) (h : R inner v w) :
    Below R position (name, v) (name, w) := by
  refine ⟨rfl, ?_⟩
  dsimp only
  rwa [called]

/-- Children of related nodes, at places that correspond. -/
def BelowAt (places : Locator → Locator → Prop) (R : Position → Value → Value → Prop)
    (position : Position) (c c' : Child) : Prop :=
  Below R position c.field c'.field ∧ places c.path c'.path

variable {T : Type}

/-- Two engines by which related nodes are read at places that correspond: their registries make the
same of a configuration, and related nodes list related children, unless the first reading stops
there. -/
structure Comparable (stop : Error → Prop) (places : Locator → Locator → Prop)
    (R : Position → Value → Value → Prop) (engine engine' : Engine T) : Prop where
  discriminator : engine.settings.discriminator = engine'.settings.discriminator
  maxDepth : engine.settings.maxDepth = engine'.settings.maxDepth
  conditions : ∀ kind config path path', places path path' →
    Compared stop places (located path (engine.conditions.build kind config))
      (located path' (engine'.conditions.build kind config))
  consumers : ∀ kind config path path', places path path' →
    Compared stop places (located path (engine.consumers.build kind config))
      (located path' (engine'.consumers.build kind config))
  children : ∀ position v w path path', R position v w → places path path' →
    Agree stop (Corresponds places) (List.Forall₂ (BelowAt places R position))
      (children engine.settings v path) (children engine'.settings w path')

namespace Comparable

variable {engine engine' : Engine T} {stop : Error → Prop} {places : Locator → Locator → Prop}
  {R : Position → Value → Value → Prop} {position : Position} {path path' : Locator}

/-- The same problem at places that correspond. -/
theorem agree_fail {α : Type} (hpath : places path path') (problem : Problem) :
    Compared stop places (fail (α := α) path problem) (fail path' problem) :=
  .error ⟨rfl, hpath⟩

/-! ## Nodes from the registries -/

/-- Conditions are read alike. -/
theorem agree_readPredicate (h : Comparable stop places R engine engine')
    (hpath : places path path') (v : Value) :
    Compared stop places (readPredicate engine v path) (readPredicate engine' v path') := by
  cases v with
  | object fields =>
    rw [readPredicate, readPredicate, ← h.discriminator]
    split
    · exact agree_fail hpath _
    · exact h.conditions _ _ _ _ hpath
  | _ => exact agree_fail hpath _

/-- Consumers are read alike. -/
theorem agree_readConsumer (h : Comparable stop places R engine engine') (hpath : places path path')
    (kind : String) (v : Value) :
    Compared stop places (readConsumer engine kind v path) (readConsumer engine' kind v path') := by
  cases v with
  | null => exact h.consumers _ _ _ _ hpath
  | object fields => exact h.consumers _ _ _ _ hpath
  | _ => exact agree_fail hpath _

/-! ## Conditions -/

/-- Readers of groups by which related groups are read alike. -/
def AgreeGroups (stop : Error → Prop) (places : Locator → Locator → Prop)
    (R : Position → Value → Value → Prop)
    (groups groups' : Bool → Value → Locator → Except Error (Condition T)) : Prop :=
  ∀ any v w path path', R .group v w → places path path' →
    Compared stop places (groups any v path) (groups' any w path')

variable {groups groups' : Bool → Value → Locator → Except Error (Condition T)}

/-- Members are read alike, if groups are. -/
theorem agree_readMember (h : Comparable stop places R engine engine')
    (hgroups : AgreeGroups stop places R groups groups') (hposition : position ≠ .body)
    {any : Bool} {c c' : Child} (hc : BelowAt places R position c c') :
    Compared stop places (readMember engine groups any c) (readMember engine' groups' any c') := by
  obtain ⟨name, v, path⟩ := c
  obtain ⟨name', w, path'⟩ := c'
  obtain ⟨⟨rfl, hvalue⟩, hpath⟩ : (name = name' ∧ _) ∧ places path path' := hc
  dsimp only [Child.field] at hvalue
  rw [readMember, readMember]
  cases hword : Statement.lookup name with
  | none => exact agree_fail hpath _
  | some statement =>
    rw [Position.below_eq hword] at hvalue
    cases statement with
    | condition =>
      have hbelow : position.ofStatement? .condition = none := by cases position <;> rfl
      rw [hbelow] at hvalue
      obtain rfl : v = w := hvalue
      exact (h.agree_readPredicate hpath v).map_eq _
    | allOf | anyOf =>
      cases position with
      | body => exact absurd rfl hposition
      | branch | group => exact hgroups _ _ _ _ _ hvalue hpath
    | _ => exact agree_fail hpath _

/-- **Related groups are read alike.** -/
theorem agree_readGroup (h : Comparable stop places R engine engine') (budget : Nat) :
    AgreeGroups stop places R (readGroup engine budget) (readGroup engine' budget) := by
  induction budget with
  | zero =>
    intro any v w path path' _ hpath
    rw [readGroup, readGroup, h.maxDepth]
    exact agree_fail hpath _
  | succ budget ih =>
    intro any v w path path' hR hpath
    rw [readGroup, readGroup]
    refine (h.children _ _ _ _ _ hR hpath).bind fun cs cs' hcs => ?_
    refine Agree.map_eq (Agree.mapM_eq (hcs.imp fun c c' hc => ?_)) _
    exact h.agree_readMember ih Position.noConfusion hc

/-! ## Branches and bodies -/

/-- Readers of bodies by which related bodies are read alike. -/
def AgreeBodies (stop : Error → Prop) (places : Locator → Locator → Prop)
    (R : Position → Value → Value → Prop)
    (bodies bodies' : Body → Value → Locator → Except Error (Option (Step T))) : Prop :=
  ∀ body v w path path', R .body v w → places path path' →
    Compared stop places (bodies body v path) (bodies' body w path')

/-- Readers of branches by which related branches are read alike. -/
def AgreeBranches (stop : Error → Prop) (places : Locator → Locator → Prop)
    (R : Position → Value → Value → Prop)
    (branches branches' : Bool → Value → Locator → Except Error (Branch T)) : Prop :=
  ∀ negated v w path path', R .branch v w → places path path' →
    Compared stop places (branches negated v path) (branches' negated w path')

variable {bodies bodies' : Body → Value → Locator → Except Error (Option (Step T))}
  {branches branches' : Bool → Value → Locator → Except Error (Branch T)}

/-- A part that may be given once. -/
theorem agree_once {α β γ : Type} {part : Option α} {problem : Problem} {x y : Except Error β}
    {put : β → γ} (hpath : places path path') (h : Compared stop places x y) :
    Compared stop places
      (if part.isSome then fail path problem else do return put (← x))
      (if part.isSome then fail path' problem else do return put (← y)) := by
  cases part with
  | some a => exact agree_fail hpath _
  | none => exact h.map_eq put

theorem agree_readPart (h : Comparable stop places R engine engine')
    (hgroups : AgreeGroups stop places R groups groups')
    (hbodies : AgreeBodies stop places R bodies bodies') {negated : Bool} {parts : BranchParts T}
    {c c' : Child} (hc : BelowAt places R .branch c c') :
    Compared stop places
      (readPart engine groups bodies (Branch.statementOf negated) parts c)
      (readPart engine' groups' bodies' (Branch.statementOf negated) parts c') := by
  have hmember : Compared stop places (readMember engine groups false c)
      (readMember engine' groups' false c') :=
    h.agree_readMember hgroups Position.noConfusion hc
  obtain ⟨name, v, path⟩ := c
  obtain ⟨name', w, path'⟩ := c'
  obtain ⟨⟨rfl, hvalue⟩, hpath⟩ : (name = name' ∧ _) ∧ places path path' := hc
  dsimp only [Child.field] at hvalue
  rw [readPart, readPart, Branch.permitted_statementOf]
  cases hword : Statement.lookup name with
  | none => exact agree_fail hpath _
  | some statement =>
    rw [Position.below_eq hword] at hvalue
    cases statement with
    | ifHolds | ifNot => exact agree_fail hpath _
    | thenBody | elseBody => exact agree_once hpath (hbodies _ _ _ _ _ hvalue hpath)
    | condition | allOf | anyOf =>
      rw [readMember_of_lookup hword rfl, readMember_of_lookup hword rfl] at hmember
      exact agree_once hpath hmember

theorem agree_finishBranch {negated : Bool} (hpath : places path path') (parts : BranchParts T) :
    Compared stop places (finishBranch negated parts path) (finishBranch negated parts path') := by
  obtain ⟨condition, thenBody, elseBody⟩ := parts
  cases condition with
  | none => exact agree_fail hpath _
  | some condition =>
    cases thenBody with
    | none => exact agree_fail hpath _
    | some thenBody => exact .ok rfl

/-- Entries are read alike, if branches are. -/
theorem agree_readEntry (h : Comparable stop places R engine engine')
    (hbranches : AgreeBranches stop places R branches branches') {body : Body} {c c' : Child}
    (hc : BelowAt places R .body c c') :
    Compared stop places (readEntry engine branches body c)
      (readEntry engine' branches' body c') := by
  obtain ⟨name, v, path⟩ := c
  obtain ⟨name', w, path'⟩ := c'
  obtain ⟨⟨rfl, hvalue⟩, hpath⟩ : (name = name' ∧ _) ∧ places path path' := hc
  dsimp only [Child.field] at hvalue
  rw [readEntry, readEntry]
  cases hword : Statement.lookup name with
  | none =>
    rw [Position.below, hword] at hvalue
    obtain rfl : v = w := hvalue
    exact (h.agree_readConsumer hpath name v).map_eq _
  | some statement =>
    rw [Position.below_eq hword] at hvalue
    cases statement with
    | ifHolds | ifNot => exact (hbranches _ _ _ _ _ hvalue hpath).map_eq _
    | _ => exact agree_fail hpath _

/-- Bodies are read alike, if branches are. -/
theorem agree_readBodyWith (h : Comparable stop places R engine engine')
    (hbranches : AgreeBranches stop places R branches branches') :
    AgreeBodies stop places R (readBodyWith engine branches) (readBodyWith engine' branches') := by
  intro body v w path path' hR hpath
  rw [readBodyWith, readBodyWith]
  refine (h.children _ _ _ _ _ hR hpath).bind fun cs cs' hcs => ?_
  refine Agree.map_eq (Agree.mapM_eq (hcs.imp fun c c' hc => ?_)) _
  exact h.agree_readEntry hbranches hc

/-- **Related branches are read alike.** -/
theorem agree_readBranch (h : Comparable stop places R engine engine') (budget : Nat) :
    AgreeBranches stop places R (readBranch engine budget) (readBranch engine' budget) := by
  induction budget with
  | zero =>
    intro negated v w path path' _ hpath
    rw [readBranch, readBranch, h.maxDepth]
    exact agree_fail hpath _
  | succ budget ih =>
    intro negated v w path path' hR hpath
    rw [readBranch, readBranch]
    refine (h.children _ _ _ _ _ hR hpath).bind fun cs cs' hcs => ?_
    refine Agree.bind (Agree.foldlM (hcs.imp fun c c' hc parts => ?_) _) ?_
    · exact h.agree_readPart (h.agree_readGroup budget) (h.agree_readBodyWith ih) hc
    · rintro parts _ rfl
      exact agree_finishBranch hpath parts

/-- **Related bodies are read alike.** -/
theorem agree_readBody (h : Comparable stop places R engine engine') (budget : Nat) :
    AgreeBodies stop places R (readBody engine budget) (readBody engine' budget) :=
  h.agree_readBodyWith (h.agree_readBranch budget)

/-- **Related documents are read alike**, if roots correspond. -/
theorem agree_read (h : Comparable stop places R engine engine') (hroot : places [] [])
    {v w : Value} (hR : R .body v w) : Compared stop places (engine.read v) (engine'.read w) := by
  rw [Engine.read, Engine.read, ← h.maxDepth]
  exact (h.agree_readBody engine.settings.maxDepth .root v w [] [] hR hroot).map_eq Flow.mk

end Comparable

end DecisionFlow.Document
