import DecisionFlow.Builtin
import DecisionFlow.Proofs.Document.Comparing
import DecisionFlow.Proofs.Document.Fitting
import DecisionFlow.Proofs.Registry.Registering

/-!
# Registering more kinds

A kind can be registered once, so what is registered later never takes the place of a factory.
Documents that were read stay as they were read, and problems stay as they were found, unless a kind
was missing.

- `Registry.Extends`: a registry that has all factories of another.
- `Registry.extends_of_registerAll`: registering kinds extends a registry.
- `Registry.Shares`: a node that both registries build with one factory.
- `Engine.read_registerAll`: a document, read before and after kinds were registered.
-/

namespace DecisionFlow

/-! ## Registries -/

namespace Registry

variable {B : Type} {r r' : Registry B}

/-- A registry of the same family that has every factory of another, under its kind. -/
structure Extends (r r' : Registry B) : Prop where
  family : r'.family = r.family
  factory : ∀ kind factory, r.factory? kind = some factory → r'.factory? kind = some factory

/-- **Registering kinds extends a registry.** -/
theorem extends_of_registerAll {entries : List (String × Factory B)}
    (h : r.registerAll entries = .ok r') : r.Extends r' := by
  rw [registeredAll_of_registerAll h]
  refine ⟨family_registeredAll r entries, fun kind factory hknown => ?_⟩
  rw [factory?_registeredAll, hknown, Option.some_or]

/-- A node that two registries build in the same way: with the factory that both have under its
kind. -/
def Shares (r r' : Registry B) (node : Node B) : Prop :=
  ∃ factory, r.factory? node.kind = some factory ∧ r'.factory? node.kind = some factory ∧
    factory node.config = .ok node.behaviour

theorem Extends.shares (h : r.Extends r') {node : Node B}
    (hbuild : r.build node.kind node.config = .ok node) : r.Shares r' node := by
  obtain ⟨factory, hfactory, behaviour, hbuilt, hnode⟩ := build_eq_ok_iff.mp hbuild
  have hbehaviour : node.behaviour = behaviour := congrArg Node.behaviour hnode
  exact ⟨factory, hfactory, h.factory _ _ hfactory, by rw [hbehaviour, hbuilt]⟩

end Registry

/-! ## Documents -/

namespace Document

/-- An error for a kind that nobody registered. -/
def Error.UnknownKind (e : Error) : Prop :=
  ∃ family kind, e.problem = .build (.unknownKind family kind)

/-- A registry that extends another makes the same of a configuration, if the kind was known. -/
theorem agree_build {B : Type} {r r' : Registry B} (h : r.Extends r') (kind : String)
    (config : Fields) (path : Locator) :
    Compared Error.UnknownKind Eq (located path (r.build kind config))
      (located path (r'.build kind config)) := by
  rw [Registry.build, Registry.build]
  cases hfactory : r.factory? kind with
  | none => exact .stopped ⟨_, _, rfl⟩
  | some factory =>
    rw [h.factory kind factory hfactory, h.family]
    dsimp only
    cases factory config with
    | error cause => exact .error ⟨rfl, rfl⟩
    | ok behaviour => exact .ok rfl

/-- Readings that are compared at the same places: what is read first is read again. -/
theorem Compared.eq_ok {stop : Error → Prop} {α : Type} {a : α} {y : Except Error α}
    (h : Compared stop Eq (.ok a) y) : y = .ok a := by
  cases h with
  | ok hsame => rw [hsame]

/-- An error at which the first reading may not stop is found again. -/
theorem Compared.eq_error {stop : Error → Prop} {α : Type} {e : Error} {y : Except Error α}
    (h : Compared stop Eq (.error e) y) (hstop : ¬ stop e) : y = .error e := by
  cases h with
  | @error _ e' hsame =>
    obtain ⟨problem, path⟩ := e
    obtain ⟨problem', path'⟩ := e'
    obtain ⟨rfl, rfl⟩ := hsame
    rfl
  | stopped hstops => exact absurd hstops hstop

variable {T : Type} {engine engine' : Engine T}

theorem comparable_of_extends (hconditions : engine.conditions.Extends engine'.conditions)
    (hconsumers : engine.consumers.Extends engine'.consumers)
    (hsettings : engine.settings = engine'.settings) :
    Comparable Error.UnknownKind Eq (fun _ => Eq) engine engine' where
  discriminator := by rw [hsettings]
  maxDepth := by rw [hsettings]
  conditions kind config path _ hpath := hpath ▸ agree_build hconditions kind config path
  consumers kind config path _ hpath := hpath ▸ agree_build hconsumers kind config path
  children position v w path path' hnode hpath := by
    subst hnode hpath
    rw [hsettings]
    cases children engine'.settings v path with
    | error e => exact .error ⟨rfl, rfl⟩
    | ok cs => exact .ok (List.forall₂_same.mpr fun c _ => ⟨.refl (fun _ _ => rfl) _ _, rfl⟩)

end Document

variable {T : Type} {engine : Engine T} {document : Value}

/-- **Registering more kinds is conservative.** A document that was read is read as the same flow,
each node of which is built with the factory that was there before. A document that was refused is
refused with the same problem at the same place, unless that was a kind that nobody
had registered. -/
theorem Engine.read_registerAll {conditions : Registry (Predicate T)}
    {consumers : Registry (Consumer T)} {moreConditions : List (String × Factory (Predicate T))}
    {moreConsumers : List (String × Factory (Consumer T))}
    (hconditions : engine.conditions.registerAll moreConditions = .ok conditions)
    (hconsumers : engine.consumers.registerAll moreConsumers = .ok consumers) (document : Value) :
    (∀ flow, engine.read document = .ok flow →
      Engine.read ⟨conditions, consumers, engine.settings⟩ document = .ok flow ∧
      (∀ node ∈ flow.predicates, engine.conditions.Shares conditions node) ∧
      ∀ node ∈ flow.consumers, engine.consumers.Shares consumers node) ∧
    (∀ e, engine.read document = .error e →
      (∀ family kind, e.problem ≠ .build (.unknownKind family kind)) →
        Engine.read ⟨conditions, consumers, engine.settings⟩ document = .error e) := by
  have hpredicates := Registry.extends_of_registerAll hconditions
  have hchanges := Registry.extends_of_registerAll hconsumers
  have hcomparable : Document.Comparable Document.Error.UnknownKind Eq (fun _ => Eq) engine
      ⟨conditions, consumers, engine.settings⟩ :=
    Document.comparable_of_extends hpredicates hchanges rfl
  have hagree := hcomparable.agree_read rfl (rfl : document = document)
  constructor
  · intro flow hread
    have hfits := (Document.fitsBody_of_readBody (Engine.read_eq_ok_iff.mp hread)).1
    rw [hread] at hagree
    exact ⟨hagree.eq_ok, fun node hnode => hpredicates.shares (hfits.predicate node hnode).1,
      fun node hnode => hchanges.shares (hfits.consumer node hnode).1⟩
  · intro e hread hknown
    rw [hread] at hagree
    refine hagree.eq_error ?_
    rintro ⟨family, kind, hproblem⟩
    exact hknown family kind hproblem

/-- A branch with a `then`, and a `then` that stands in a body. -/
def Document.thenInBranch : Value :=
  .single "if"
    (.array [.single "condition" (.single "type" (.text "always")), .single "then" .null])

def Document.thenInBody : Value := .single "then" .null

/-- Even a consumer that is registered as `then` is no consumer of a document. -/
theorem Engine.read_registerAll_then :
    ∃ conditions consumers flow e,
      Builtin.engine.conditions.registerAll [("if", fun _ => .ok fun _ => .ok true)] =
        .ok conditions ∧
      Builtin.engine.consumers.registerAll [("then", fun _ => .ok Consumer.skip)] =
        .ok consumers ∧
      conditions.contains "if" = true ∧ consumers.contains "then" = true ∧
      Builtin.engine.read Document.thenInBranch = .ok flow ∧
      Engine.read ⟨conditions, consumers, {}⟩ Document.thenInBranch = .ok flow ∧
      Builtin.engine.read Document.thenInBody = .error e ∧
      Engine.read ⟨conditions, consumers, {}⟩ Document.thenInBody = .error e := by
  have hconditions :
      Builtin.engine.conditions.registerAll [("if", fun _ => .ok fun _ => .ok true)] = .ok _ := rfl
  have hconsumers :
      Builtin.engine.consumers.registerAll [("then", fun _ => .ok Consumer.skip)] = .ok _ := rfl
  have hif := Registry.factory?_of_mem_of_registerAll hconditions List.mem_cons_self
  have hskip := Registry.factory?_of_mem_of_registerAll hconsumers List.mem_cons_self
  have hread : Builtin.engine.read Document.thenInBranch = .ok _ := rfl
  have hrefused : Builtin.engine.read Document.thenInBody = .error _ := rfl
  have hthen := (Engine.read_registerAll hconditions hconsumers Document.thenInBranch).1 _ hread
  have hstray := (Engine.read_registerAll hconditions hconsumers Document.thenInBody).2 _ hrefused
  exact ⟨_, _, _, _, hconditions, hconsumers, Option.isSome_of_eq_some hif,
    Option.isSome_of_eq_some hskip, hread, hthen.1, hrefused, hstray (by nofun)⟩

end DecisionFlow
