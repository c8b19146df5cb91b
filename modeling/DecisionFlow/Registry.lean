import DecisionFlow.Config.Decoder
import DecisionFlow.Node

/-!
# Registries

A registry maps the kinds of one family of nodes to factories. A factory builds a behaviour from a
configuration or rejects the configuration.

- `Factory` and its builders: `Factory.decoded`, `Factory.adapted`.
- `Registry`: the factories by kind; the kinds ascend, so none repeats.
- `Registry.registerInPlace`, `Registry.register`: adds a factory; a kind can be registered once.
- `Registry.build`: builds the node of a kind.
-/

namespace DecisionFlow

/-- The two sorts of nodes that come from outside the grammar. -/
inductive Family where
  | condition
  | consumer
deriving DecidableEq, Repr

/-- The word for a family. -/
def Family.name : Family → String
  | .condition => "condition"
  | .consumer => "consumer"

/-- Builds a behaviour from a configuration. -/
abbrev Factory (B : Type) := Fields → Except Config.Problem B

namespace Factory

variable {A B : Type}

/-- Decodes the configuration and makes a behaviour of the result. -/
def decoded (decoder : Config.Decoder A) (behave : A → B) : Factory B := fun config =>
  (decoder.decode config).map behave

/-- Decodes the configuration and hands the result to an adapter, which may reject it. -/
def adapted (decoder : Config.Decoder A) (attach : A → Except Config.Problem B) : Factory B :=
  fun config => (decoder.decode config).bind attach

end Factory

namespace Registry

variable {B : Type} {entries : List (String × Factory B)} {kind : String} {factory : Factory B}

/-! ## Entries by kind -/

/-- Entries whose kinds ascend strictly. -/
def Ascending (entries : List (String × Factory B)) : Prop := entries.Pairwise fun a b => a.1 < b.1

/-- Puts an entry before the first greater kind. -/
def insertSorted (kind : String) (factory : Factory B) :
    List (String × Factory B) → List (String × Factory B)
  | [] => [(kind, factory)]
  | (other, known) :: rest =>
    if kind < other then (kind, factory) :: (other, known) :: rest
    else (other, known) :: insertSorted kind factory rest

/-- Among the entries after an insertion, there is nothing but the new one and the old ones. -/
theorem mem_insertSorted {entry : String × Factory B}
    (h : entry ∈ insertSorted kind factory entries) :
    entry = (kind, factory) ∨ entry ∈ entries := by
  induction entries with
  | nil => exact .inl (List.mem_singleton.mp h)
  | cons first rest ih =>
    obtain ⟨other, known⟩ := first
    rw [insertSorted] at h
    split at h
    · exact List.mem_cons.mp h
    · obtain rfl | h := List.mem_cons.mp h
      · exact .inr List.mem_cons_self
      · exact (ih h).imp_right (List.mem_cons_of_mem _)

/-- Nothing is found under kinds of which there is no entry, and only there. -/
theorem lookup_eq_none_iff_not_mem :
    entries.lookup kind = none ↔ kind ∉ entries.map (·.1) := by
  rw [List.lookup_eq_none_iff, List.mem_map]
  constructor
  · rintro h ⟨entry, hentry, rfl⟩
    exact bne_iff_ne.mp (h entry hentry) rfl
  · intro h entry hentry
    refine bne_iff_ne.mpr ?_
    rintro rfl
    exact h ⟨entry, hentry, rfl⟩

/-- Entries stay in order when one of another kind is inserted. -/
theorem ascending_insertSorted (hfree : entries.lookup kind = none) (h : Ascending entries) :
    Ascending (insertSorted kind factory entries) := by
  induction entries with
  | nil => exact List.pairwise_singleton ..
  | cons entry rest ih =>
    obtain ⟨key, known⟩ := entry
    obtain ⟨hfirst, hrest⟩ := List.pairwise_cons.mp h
    rw [lookup_eq_none_iff_not_mem, List.map_cons, List.mem_cons, not_or] at hfree
    obtain ⟨hne, hfree⟩ := hfree
    rw [insertSorted]
    by_cases hlt : kind < key
    · rw [if_pos hlt]
      refine List.pairwise_cons.mpr ⟨?_, h⟩
      intro later hlater
      obtain rfl | hlater := List.mem_cons.mp hlater
      · exact hlt
      · exact String.lt_trans hlt (hfirst later hlater)
    · rw [if_neg hlt]
      refine List.pairwise_cons.mpr ⟨?_, ih (lookup_eq_none_iff_not_mem.mpr hfree) hrest⟩
      have hgt : key < kind := by
        by_cases hle : key < kind
        · exact hle
        · exact absurd (String.le_antisymm (String.not_lt.mp hle) (String.not_lt.mp hlt)) hne
      intro later hlater
      obtain rfl | hlater := mem_insertSorted hlater
      · exact hgt
      · exact hfirst later hlater

end Registry

/-- The factories of one family by kind. -/
structure Registry (B : Type) where
  family : Family
  /-- Kinds with their factories. -/
  factories : List (String × Factory B)
  /-- The kinds ascend strictly, so none of them repeats. -/
  ascending : Registry.Ascending factories

/-- Why a registry did not build a node. -/
inductive BuildProblem where
  /-- Nobody registered the kind. -/
  | unknownKind (family : Family) (kind : String)
  /-- The factory rejected the configuration. -/
  | invalidConfig (family : Family) (kind : String) (cause : Config.Problem)

/-- A kind that is registered already. -/
structure DuplicateKind where
  family : Family
  kind : String
deriving DecidableEq, Repr

/-- The text for a kind that is registered already. -/
def DuplicateKind.message (d : DuplicateKind) : String :=
  d.family.name ++ " type '" ++ d.kind ++ "' is already registered"

namespace Registry

variable {B : Type}

/-! ## Registering and building -/

/-- The registry without kinds. -/
def empty (family : Family) : Registry B := ⟨family, [], .nil⟩

/-- The registered kinds, ascending. -/
def kinds (r : Registry B) : List String := r.factories.map (·.1)

/-- How many kinds are registered. -/
def size (r : Registry B) : Nat := r.factories.length

/-- Whether no kind is registered. -/
def isEmpty (r : Registry B) : Bool := r.factories.isEmpty

/-- The factory of a kind. -/
def factory? (r : Registry B) (kind : String) : Option (Factory B) := r.factories.lookup kind

/-- Whether a kind is registered. -/
def contains (r : Registry B) (kind : String) : Bool := (r.factory? kind).isSome

/-- The registry with a factory under a kind that is free. -/
def insert (r : Registry B) (kind : String) (factory : Factory B) (hfree : r.factory? kind = none) :
    Registry B where
  family := r.family
  factories := insertSorted kind factory r.factories
  ascending := ascending_insertSorted hfree r.ascending

/-- Registers a factory under a kind, and tells what the registry is then. Nothing is put into it
before the kind is known to be free. -/
def registerInPlace (r : Registry B) (kind : String) (factory : Factory B) :
    EStateM.Result DuplicateKind (Registry B) Unit :=
  if h : r.contains kind then .error ⟨r.family, kind⟩ r
  else .ok () (r.insert kind factory (Option.not_isSome_iff_eq_none.mp h))

/-- The registry with a factory under a kind, unless that is registered already. -/
def register (r : Registry B) (kind : String) (factory : Factory B) :
    Except DuplicateKind (Registry B) :=
  match r.registerInPlace kind factory with
  | .ok _ after => .ok after
  | .error problem _ => .error problem

/-- The registry after an attempt to register a factory, whether that succeeds or not. -/
def registered (r : Registry B) (kind : String) (factory : Factory B) : Registry B :=
  match r.registerInPlace kind factory with
  | .ok _ after => after
  | .error _ after => after

/-- Registers several factories, up to the first whose kind is registered already. -/
def registerAll (r : Registry B) (entries : List (String × Factory B)) :
    Except DuplicateKind (Registry B) :=
  entries.foldlM (fun r (kind, factory) => r.register kind factory) r

/-- The registry after attempts to register these factories, one after the other. -/
def registeredAll (r : Registry B) (entries : List (String × Factory B)) : Registry B :=
  entries.foldl (fun r (kind, factory) => r.registered kind factory) r

/-- The registry of these factories; of several with one kind, the first counts. -/
def ofList (family : Family) (entries : List (String × Factory B)) : Registry B :=
  (empty family).registeredAll entries

/-- Builds the node of a kind from its configuration. -/
def build (r : Registry B) (kind : String) (config : Fields) : Except BuildProblem (Node B) :=
  match r.factory? kind with
  | none => .error (.unknownKind r.family kind)
  | some factory =>
    match factory config with
    | .error cause => .error (.invalidConfig r.family kind cause)
    | .ok behaviour => .ok ⟨kind, config, behaviour⟩

end Registry

end DecisionFlow
