import DecisionFlow.Proofs.Document.Failing
import DecisionFlow.Proofs.Registry.Registering
import Mathlib.Data.List.Dedup

/-!
# Histories of registries

A registry can be registered in, cloned and built from, in any order. Whatever happens to a family
of registries, each of them is told by the registrations that were attempted on it and on those it
is a clone of.

- `Registry.Reflects`: what registering, listing and building tell of the attempts.
- `Registry.reflects_ofList`: the registry of a list reflects it.
- `Registry.registeredAll_perm`: the order of distinct kinds does not matter.
- `Call`, `Call.registries`, `Call.attempts`: calls on a family of registries, with the registries
  and the attempts after them.
- `Call.registries_eq_map`: after any calls, the registries are those of the attempts.
- `Call.registries_reflect_attempts`: **every registry reflects the attempts on it, and those
  alone.**
-/

namespace DecisionFlow

variable {B : Type}

namespace Registry

variable {r : Registry B} {kind : String} {entries entries' : List (String × Factory B)}

/-! ## What a registry tells -/

/-- What a registry of a family tells of the registrations that were attempted on it. -/
structure Reflects (family : Family) (attempts : List (String × Factory B)) (r : Registry B) :
    Prop where
  /-- A kind can be registered if it was not yet, and it then has this factory. -/
  accepts : ∀ kind factory, kind ∉ attempts.map (·.1) →
    ∃ r', r.registerInPlace kind factory = .ok () r' ∧ r'.factory? kind = some factory
  /-- A kind that was registered is refused, and the registry stays as it was. -/
  refuses : ∀ kind factory, kind ∈ attempts.map (·.1) →
    r.registerInPlace kind factory = .error ⟨family, kind⟩ r
  /-- The kinds ascend strictly. -/
  kinds_ascend : r.kinds.Pairwise (· < ·)
  mem_kinds : ∀ kind, kind ∈ r.kinds ↔ kind ∈ attempts.map (·.1)
  /-- The size is the number of different kinds. -/
  size : r.size = (attempts.map (·.1)).dedup.length
  /-- A node is built by the factory that was the first of its kind, and keeps its configuration. -/
  builds : ∀ kind config node, r.build kind config = .ok node ↔
    node.kind = kind ∧ node.config = config ∧
      ∃ factory, attempts.lookup kind = some factory ∧ factory config = .ok node.behaviour
  /-- No node is built if there is no such factory or if it rejects the configuration. -/
  fails : ∀ kind config problem, r.build kind config = .error problem ↔
    (attempts.lookup kind = none ∧ problem = .unknownKind family kind) ∨
      ∃ factory cause, attempts.lookup kind = some factory ∧ factory config = .error cause ∧
        problem = .invalidConfig family kind cause

theorem build_eq_error_iff {config : Fields} {problem : BuildProblem} :
    r.build kind config = .error problem ↔
      (r.factory? kind = none ∧ problem = .unknownKind r.family kind) ∨
        ∃ factory cause, r.factory? kind = some factory ∧ factory config = .error cause ∧
          problem = .invalidConfig r.family kind cause := by
  constructor
  · intro h
    cases refuses_of_build h with
    | unknown hunknown => exact .inl ⟨hunknown, rfl⟩
    | rejected hknown hrejects => exact .inr ⟨_, _, hknown, hrejects, rfl⟩
  · rintro (⟨hunknown, rfl⟩ | ⟨factory, cause, hknown, hrejects, rfl⟩)
    · rw [build, hunknown]
    · rw [build, hknown]
      dsimp only
      rw [hrejects]

/-- **The registry of a list of attempts reflects them.** -/
theorem reflects_ofList (family : Family) (entries : List (String × Factory B)) :
    Reflects family entries (ofList family entries) := by
  have hfamily : (ofList family entries).family = family :=
    family_registeredAll (empty family) entries
  have hfree : ∀ kind,
      (ofList family entries).factory? kind = none ↔ kind ∉ entries.map (·.1) := by
    intro kind
    rw [factory?_ofList, lookup_eq_none_iff_not_mem]
  have hmem : ∀ kind, kind ∈ (ofList family entries).kinds ↔ kind ∈ entries.map (·.1) := by
    intro kind
    rw [← not_iff_not, ← hfree]
    exact lookup_eq_none_iff_not_mem.symm
  have hnodup : (ofList family entries).kinds.Nodup := (ofList family entries).ascending.nodup_kinds
  refine ⟨fun kind factory hnew => ?_, fun kind factory hold => ?_, ?_, hmem, ?_,
    fun kind config node => ?_, fun kind config problem => ?_⟩
  · have hnone := (hfree kind).mpr hnew
    exact ⟨_, registerInPlace_of_free hnone factory, factory?_insert_self hnone factory⟩
  · have hsome : (ofList family entries).factory? kind ≠ none :=
      fun hnone => (hfree kind).mp hnone hold
    have hattempt := registerInPlace_of_taken hsome factory
    rw [hfamily] at hattempt
    exact hattempt
  · exact List.pairwise_map.mpr (ofList family entries).ascending
  · have hperm : (ofList family entries).kinds.Perm (entries.map (·.1)).dedup :=
      (List.perm_ext_iff_of_nodup hnodup (List.nodup_dedup _)).mpr fun kind =>
        (hmem kind).trans List.mem_dedup.symm
    rw [← hperm.length_eq, kinds, List.length_map, size]
  · rw [build_eq_ok_iff, factory?_ofList]
    constructor
    · rintro ⟨factory, hfactory, behaviour, hbuilt, rfl⟩
      exact ⟨rfl, rfl, factory, hfactory, hbuilt⟩
    · rintro ⟨rfl, rfl, factory, hfactory, hbuilt⟩
      exact ⟨factory, hfactory, node.behaviour, hbuilt, rfl⟩
  · rw [build_eq_error_iff, factory?_ofList, hfamily]

/-! ## The order of registrations -/

/-- The order of entries with distinct kinds does not matter to what is found among them. -/
theorem lookup_eq_of_perm (hperm : entries.Perm entries') (h : (entries.map (·.1)).Nodup)
    (kind : String) : entries.lookup kind = entries'.lookup kind := by
  have h' : (entries'.map (·.1)).Nodup := (hperm.map _).nodup_iff.mp h
  refine Option.ext fun factory => ?_
  rw [lookup_eq_some_iff_mem h, lookup_eq_some_iff_mem h', hperm.mem_iff]

/-- So it does not matter to the registry either. -/
theorem registeredAll_perm (r : Registry B) (hperm : entries.Perm entries')
    (h : (entries.map (·.1)).Nodup) : r.registeredAll entries = r.registeredAll entries' := by
  refine eq_of_factory? ?_ fun kind => ?_
  · rw [family_registeredAll, family_registeredAll]
  · rw [factory?_registeredAll, factory?_registeredAll, lookup_eq_of_perm hperm h]

end Registry

/-! ## Calls -/

/-- A call on one of a family of registries, which is told by its place. -/
inductive Call (B : Type) where
  | register (target : Nat) (kind : String) (factory : Factory B)
  /-- The clone gets the next free place. -/
  | clone (target : Nat)
  | build (target : Nat) (kind : String) (config : Fields)

namespace Call

/-- What a call does to the members of a family, if `put` is what an attempt to register does to
one. -/
def perform {S : Type} (put : S → String → Factory B → S) : Call B → List S → List S
  | .register target kind factory, all => all.modify target (put · kind factory)
  | .clone target, all => all ++ all[target]?.toList
  | .build .., all => all

/-- What calls do to the members of a family, one after the other. -/
def performAll {S : Type} (put : S → String → Factory B → S) (calls : List (Call B))
    (all : List S) : List S :=
  calls.foldl (fun all call => call.perform put all) all

/-- The registries after calls on a family that began with one empty registry. -/
def registries (family : Family) (calls : List (Call B)) : List (Registry B) :=
  performAll Registry.registered calls [.empty family]

/-- The attempts to register that were made on each registry, and before it was cloned on its
original. -/
def attempts (calls : List (Call B)) : List (List (String × Factory B)) :=
  performAll (fun entries kind factory => entries ++ [(kind, factory)]) calls [[]]

/-- Whether the call registers something in the registry at a place. -/
def RegistersAt (call : Call B) (place : Nat) : Prop :=
  ∃ kind factory, call = .register place kind factory

section Families

variable {S S' : Type} {put : S → String → Factory B → S}
  {put' : S' → String → Factory B → S'}

/-- If registering goes along with a view of the members, so does every call. -/
theorem perform_map (view : S → S')
    (hput : ∀ s kind factory, view (put s kind factory) = put' (view s) kind factory)
    (call : Call B) (all : List S) :
    call.perform put' (all.map view) = (call.perform put all).map view := by
  cases call with
  | register target kind factory =>
    refine List.ext_getElem? fun place => ?_
    simp only [perform, List.getElem?_modify, List.getElem?_map]
    cases all[place]? with
    | none => rfl
    | some s =>
      by_cases hplace : target = place
      · simp [hplace, hput]
      · simp [hplace]
  | clone target =>
    rw [perform, perform, List.map_append, List.getElem?_map]
    cases all[target]? <;> rfl
  | build target kind config => rfl

theorem performAll_map (view : S → S')
    (hput : ∀ s kind factory, view (put s kind factory) = put' (view s) kind factory)
    (calls : List (Call B)) (all : List S) :
    performAll put' calls (all.map view) = (performAll put calls all).map view := by
  induction calls generalizing all with
  | nil => rfl
  | cons call rest ih =>
    show performAll put' rest (call.perform put' (all.map view)) = _
    rw [perform_map view hput, ih]
    rfl

/-- An attempt that does nothing to its member does nothing to the family. -/
theorem perform_register_of_eq {place : Nat} {all : List S} {s : S} (hs : all[place]? = some s)
    {kind : String} {factory : Factory B} (hput : put s kind factory = s) :
    (register place kind factory).perform put all = all := by
  refine List.ext_getElem? fun other => ?_
  rw [perform, List.getElem?_modify]
  by_cases hother : place = other
  · subst hother
    rw [hs]
    simp [hput]
  · simp [hother]

/-- A call leaves alone the members in which it registers nothing. -/
theorem getElem?_perform {call : Call B} {place : Nat} {all : List S} {s : S}
    (hs : all[place]? = some s) (h : ¬call.RegistersAt place) :
    (call.perform put all)[place]? = some s := by
  cases call with
  | register target kind factory =>
    have hne : target ≠ place := by
      rintro rfl
      exact h ⟨kind, factory, rfl⟩
    rw [perform, List.getElem?_modify, hs]
    simp [hne]
  | clone target =>
    obtain ⟨hplace, -⟩ := List.getElem?_eq_some_iff.mp hs
    rw [perform, List.getElem?_append_left hplace, hs]
  | build target kind config => exact hs

theorem getElem?_performAll {calls : List (Call B)} {place : Nat} {all : List S} {s : S}
    (hs : all[place]? = some s) (h : ∀ call ∈ calls, ¬call.RegistersAt place) :
    (performAll put calls all)[place]? = some s := by
  induction calls generalizing all with
  | nil => exact hs
  | cons call rest ih =>
    obtain ⟨hcall, hrest⟩ := List.forall_mem_cons.mp h
    exact ih (getElem?_perform hs hcall) hrest

end Families

theorem registries_append (family : Family) (calls more : List (Call B)) :
    registries family (calls ++ more) =
      performAll Registry.registered more (registries family calls) :=
  List.foldl_append

/-- After any calls, the registries are those of the attempts. -/
theorem registries_eq_map (family : Family) (calls : List (Call B)) :
    registries family calls = (attempts calls).map (Registry.ofList family) := by
  refine performAll_map (Registry.ofList family) (fun entries kind factory => ?_) calls [[]]
  exact List.foldl_append

/-- **Every registry of a family reflects the attempts on it.** An attempt that fails changes
nothing at all. A clone is what its original is, and calls that register elsewhere, in a clone or in
the original, change nothing. In which order distinct kinds are registered does not matter. -/
theorem registries_reflect_attempts (family : Family) (calls : List (Call B)) {place : Nat}
    {r : Registry B} (h : (registries family calls)[place]? = some r) :
    (∃ entries, (attempts calls)[place]? = some entries ∧ r.Reflects family entries) ∧
    (∀ kind factory, kind ∈ r.kinds →
      registries family (calls ++ [.register place kind factory]) = registries family calls) ∧
    (registries family (calls ++ [.clone place]))[(registries family calls).length]? = some r ∧
    (∀ more : List (Call B), (∀ call ∈ more, ¬call.RegistersAt place) →
      (registries family (calls ++ more))[place]? = some r) ∧
    ∀ entries entries' : List (String × Factory B), entries.Perm entries' →
      (entries.map (·.1)).Nodup → r.registeredAll entries = r.registeredAll entries' := by
  have hmap := h
  rw [registries_eq_map, List.getElem?_map, Option.map_eq_some_iff] at hmap
  obtain ⟨entries, hentries, rfl⟩ := hmap
  have hreflects := Registry.reflects_ofList family entries
  refine ⟨⟨entries, hentries, hreflects⟩, fun kind factory hkind => ?_, ?_,
    fun more hmore => ?_,
    fun _ _ hperm hnodup => Registry.registeredAll_perm _ hperm hnodup⟩
  · have hattempt := hreflects.refuses kind factory ((hreflects.mem_kinds kind).mp hkind)
    have hkept : (Registry.ofList family entries).registered kind factory =
        .ofList family entries := by
      rw [Registry.registered, hattempt]
    rw [registries_append]
    exact perform_register_of_eq h hkept
  · rw [registries_append]
    show (registries family calls ++ (registries family calls)[place]?.toList)[_]? = _
    rw [h, List.getElem?_append_right (Nat.le_refl _), Nat.sub_self]
    rfl
  · rw [registries_append]
    exact getElem?_performAll h hmore

/-- Two attempts to register one kind, with a clone made between them that gets a
kind of its own. -/
def twiceAndCloned : List (Call Bool) := [.register 0 "even" fun _ => .ok true, .clone 0,
  .register 1 "any" fun _ => .ok true, .register 0 "even" fun _ => .ok false]

/-- The original has one kind, and builds by the factory that came first. -/
theorem first_factory_builds_twiceAndCloned :
    ∃ r, (registries .condition twiceAndCloned)[0]? = some r ∧
      (∀ kind, kind ∈ r.kinds ↔ kind = "even") ∧
      r.build "even" [("of", .null)] = .ok ⟨"even", [("of", .null)], true⟩ ∧
      (registries .condition (twiceAndCloned ++ [.register 1 "odd" fun _ => .ok false]))[0]? =
        some r := by
  have hr : (registries .condition twiceAndCloned)[0]? = some _ := rfl
  obtain ⟨⟨entries, hentries, hreflects⟩, -, -, hother, -⟩ :=
    registries_reflect_attempts .condition twiceAndCloned hr
  obtain rfl := Option.some.inj hentries
  refine ⟨_, hr, fun kind => ?_, ?_, hother _ ?_⟩
  · rw [hreflects.mem_kinds]
    simp
  · exact (hreflects.builds "even" [("of", .null)] ⟨"even", [("of", .null)], true⟩).mpr
      ⟨rfl, rfl, fun _ => .ok true, rfl, rfl⟩
  · rintro call hcall ⟨kind, factory, rfl⟩
    cases List.mem_singleton.mp hcall

end Call

end DecisionFlow
