import DecisionFlow.Proofs.Document.Children
import DecisionFlow.Registry
import Mathlib.Data.List.Nodup

/-!
# Registering

A factory is put among the others once its kind is known to be free. So an attempt that fails has
put nothing anywhere, and what a registry finds is what it found before or the factory of the
attempt.

- `Registry.registerInPlace_of_free`, `Registry.registerInPlace_of_taken`: what an attempt comes to.
- `Registry.register_eq_ok_iff`: what registering yields, if it succeeds.
- `Registry.factory?_registered`, `Registry.factory?_registeredAll`: what is found after attempts.
- `Registry.factory?_ofList`: **the registry of some factories finds the first one of every kind.**
- `Registry.factory?_of_mem_of_registerAll`: **what was registered is found.**
- `Registry.eq_of_factory?`: a registry is told by what it finds.
-/

namespace DecisionFlow.Registry

variable {B : Type} {kind : String} {factory : Factory B}
  {entries entries' : List (String × Factory B)}

/-! ## Entries in order -/

/-- A new entry is found under its kind, if nothing was before. -/
theorem lookup_insertSorted_self (hfree : entries.lookup kind = none) :
    (insertSorted kind factory entries).lookup kind = some factory := by
  induction entries with
  | nil => simp [insertSorted]
  | cons entry rest ih =>
    obtain ⟨key, known⟩ := entry
    rw [List.lookup_cons] at hfree
    split at hfree
    case h_1 => cases hfree
    case h_2 hne =>
      rw [insertSorted]
      split
      · simp
      · rw [List.lookup_cons, hne]
        exact ih hfree

/-- A new entry is not found under another kind, wherever it is put. -/
theorem lookup_insertSorted_of_ne {other : String} (hne : other ≠ kind) (factory : Factory B)
    (entries : List (String × Factory B)) :
    (insertSorted kind factory entries).lookup other = entries.lookup other := by
  have hfresh : (other == kind) = false := beq_false_of_ne hne
  induction entries with
  | nil => rw [insertSorted, List.lookup_cons, hfresh]
  | cons entry rest ih =>
    obtain ⟨key, known⟩ := entry
    rw [insertSorted]
    split
    · rw [List.lookup_cons, hfresh]
    · rw [List.lookup_cons, List.lookup_cons, ih]

/-- If no kind repeats, an entry is what is found under its kind. -/
theorem lookup_eq_some_iff_mem (h : (entries.map (·.1)).Nodup) :
    entries.lookup kind = some factory ↔ (kind, factory) ∈ entries := by
  induction entries with
  | nil => simp
  | cons entry rest ih =>
    obtain ⟨key, known⟩ := entry
    obtain ⟨hkey, hrest⟩ := List.nodup_cons.mp h
    rw [List.lookup_cons, List.mem_cons]
    by_cases hkind : kind = key
    · subst hkind
      have hother : (kind, factory) ∉ rest :=
        fun hmem => hkey (List.mem_map.mpr ⟨_, hmem, rfl⟩)
      simp [hother, eq_comm]
    · rw [beq_false_of_ne hkind]
      simp [hkind, ih hrest]

/-- Kinds that ascend do not repeat. -/
theorem Ascending.nodup_kinds (h : Ascending entries) : (entries.map (·.1)).Nodup := by
  refine List.pairwise_map.mpr (List.Pairwise.imp ?_ h)
  intro a b hlt heq
  exact String.lt_irrefl b.1 (heq ▸ hlt)

/-- Ascending entries are told by what is found among them. -/
theorem Ascending.unique (h : Ascending entries) (h' : Ascending entries')
    (hlookup : ∀ kind, entries.lookup kind = entries'.lookup kind) : entries = entries' := by
  have hmem : ∀ entry, entry ∈ entries ↔ entry ∈ entries' := by
    rintro ⟨kind, factory⟩
    rw [← lookup_eq_some_iff_mem h.nodup_kinds, ← lookup_eq_some_iff_mem h'.nodup_kinds,
      hlookup]
  have hperm : entries.Perm entries' := (List.perm_ext_iff_of_nodup
    (List.Nodup.of_map _ h.nodup_kinds) (List.Nodup.of_map _ h'.nodup_kinds)).mpr hmem
  exact hperm.eq_of_pairwise (fun a b _ _ hab hba => absurd hba (String.lt_asymm hab)) h h'

/-! ## One attempt -/

variable {r r' : Registry B}

/-- An attempt on a kind that is free puts the factory there. -/
theorem registerInPlace_of_free (hfree : r.factory? kind = none) (factory : Factory B) :
    r.registerInPlace kind factory = .ok () (r.insert kind factory hfree) := by
  have habsent : ¬r.contains kind = true := by
    rw [contains, hfree]
    exact Bool.false_ne_true
  exact dif_neg habsent

/-- An attempt on a kind that is taken stops before anything is put into the registry. -/
theorem registerInPlace_of_taken (htaken : r.factory? kind ≠ none) (factory : Factory B) :
    r.registerInPlace kind factory = .error ⟨r.family, kind⟩ r :=
  dif_pos (Option.isSome_iff_ne_none.mpr htaken)

theorem register_of_free (hfree : r.factory? kind = none) (factory : Factory B) :
    r.register kind factory = .ok (r.insert kind factory hfree) := by
  rw [register, registerInPlace_of_free hfree]

theorem register_of_taken (htaken : r.factory? kind ≠ none) (factory : Factory B) :
    r.register kind factory = .error ⟨r.family, kind⟩ := by
  rw [register, registerInPlace_of_taken htaken]

theorem registered_of_free (hfree : r.factory? kind = none) (factory : Factory B) :
    r.registered kind factory = r.insert kind factory hfree := by
  rw [registered, registerInPlace_of_free hfree]

theorem registered_of_taken (htaken : r.factory? kind ≠ none) (factory : Factory B) :
    r.registered kind factory = r := by
  rw [registered, registerInPlace_of_taken htaken]

/-- Registering succeeds on a kind that is free, and puts the factory there. -/
theorem register_eq_ok_iff : r.register kind factory = .ok r' ↔
    ∃ hfree : r.factory? kind = none, r' = r.insert kind factory hfree := by
  constructor
  · intro h
    by_cases hfree : r.factory? kind = none
    · rw [register_of_free hfree] at h
      exact ⟨hfree, (Except.ok.inj h).symm⟩
    · rw [register_of_taken hfree] at h
      cases h
  · rintro ⟨hfree, rfl⟩
    exact register_of_free hfree factory

theorem factory?_insert_self (hfree : r.factory? kind = none) (factory : Factory B) :
    (r.insert kind factory hfree).factory? kind = some factory :=
  lookup_insertSorted_self hfree

theorem factory?_insert_of_ne {other : String} (hne : other ≠ kind)
    (hfree : r.factory? kind = none) (factory : Factory B) :
    (r.insert kind factory hfree).factory? other = r.factory? other :=
  lookup_insertSorted_of_ne hne factory r.factories

/-- After an attempt, whether it succeeded or not, the factory of the attempt is found where nothing
was found before. -/
theorem factory?_registered (r : Registry B) (kind : String) (factory : Factory B)
    (other : String) :
    (r.registered kind factory).factory? other =
      (r.factory? other).or (if other = kind then some factory else none) := by
  by_cases hfree : r.factory? kind = none
  · rw [registered_of_free hfree]
    by_cases hother : other = kind
    · rw [hother, factory?_insert_self, hfree, if_pos rfl, Option.none_or]
    · rw [factory?_insert_of_ne hother, if_neg hother, Option.or_none]
  · rw [registered_of_taken hfree]
    by_cases hother : other = kind
    · obtain ⟨known, hknown⟩ := Option.ne_none_iff_exists'.mp hfree
      rw [hother, hknown, Option.some_or]
    · rw [if_neg hother, Option.or_none]

theorem family_registered (r : Registry B) (kind : String) (factory : Factory B) :
    (r.registered kind factory).family = r.family := by
  by_cases hfree : r.factory? kind = none
  · rw [registered_of_free hfree]
    rfl
  · rw [registered_of_taken hfree]

/-! ## Several attempts -/

/-- After several attempts, the first factory of a kind is found where nothing was found before. -/
theorem factory?_registeredAll (r : Registry B) (entries : List (String × Factory B))
    (kind : String) :
    (r.registeredAll entries).factory? kind = (r.factory? kind).or (entries.lookup kind) := by
  induction entries generalizing r with
  | nil => exact (Option.or_none ..).symm
  | cons entry rest ih =>
    obtain ⟨key, factory⟩ := entry
    show ((r.registered key factory).registeredAll rest).factory? kind = _
    rw [ih, factory?_registered, Option.or_assoc, List.lookup_cons]
    by_cases hkind : kind = key
    · rw [if_pos hkind, hkind, beq_self_eq_true, Option.some_or]
    · rw [if_neg hkind, beq_false_of_ne hkind, Option.none_or]

theorem family_registeredAll (r : Registry B) (entries : List (String × Factory B)) :
    (r.registeredAll entries).family = r.family := by
  induction entries generalizing r with
  | nil => rfl
  | cons entry rest ih => exact (ih _).trans (family_registered ..)

/-- **The registry of some factories finds the first one of every kind**, and nothing else. -/
theorem factory?_ofList (family : Family) (entries : List (String × Factory B)) (kind : String) :
    (ofList family entries).factory? kind = entries.lookup kind :=
  factory?_registeredAll (empty family) entries kind

/-- What a registry of some entries knows is among them. -/
theorem mem_of_factory?_ofList {family : Family}
    (h : (ofList family entries).factory? kind = some factory) : (kind, factory) ∈ entries := by
  rw [factory?_ofList] at h
  obtain ⟨before, after, rfl, -⟩ := List.lookup_eq_some_iff.mp h
  exact List.mem_append_right _ List.mem_cons_self

/-- Registering several factories comes to the attempts, if all of them succeed. -/
theorem registeredAll_of_registerAll (h : r.registerAll entries = .ok r') :
    r' = r.registeredAll entries := by
  induction entries generalizing r with
  | nil => exact (Except.ok.inj h).symm
  | cons entry rest ih =>
    rw [registerAll, List.foldlM_cons] at h
    obtain ⟨next, hnext, hrest⟩ := Document.bind_eq_ok_iff.mp h
    obtain ⟨hfree, rfl⟩ := register_eq_ok_iff.mp hnext
    rw [ih hrest, ← registered_of_free hfree]
    rfl

/-- **What was registered is found.** If registering several factories succeeded, none of them came
upon a kind that was taken. -/
theorem factory?_of_mem_of_registerAll (h : r.registerAll entries = .ok r')
    (hmem : (kind, factory) ∈ entries) : r'.factory? kind = some factory := by
  induction entries generalizing r with
  | nil => cases hmem
  | cons entry rest ih =>
    have hlater := h
    rw [registerAll, List.foldlM_cons] at hlater
    obtain ⟨next, hnext, hrest⟩ := Document.bind_eq_ok_iff.mp hlater
    obtain hfirst | hmem := List.mem_cons.mp hmem
    · subst hfirst
      obtain ⟨hfree, rfl⟩ := register_eq_ok_iff.mp hnext
      rw [registeredAll_of_registerAll hrest, factory?_registeredAll, factory?_insert_self,
        Option.some_or]
    · exact ih hrest hmem

/-! ## Registries are told by what they find -/

/-- Two registries of a family that find the same under every kind are the same. -/
theorem eq_of_factory? (hfamily : r.family = r'.family)
    (hfound : ∀ kind, r.factory? kind = r'.factory? kind) : r = r' := by
  obtain ⟨family, factories, ascending⟩ := r
  obtain ⟨family', factories', ascending'⟩ := r'
  obtain rfl : family = family' := hfamily
  obtain rfl : factories = factories' := ascending.unique ascending' hfound
  rfl

end DecisionFlow.Registry
