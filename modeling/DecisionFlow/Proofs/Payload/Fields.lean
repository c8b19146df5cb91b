import DecisionFlow.Value
import Mathlib.Data.List.Nodup
import Mathlib.Data.List.Perm.Basic

/-!
# Fields of a payload

The fields of an object as a map from keys to values. The order of the fields changes when one is
removed, and what is found under a key does not depend on it as long as no key repeats.

- `Fields.mem_of_get?_eq_some`, `Fields.get?_eq_some_of_mem`, `Fields.mem_names_iff`: what is found
  under a key is in a field.
- `Fields.get?_perm`: the order does not matter.
- `Fields.swapRemove_perm_without`, `Fields.get?_swapRemove`: what is left when a field is removed.
- `Fields.insert_insert`, `Fields.insert_eq_self`: setting a field twice, and to what it holds.
- `Fields.put`: sets or removes a field. `Fields.get?_put`, `Fields.nodup_names_put`,
  `Fields.put_get?_self`: its laws.
-/

namespace DecisionFlow.Fields

variable {fields fields' : Fields} {key name : String}

/-- What is found under a key is in a field. -/
theorem mem_of_get?_eq_some {value : Value} (h : get? fields key = some value) :
    (key, value) ∈ fields := by
  induction fields with
  | nil => cases h
  | cons field rest ih =>
    obtain ⟨first, old⟩ := field
    rw [get?_cons] at h
    by_cases hkey : first = key
    · rw [if_pos hkey, Option.some.injEq] at h
      rw [hkey, h]
      exact List.mem_cons_self
    · rw [if_neg hkey] at h
      exact List.mem_cons_of_mem _ (ih h)

/-- If no key repeats, what is in a field is found under its key. -/
theorem get?_eq_some_of_mem {value : Value} (hnames : (names fields).Nodup)
    (h : (key, value) ∈ fields) : get? fields key = some value := by
  induction fields with
  | nil => cases h
  | cons field rest ih =>
    obtain ⟨hfirst, hrest⟩ := List.nodup_cons.mp hnames
    rw [get?_cons]
    obtain heq | hmem := List.mem_cons.mp h
    · rw [← heq, if_pos rfl]
    · have hne : field.1 ≠ key := by
        rintro rfl
        exact hfirst (List.mem_map.mpr ⟨_, hmem, rfl⟩)
      rw [if_neg hne, ih hrest hmem]

theorem mem_names_iff : key ∈ names fields ↔ (get? fields key).isSome := by
  induction fields with
  | nil => exact iff_of_false List.not_mem_nil Bool.false_ne_true
  | cons field rest ih =>
    obtain ⟨first, value⟩ := field
    rw [get?_cons, show names ((first, value) :: rest) = first :: names rest from rfl]
    by_cases hkey : first = key
    · rw [if_pos hkey]
      exact iff_of_true (hkey ▸ List.mem_cons_self) rfl
    · rw [if_neg hkey, ← ih, List.mem_cons]
      exact or_iff_right fun h => hkey h.symm

/-- What is found under a key does not depend on the order of the fields. -/
theorem get?_perm (h : fields.Perm fields') (hnames : (names fields).Nodup) (key : String) :
    get? fields key = get? fields' key := by
  induction h with
  | nil => rfl
  | cons field hrest ih =>
    rw [get?_cons, get?_cons, ih (List.nodup_cons.mp hnames).2]
  | swap field field' rest =>
    obtain ⟨name, value⟩ := field
    obtain ⟨name', value'⟩ := field'
    obtain ⟨hnames, -⟩ := List.nodup_cons.mp hnames
    have hne : name' ≠ name := fun heq => hnames (heq ▸ List.mem_cons_self)
    rw [get?_cons, get?_cons, get?_cons, get?_cons]
    by_cases hkey : name = key
    · rw [if_pos hkey, if_neg (hkey ▸ hne), if_pos hkey]
    · rw [if_neg hkey, if_neg hkey]
  | trans hfirst _ ih ih' =>
    have hbetween := (hfirst.map Prod.fst).nodup_iff.mp hnames
    rw [ih hnames, ih' hbetween]

/-! ## Removing a field -/

/-- What is left out is gone, and nothing else. -/
theorem get?_without (fields : Fields) (name key : String) :
    get? (without fields name) key = if name = key then none else get? fields key := by
  induction fields with
  | nil => simp [without]
  | cons field rest ih =>
    obtain ⟨first, value⟩ := field
    rw [without] at ih ⊢
    by_cases hname : first = name
    · rw [List.filter_cons_of_neg (by simpa using hname), ih, get?_cons, hname]
      by_cases hkey : name = key
      · rw [if_pos hkey, if_pos hkey]
      · rw [if_neg hkey, if_neg hkey, if_neg hkey]
    · rw [List.filter_cons_of_pos (by simpa using hname), get?_cons, ih, get?_cons]
      by_cases hkey : first = key
      · have hother : name ≠ key := fun h => hname (hkey.trans h.symm)
        rw [if_pos hkey, if_neg hother, if_pos hkey]
      · rw [if_neg hkey, if_neg hkey]

/-- Moving the last field to the front does not lose one. -/
theorem getLast?_append_dropLast_perm (fields : Fields) :
    (fields.getLast?.toList ++ fields.dropLast).Perm fields := by
  cases hlast : fields.getLast? with
  | none =>
    rw [List.getLast?_eq_none_iff.mp hlast]
    exact .refl _
  | some last =>
    obtain ⟨front, rfl⟩ := List.getLast?_eq_some_iff.mp hlast
    rw [List.dropLast_concat, Option.toList_some]
    exact List.perm_append_comm

/-- Apart from their order, the other fields are left. -/
theorem swapRemove_perm_without (hnames : (names fields).Nodup) :
    (swapRemove fields name).Perm (without fields name) := by
  induction fields with
  | nil => exact .refl _
  | cons field rest ih =>
    obtain ⟨key, value⟩ := field
    obtain ⟨hkey, hrest⟩ := List.nodup_cons.mp hnames
    rw [swapRemove, without]
    by_cases h : key = name
    · subst h
      have hothers : rest.filter (·.1 != key) = rest := by
        refine List.filter_eq_self.mpr fun field hfield => bne_iff_ne.mpr fun heq => hkey ?_
        exact List.mem_map.mpr ⟨field, hfield, heq⟩
      rw [if_pos rfl, List.filter_cons_of_neg (by simp), hothers]
      exact getLast?_append_dropLast_perm rest
    · rw [if_neg h, List.filter_cons_of_pos (by simpa using h)]
      exact (ih hrest).cons _

theorem nodup_names_swapRemove (hnames : (names fields).Nodup) :
    (names (swapRemove fields name)).Nodup := by
  have hothers : (names (without fields name)).Nodup := hnames.sublist (List.filter_sublist.map _)
  exact ((swapRemove_perm_without hnames).map Prod.fst).nodup_iff.mpr hothers

/-- A removed field is gone, and nothing else. -/
theorem get?_swapRemove (hnames : (names fields).Nodup) (name key : String) :
    get? (swapRemove fields name) key = if name = key then none else get? fields key := by
  rw [get?_perm (swapRemove_perm_without hnames) (nodup_names_swapRemove hnames), get?_without]

/-- Removing what is not there changes nothing. -/
theorem swapRemove_eq_self (h : get? fields name = none) : swapRemove fields name = fields := by
  induction fields with
  | nil => rfl
  | cons field rest ih =>
    obtain ⟨key, value⟩ := field
    rw [get?_cons] at h
    by_cases hkey : key = name
    · rw [if_pos hkey] at h
      cases h
    · rw [if_neg hkey] at h
      rw [swapRemove, if_neg hkey, ih h]

/-! ## Setting a field -/

theorem names_insert (fields : Fields) (name : String) (value : Value) :
    names (insert fields name value)
      = if name ∈ names fields then names fields else names fields ++ [name] := by
  induction fields with
  | nil => rfl
  | cons field rest ih =>
    obtain ⟨key, old⟩ := field
    rw [insert, show names ((key, old) :: rest) = key :: names rest from rfl]
    by_cases hkey : key = name
    · rw [if_pos hkey, if_pos (hkey ▸ List.mem_cons_self)]
      rfl
    · have hmem : name ∈ key :: names rest ↔ name ∈ names rest :=
        ⟨fun h => (List.mem_cons.mp h).resolve_left (Ne.symm hkey), List.mem_cons_of_mem _⟩
      rw [if_neg hkey]
      show key :: names (insert rest name value) = _
      rw [ih]
      by_cases hname : name ∈ names rest
      · rw [if_pos hname, if_pos (hmem.mpr hname)]
      · rw [if_neg hname, if_neg (fun h => hname (hmem.mp h))]
        rfl

theorem nodup_names_insert (hnames : (names fields).Nodup) (value : Value) :
    (names (insert fields name value)).Nodup := by
  rw [names_insert]
  by_cases hname : name ∈ names fields
  · rw [if_pos hname]
    exact hnames
  · rw [if_neg hname]
    exact List.nodup_append'.mpr ⟨hnames, List.nodup_singleton _, by simpa using hname⟩

/-- Setting a field to what it holds changes nothing. -/
theorem insert_eq_self {value : Value} (h : get? fields name = some value) :
    insert fields name value = fields := by
  induction fields with
  | nil => cases h
  | cons field rest ih =>
    obtain ⟨key, old⟩ := field
    rw [get?_cons] at h
    by_cases hkey : key = name
    · rw [if_pos hkey, Option.some.injEq] at h
      rw [insert, if_pos hkey, h]
    · rw [if_neg hkey] at h
      rw [insert, if_neg hkey, ih h]

/-- Of two values set one after the other, the second stays. -/
theorem insert_insert (fields : Fields) (name : String) (value value' : Value) :
    insert (insert fields name value) name value' = insert fields name value' := by
  induction fields with
  | nil => rw [insert, insert, insert, if_pos rfl]
  | cons field rest ih =>
    obtain ⟨key, old⟩ := field
    by_cases hkey : key = name
    · rw [insert, if_pos hkey, insert, if_pos hkey, insert, if_pos hkey]
    · rw [insert, if_neg hkey, insert, if_neg hkey, insert, if_neg hkey, ih]

/-! ## Both -/

/-- The fields with a key set to a value, or without the key. -/
def put (fields : Fields) (key : String) : Option Value → Fields
  | some value => insert fields key value
  | none => swapRemove fields key

/-- What was put is found, and everything else as before. -/
theorem get?_put (hnames : (names fields).Nodup) (name key : String) (value : Option Value) :
    get? (put fields name value) key = if name = key then value else get? fields key := by
  cases value with
  | none => exact get?_swapRemove hnames name key
  | some value =>
    rw [put]
    by_cases hkey : name = key
    · subst hkey
      rw [if_pos rfl, get?_insert_self]
    · rw [if_neg hkey, get?_insert_of_ne fields value hkey]

theorem nodup_names_put (hnames : (names fields).Nodup) (value : Option Value) :
    (names (put fields name value)).Nodup := by
  cases value with
  | none => exact nodup_names_swapRemove hnames
  | some value => exact nodup_names_insert hnames value

/-- Putting back what is found under a key changes nothing. -/
theorem put_get?_self (fields : Fields) (key : String) :
    put fields key (get? fields key) = fields := by
  cases hvalue : get? fields key with
  | none => exact swapRemove_eq_self hvalue
  | some value => exact insert_eq_self hvalue

end DecisionFlow.Fields
