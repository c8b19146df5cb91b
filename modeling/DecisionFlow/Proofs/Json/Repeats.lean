import DecisionFlow.Json.Parse
import Mathlib.Data.List.Nodup

/-!
# Repeated fields

A value that is read from a text may repeat a field. Splitting the objects that do takes every
repetition away, and changes nothing where there is none.

- `Value.Distinct`: values in which no object repeats a field.
- `Value.distinct_splitRepeats`: no field repeats after splitting.
- `Value.splitRepeats_eq_self_iff`: splitting keeps exactly the values in which none did before.
-/

namespace DecisionFlow

/-- The check for repetition looks at names only. -/
theorem Fields.repeats_eq_false_iff {fields : Fields} :
    Fields.repeats fields = false ↔ (Fields.names fields).Nodup := by
  induction fields with
  | nil => exact iff_of_true rfl List.nodup_nil
  | cons field rest ih =>
    obtain ⟨name, value⟩ := field
    show _ ↔ (name :: Fields.names rest).Nodup
    rw [Fields.repeats, Bool.or_eq_false_iff, ih, List.nodup_cons, ← Bool.not_eq_true,
      List.contains_iff_mem]

theorem Fields.repeats_eq_true_iff {fields : Fields} :
    Fields.repeats fields = true ↔ ¬ (Fields.names fields).Nodup := by
  rw [← Fields.repeats_eq_false_iff, Bool.not_eq_false]

/-- The fields with a function applied to their values. -/
def Fields.mapValues (f : Value → Value) (fields : Fields) : Fields :=
  fields.map fun field => (field.1, f field.2)

theorem Fields.mapValues_cons (f : Value → Value) (name : String) (value : Value)
    (rest : Fields) :
    Fields.mapValues f ((name, value) :: rest) = (name, f value) :: Fields.mapValues f rest := rfl

/-- A function on values leaves the names and their order alone. -/
theorem Fields.names_mapValues (f : Value → Value) (fields : Fields) :
    Fields.names (Fields.mapValues f fields) = Fields.names fields := by
  rw [Fields.names, Fields.mapValues, List.map_map]
  rfl

/-- A mapped field comes from a field with its name. -/
theorem Fields.mem_mapValues_iff {f : Value → Value} {fields : Fields} {name : String}
    {value : Value} :
    (name, value) ∈ Fields.mapValues f fields ↔
      ∃ v, (name, v) ∈ fields ∧ value = f v := by
  rw [Fields.mapValues, List.mem_map]
  constructor
  · rintro ⟨⟨key, v⟩, hfield, heq⟩
    cases heq
    exact ⟨v, hfield, rfl⟩
  · rintro ⟨v, hfield, rfl⟩
    exact ⟨(name, v), hfield, rfl⟩

theorem Fields.mem_mapValues (f : Value → Value) {fields : Fields} {name : String} {value : Value}
    (h : (name, value) ∈ fields) : (name, f value) ∈ Fields.mapValues f fields :=
  Fields.mem_mapValues_iff.mpr ⟨value, h, rfl⟩

namespace Value

/-! ## Values without repetition -/

mutual

/-- No object in the value repeats a field. -/
def Distinct : Value → Prop
  | .array items => DistinctItems items
  | .object fields => (Fields.names fields).Nodup ∧ DistinctFields fields
  | _ => True

/-- No object in the items repeats a field. -/
def DistinctItems : List Value → Prop
  | [] => True
  | item :: rest => item.Distinct ∧ DistinctItems rest

/-- No object in the values of the fields repeats a field. -/
def DistinctFields : List (String × Value) → Prop
  | [] => True
  | (_, value) :: rest => value.Distinct ∧ DistinctFields rest

end

/-- An array repeats nothing if none of its items does. -/
theorem distinct_array_iff {items : List Value} :
    Distinct (.array items) ↔ ∀ item ∈ items, item.Distinct := by
  rw [Distinct]
  induction items with
  | nil => simp [DistinctItems]
  | cons item rest ih => rw [DistinctItems, ih, List.forall_mem_cons]

/-- An object repeats nothing if its names are distinct and no value repeats anything. -/
theorem distinct_object_iff {fields : Fields} :
    Distinct (.object fields) ↔
      (Fields.names fields).Nodup ∧ ∀ field ∈ fields, field.2.Distinct := by
  have hvalues : DistinctFields fields ↔ ∀ field ∈ fields, field.2.Distinct := by
    induction fields with
    | nil => simp [DistinctFields]
    | cons field rest ih => rw [DistinctFields, ih, List.forall_mem_cons]
  rw [Distinct, hvalues]

/-- An object of one field has nothing to repeat but what its value repeats. -/
theorem distinct_single {name : String} {value : Value} (h : value.Distinct) :
    (single name value).Distinct :=
  distinct_object_iff.mpr ⟨List.nodup_singleton name, List.forall_mem_singleton.mpr h⟩

/-! ## From the inside out -/

/-- A value with nothing inside. -/
def Scalar (v : Value) : Prop := v.depth = 0

/-- Not even an array without items is a scalar. -/
theorem not_scalar_array {items : List Value} : ¬ Scalar (.array items) := by
  rw [Scalar, depth]
  omega

theorem not_scalar_object {fields : Fields} : ¬ Scalar (.object fields) := by
  rw [Scalar, depth]
  omega

/-- A function that goes through a value from the inside out and makes something of the fields of
every object. -/
structure Rebuilds (object : Fields → Value) (f : Value → Value) : Prop where
  scalar : ∀ v : Value, v.Scalar → f v = v
  array : ∀ items, f (.array items) = .array (items.map f)
  object : ∀ fields, f (.object fields) = object (Fields.mapValues f fields)

section Rebuilds

variable {object : Fields → Value} {f : Value → Value}

mutual

/-- If only objects that repeat a field are made into something else, values without repetition
stay. -/
theorem Rebuilds.eq_self (h : Rebuilds object f)
    (hobject : ∀ fields : Fields, (Fields.names fields).Nodup →
      object fields = .object fields) :
    ∀ v : Value, v.Distinct → f v = v
  | .null, _ | .bool _, _ | .number _, _ | .text _, _ => h.scalar _ rfl
  | .array items, hv => by
    rw [h.array, h.map_eq_self hobject items (distinct_array_iff.mp hv)]
  | .object fields, hv => by
    obtain ⟨hnames, hvalues⟩ := distinct_object_iff.mp hv
    rw [h.object, h.mapValues_eq_self hobject fields hvalues, hobject fields hnames]

/-- The items of an array without repetition stay. -/
theorem Rebuilds.map_eq_self (h : Rebuilds object f)
    (hobject : ∀ fields : Fields, (Fields.names fields).Nodup →
      object fields = .object fields) :
    ∀ items : List Value, (∀ item ∈ items, item.Distinct) → items.map f = items
  | [], _ => rfl
  | item :: rest, hitems => by
    obtain ⟨hitem, hrest⟩ := List.forall_mem_cons.mp hitems
    rw [List.map_cons, h.eq_self hobject item hitem, h.map_eq_self hobject rest hrest]

/-- The values of fields without repetition stay. -/
theorem Rebuilds.mapValues_eq_self (h : Rebuilds object f)
    (hobject : ∀ fields : Fields, (Fields.names fields).Nodup →
      object fields = .object fields) :
    ∀ fields : List (String × Value), (∀ field ∈ fields, field.2.Distinct) →
      Fields.mapValues f fields = fields
  | [], _ => rfl
  | (name, value) :: rest, hfields => by
    obtain ⟨hvalue, hrest⟩ := List.forall_mem_cons.mp hfields
    rw [Fields.mapValues_cons, h.eq_self hobject value hvalue,
      h.mapValues_eq_self hobject rest hrest]

end

end Rebuilds

/-! ## Splitting -/

/-- The items of an array are split one by one. -/
theorem splitItems_eq_map (items : List Value) : splitItems items = items.map splitRepeats := by
  induction items with
  | nil => rfl
  | cons item rest ih => rw [splitItems, ih, List.map_cons]

/-- The values of fields are split one by one, and the names stay. -/
theorem splitFields_eq_mapValues (fields : Fields) :
    splitFields fields = Fields.mapValues splitRepeats fields := by
  induction fields with
  | nil => rfl
  | cons field rest ih =>
    obtain ⟨name, value⟩ := field
    rw [splitFields, ih, Fields.mapValues_cons]

theorem splitRepeats_array (items : List Value) :
    splitRepeats (.array items) = .array (items.map splitRepeats) := by
  rw [splitRepeats, splitItems_eq_map]

/-- What becomes of an object depends on its fields once their values are split. -/
theorem splitRepeats_object (fields : Fields) :
    splitRepeats (.object fields) = ofFields (Fields.mapValues splitRepeats fields) := by
  rw [splitRepeats, splitFields_eq_mapValues]

/-- A scalar has nothing to split. -/
theorem splitRepeats_of_scalar {v : Value} (h : v.Scalar) : v.splitRepeats = v := by
  cases v with
  | array items => exact absurd h not_scalar_array
  | object fields => exact absurd h not_scalar_object
  | _ => rw [splitRepeats] <;> simp

/-- Splitting goes through a value from the inside out. -/
theorem rebuilds_splitRepeats : Rebuilds ofFields splitRepeats where
  scalar _ h := splitRepeats_of_scalar h
  array := splitRepeats_array
  object := splitRepeats_object

/-- Whether the fields become an object or an array, none of them is repeated in it. -/
theorem distinct_ofFields {fields : Fields} (h : ∀ field ∈ fields, field.2.Distinct) :
    (ofFields fields).Distinct := by
  rw [ofFields]
  split
  · rw [distinct_array_iff, List.forall_mem_map]
    exact fun field hfield => distinct_single (h field hfield)
  · rename_i hrepeats
    rw [Bool.not_eq_true, Fields.repeats_eq_false_iff] at hrepeats
    exact distinct_object_iff.mpr ⟨hrepeats, h⟩

mutual

/-- **No field repeats in a value whose repeated fields were split.** -/
theorem distinct_splitRepeats : ∀ v : Value, v.splitRepeats.Distinct
  | .null | .bool _ | .number _ | .text _ => by rw [splitRepeats, Distinct] <;> simp
  | .array items => distinct_array_iff.mpr (distinct_of_mem_splitItems items)
  | .object fields => distinct_ofFields (distinct_of_mem_splitFields fields)

theorem distinct_of_mem_splitItems :
    ∀ items : List Value, ∀ item ∈ splitItems items, item.Distinct
  | [] => List.forall_mem_nil _
  | item :: rest =>
    List.forall_mem_cons.mpr ⟨distinct_splitRepeats item, distinct_of_mem_splitItems rest⟩

theorem distinct_of_mem_splitFields :
    ∀ fields : List (String × Value), ∀ field ∈ splitFields fields, field.2.Distinct
  | [] => List.forall_mem_nil _
  | (_, value) :: rest =>
    List.forall_mem_cons.mpr ⟨distinct_splitRepeats value, distinct_of_mem_splitFields rest⟩

end

/-- Fields with distinct names become an object. -/
theorem ofFields_of_nodup {fields : Fields} (h : (Fields.names fields).Nodup) :
    ofFields fields = .object fields := by
  rw [ofFields, Fields.repeats_eq_false_iff.mpr h, if_neg Bool.false_ne_true]

/-- Fields that repeat a name become an array, with an object for every one of them. -/
theorem ofFields_of_not_nodup {fields : Fields} (h : ¬ (Fields.names fields).Nodup) :
    ofFields fields = .array (fields.map fun field => single field.1 field.2) := by
  rw [ofFields, if_pos (Fields.repeats_eq_true_iff.mpr h)]

/-- An object that repeats no field stays an object, with its values split. -/
theorem splitRepeats_of_nodup {fields : Fields} (h : (Fields.names fields).Nodup) :
    splitRepeats (.object fields) = .object (Fields.mapValues splitRepeats fields) := by
  rw [splitRepeats_object, ofFields_of_nodup (by rwa [Fields.names_mapValues])]

/-- An object that repeats a field becomes an array of its fields, with their values split. -/
theorem splitRepeats_of_not_nodup {fields : Fields} (h : ¬ (Fields.names fields).Nodup) :
    splitRepeats (.object fields)
      = .array ((Fields.mapValues splitRepeats fields).map fun field =>
        single field.1 field.2) := by
  rw [splitRepeats_object, ofFields_of_not_nodup (by rwa [Fields.names_mapValues])]

example : (Value.object [("trim", .null), ("trim", .bool true)]).splitRepeats
    = .array [.single "trim" .null, .single "trim" (.bool true)] := rfl

/-- What is an object after splitting was one before, and repeated no field. -/
theorem splitRepeats_eq_object_iff {v : Value} {fields : Fields} :
    v.splitRepeats = .object fields ↔
      ∃ written, v = .object written ∧ (Fields.names written).Nodup ∧
        fields = Fields.mapValues splitRepeats written := by
  constructor
  · intro h
    cases v with
    | object written =>
      by_cases hnames : (Fields.names written).Nodup
      · rw [splitRepeats_of_nodup hnames] at h
        exact ⟨written, rfl, hnames, (object.inj h).symm⟩
      · rw [splitRepeats_of_not_nodup hnames] at h
        cases h
    | array items =>
      rw [splitRepeats_array] at h
      cases h
    | _ =>
      rw [splitRepeats_of_scalar (by rfl)] at h
      cases h
  · rintro ⟨written, rfl, hnames, rfl⟩
    exact splitRepeats_of_nodup hnames

/-- **Splitting keeps exactly the values in which no field repeats.** -/
theorem splitRepeats_eq_self_iff {v : Value} : v.splitRepeats = v ↔ v.Distinct := by
  constructor
  · intro h
    rw [← h]
    exact distinct_splitRepeats v
  · exact rebuilds_splitRepeats.eq_self (fun _ => ofFields_of_nodup) v

end Value

end DecisionFlow
