import DecisionFlow.Document.Read
import Mathlib.Data.List.Forall2

/-!
# The children of a node

A reader first lists the children of a node and then reads them one by one. Where children stand
only matters for the paths in errors, so what a successful reader did can be said of their names and
values.

- `Lists`: which fields are the children of a node, without a path.
- `exists_children_iff`: `Document.children` lists exactly these fields.
- `mapM_eq_ok_iff`, `exists_forall₂_iff`: children read one by one.
-/

namespace DecisionFlow.Document

/-! ## Reading one by one -/

section Sequences

variable {ε α β : Type} {f : α → Except ε β}

theorem bind_eq_ok_iff {x : Except ε α} {b : β} :
    x >>= f = .ok b ↔ ∃ a, x = .ok a ∧ f a = .ok b := by
  cases x with
  | error e => simp [bind, Except.bind]
  | ok a => simp [bind, Except.bind]

/-- A traversal succeeds exactly when every item does. -/
theorem mapM_eq_ok_iff {xs : List α} {ys : List β} :
    xs.mapM f = .ok ys ↔ List.Forall₂ (fun x y => f x = .ok y) xs ys := by
  induction xs generalizing ys with
  | nil => simp [pure, Except.pure, eq_comm]
  | cons x xs ih =>
    rw [List.mapM_cons, bind_eq_ok_iff, List.forall₂_cons_left_iff]
    refine exists_congr fun y => ?_
    rw [bind_eq_ok_iff]
    constructor
    · rintro ⟨hx, rest, hrest, hys⟩
      cases hys
      exact ⟨rest, hx, ih.mp hrest, rfl⟩
    · rintro ⟨rest, hx, hrest, rfl⟩
      exact ⟨hx, rest, ih.mpr hrest, rfl⟩

/-- A list can be read if each of its members can. -/
theorem exists_forall₂_iff {R : α → β → Prop} {xs : List α} :
    (∃ ys, List.Forall₂ R xs ys) ↔ ∀ x ∈ xs, ∃ y, R x y := by
  induction xs with
  | nil => simp
  | cons x xs ih =>
    rw [List.forall_mem_cons, ← ih]
    constructor
    · rintro ⟨_, h⟩
      cases h with
      | cons hx hrest => exact ⟨⟨_, hx⟩, _, hrest⟩
    · rintro ⟨⟨y, hx⟩, ys, hrest⟩
      exact ⟨y :: ys, .cons hx hrest⟩

end Sequences

/-! ## Children without their places -/

/-- The name and the value of a child. -/
def Child.field (child : Child) : String × Value := (child.name, child.value)

/-- The fields that are the children of a node. A node with children is null, an array of objects
or, where the settings allow it, one object. -/
inductive Lists (settings : Settings) : Value → Fields → Prop where
  | null : Lists settings .null []
  | array (objects : List Fields) :
    Lists settings (.array (objects.map .object)) objects.flatten
  | object (fields : Fields) (allowed : settings.acceptObjectShape = true) :
    Lists settings (.object fields) fields

theorem map_field_childrenOfFields (path : Locator) (fields : Fields) :
    (childrenOfFields path fields).map Child.field = fields := by
  simp [childrenOfFields, Child.field, Function.comp_def]

/-- The items of an array have to be objects, and their fields are the children. -/
theorem exists_childrenOfItems_iff {path : Locator} {index : Nat} {items : List Value}
    {fields : Fields} :
    (∃ children, childrenOfItems path index items = .ok children ∧
      children.map Child.field = fields)
      ↔ ∃ objects : List Fields, items = objects.map .object ∧ fields = objects.flatten := by
  induction items generalizing index fields with
  | nil =>
    simp only [childrenOfItems, Except.ok.injEq, exists_eq_left', List.map_nil]
    constructor
    · rintro rfl
      exact ⟨[], rfl, rfl⟩
    · rintro ⟨objects, hitems, rfl⟩
      rw [List.map_eq_nil_iff.mp hitems.symm]
      rfl
  | cons item rest ih =>
    cases item with
    | object first =>
      simp only [childrenOfItems, bind_eq_ok_iff]
      constructor
      · rintro ⟨children, ⟨later, hlater, hchildren⟩, rfl⟩
        cases hchildren
        obtain ⟨objects, hrest, hfields⟩ := ih.mp ⟨later, hlater, rfl⟩
        refine ⟨first :: objects, by rw [hrest]; rfl, ?_⟩
        rw [List.map_append, map_field_childrenOfFields, hfields, List.flatten_cons]
      · rintro ⟨objects, hitems, rfl⟩
        obtain ⟨head, objects, rfl, hhead, hrest⟩ := List.map_eq_cons_iff.mp hitems.symm
        cases hhead
        obtain ⟨later, hlater, hfields⟩ := ih.mpr ⟨objects, hrest.symm, rfl⟩
        refine ⟨_, ⟨later, hlater, rfl⟩, ?_⟩
        rw [List.map_append, map_field_childrenOfFields, hfields, List.flatten_cons]
    | _ =>
      -- Any other item is refused, and is not among the objects of a list either.
      constructor
      · rintro ⟨children, h, -⟩
        cases h
      · rintro ⟨objects, hitems, -⟩
        obtain ⟨head, objects, rfl, hhead, -⟩ := List.map_eq_cons_iff.mp hitems.symm
        cases hhead

/-- The children of a node, wherever it stands, are the fields that it lists. -/
theorem exists_children_iff {settings : Settings} {node : Value} {path : Locator}
    {fields : Fields} :
    (∃ cs, children settings node path = .ok cs ∧ cs.map Child.field = fields)
      ↔ Lists settings node fields := by
  constructor
  · rintro ⟨cs, h, rfl⟩
    cases node with
    | null =>
      cases h
      exact .null
    | array items =>
      obtain ⟨objects, rfl, hfields⟩ := exists_childrenOfItems_iff.mp ⟨cs, h, rfl⟩
      rw [hfields]
      exact .array objects
    | object fields =>
      rw [children] at h
      split at h
      case isTrue allowed =>
        cases h
        rw [map_field_childrenOfFields]
        exact .object fields allowed
      case isFalse => cases h
    | _ => cases h
  · intro h
    cases h with
    | null => exact ⟨[], rfl, rfl⟩
    | array objects => exact exists_childrenOfItems_iff.mpr ⟨objects, rfl, rfl⟩
    | object _ allowed =>
      rw [children, if_pos allowed]
      exact ⟨_, rfl, map_field_childrenOfFields _ _⟩

/-- An array lists the fields of its items, which have to be objects. -/
theorem lists_array_iff {settings : Settings} {items : List Value} {fields : Fields} :
    Lists settings (.array items) fields ↔
      ∃ objects : List Fields, items = objects.map .object ∧ fields = objects.flatten := by
  constructor
  · rintro (_ | objects)
    exact ⟨objects, rfl, rfl⟩
  · rintro ⟨objects, rfl, rfl⟩
    exact .array objects

/-- Longer arrays list more fields. -/
theorem Lists.append {settings : Settings} {items more : List Value} {fields moreFields : Fields}
    (h : Lists settings (.array items) fields) (hmore : Lists settings (.array more) moreFields) :
    Lists settings (.array (items ++ more)) (fields ++ moreFields) := by
  obtain ⟨objects, rfl, rfl⟩ := lists_array_iff.mp h
  obtain ⟨moreObjects, rfl, rfl⟩ := lists_array_iff.mp hmore
  rw [← List.map_append, ← List.flatten_append]
  exact .array _

end DecisionFlow.Document
