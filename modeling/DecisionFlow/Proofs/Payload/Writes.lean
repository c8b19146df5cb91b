import DecisionFlow.Proofs.Payload.Views

/-!
# Writes to a payload

A change of a payload comes down to writes: each leaves a value, or none, at the end of a path.
Writes at paths that part do not get in each other's way, and their order does not show.

- `Write`, `Fields.perform`, `Fields.performAll`: writes, and fields once they are made.
- `Write.graftAll_comm`: **writes at paths that part can be made in any order.**
- `Fields.view_performAll`, `Fields.lookup_performAll`: the view after some writes, and what is then
  found along paths that part from theirs.
- `Feasible`: writes that can be made one after the other. `Feasible.clear_graftAll_iff`: they
  neither clear nor obstruct the way of a path that parts from theirs; `Feasible.graft`: nor does
  such a write hinder them.
- `Fields.checkAssign_performAll_iff`: **what can be set does not turn on writes elsewhere.**
-/

namespace DecisionFlow

/-- What is left at the end of a path: a value, or nothing. -/
structure Write where
  path : FieldPath
  left : Option Value

namespace Write

/-- The view of a payload after a write. -/
def graft (w : Write) (φ : View) : View :=
  View.graft w.path (fun back => w.left.bind (·.view back)) φ

/-- The view of a payload after some writes, the first one first. -/
def graftAll (writes : List Write) (φ : View) : View := writes.foldl (fun φ w => w.graft φ) φ

theorem graftAll_cons (w : Write) (writes : List Write) (φ : View) :
    graftAll (w :: writes) φ = graftAll writes (w.graft φ) := rfl

/-- What is left repeats no field. -/
def Distinct (w : Write) : Prop := ∀ value ∈ w.left, value.Distinct

theorem distinct_none (path : FieldPath) : Distinct ⟨path, none⟩ :=
  fun value hvalue => absurd hvalue (Option.not_mem_none value)

theorem distinct_some {value : Value} (h : value.Distinct) (path : FieldPath) :
    Distinct ⟨path, some value⟩ := by
  intro left hleft
  obtain rfl := Option.mem_some.mp hleft
  exact h

/-- A write may be grafted before or after others that are apart from it. -/
theorem graft_graftAll {w : Write} {others : List Write}
    (h : ∀ w' ∈ others, w.path.Incomparable w'.path) (φ : View) :
    w.graft (graftAll others φ) = graftAll others (w.graft φ) := by
  induction others generalizing φ with
  | nil => rfl
  | cons other others ih =>
    obtain ⟨hother, hothers⟩ := List.forall_mem_cons.mp h
    rw [graftAll_cons, graftAll_cons, ih hothers]
    exact congrArg (graftAll others) (View.graft_comm hother _ _ φ)

/-- **Writes at paths that part can be made in any order.** -/
theorem graftAll_comm {writes others : List Write}
    (h : ∀ w ∈ writes, ∀ w' ∈ others, w.path.Incomparable w'.path) (φ : View) :
    graftAll writes (graftAll others φ) = graftAll others (graftAll writes φ) := by
  induction writes generalizing φ with
  | nil => rfl
  | cons w writes ih =>
    obtain ⟨hw, hwrites⟩ := List.forall_mem_cons.mp h
    rw [graftAll_cons, graftAll_cons, graft_graftAll hw, ih hwrites]

end Write

/-! ## Writes that are made -/

namespace Fields

variable {fields : Fields} {w : Write} {writes : List Write}

/-- The fields after a write. -/
def perform (fields : Fields) (w : Write) : Fields := fields.settle w.left w.path.first w.path.rest

/-- The fields after some writes, the first one first. -/
def performAll (fields : Fields) (writes : List Write) : Fields := writes.foldl perform fields

theorem performAll_cons (fields : Fields) (w : Write) (writes : List Write) :
    fields.performAll (w :: writes) = (fields.perform w).performAll writes := rfl

theorem distinct_perform (h : (Value.object fields).Distinct) (hw : w.Distinct) :
    (Value.object (fields.perform w)).Distinct :=
  distinct_settle h hw

/-- Performing a write grafts it. -/
theorem view_perform (h : (Value.object fields).Distinct) :
    (Value.object (fields.perform w)).view = w.graft (Value.object fields).view :=
  Value.view_settle w.path w.left h

/-- What was written can be set again. -/
theorem checkAssign_perform_self (h : (Value.object fields).Distinct) :
    (Value.object (fields.perform w)).checkAssign w.path = .ok () := by
  rw [Value.checkAssign_eq_ok_iff, view_perform h]
  exact View.clear_graft_self _ _ _

theorem distinct_performAll (h : (Value.object fields).Distinct)
    (hwrites : ∀ w ∈ writes, w.Distinct) :
    (Value.object (fields.performAll writes)).Distinct := by
  induction writes generalizing fields with
  | nil => exact h
  | cons w writes ih =>
    obtain ⟨hw, hwrites⟩ := List.forall_mem_cons.mp hwrites
    exact ih (distinct_perform h hw) hwrites

/-- Performing writes grafts them one after another. -/
theorem view_performAll (h : (Value.object fields).Distinct)
    (hwrites : ∀ w ∈ writes, w.Distinct) :
    (Value.object (fields.performAll writes)).view
      = Write.graftAll writes (Value.object fields).view := by
  induction writes generalizing fields with
  | nil => rfl
  | cons w writes ih =>
    obtain ⟨hw, hwrites⟩ := List.forall_mem_cons.mp hwrites
    rw [performAll_cons, ih (distinct_perform h hw) hwrites, view_perform h, Write.graftAll_cons]

/-- A path that parts from those of all writes finds what it found before. -/
theorem lookup_performAll (h : (Value.object fields).Distinct)
    (hwrites : ∀ w ∈ writes, w.Distinct) {path : FieldPath}
    (hpath : ∀ w ∈ writes, w.path.Incomparable path) :
    (Value.object (fields.performAll writes)).lookup path = (Value.object fields).lookup path := by
  induction writes generalizing fields with
  | nil => rfl
  | cons w writes ih =>
    obtain ⟨hw, hwrites⟩ := List.forall_mem_cons.mp hwrites
    obtain ⟨hparted, hpath⟩ := List.forall_mem_cons.mp hpath
    exact (ih (distinct_perform h hw) hwrites hpath).trans
      (Value.sameElsewhere_settle w.path w.left h path hparted)

end Fields

/-! ## Writes that can be made -/

/-- Writes that can be made one after the other: the way to each is clear by then. -/
inductive Feasible : View → List Write → Prop where
  | nil (φ : View) : Feasible φ []
  | cons {φ : View} {w : Write} {writes : List Write} (clear : φ.Clear w.path)
    (others : Feasible (w.graft φ) writes) : Feasible φ (w :: writes)

namespace Feasible

variable {φ : View} {writes : List Write}

/-- Writes apart from a path neither block nor clear it. -/
theorem clear_graftAll_iff (h : Feasible φ writes) {path : FieldPath}
    (hpath : ∀ w ∈ writes, w.path.Incomparable path) :
    View.Clear (Write.graftAll writes φ) path ↔ φ.Clear path := by
  induction h with
  | nil φ => exact Iff.rfl
  | cons clear others ih =>
    obtain ⟨hw, hpath⟩ := List.forall_mem_cons.mp hpath
    exact (ih hpath).trans (View.clear_graft_iff hw clear _)

/-- A write that parts from them all, and to which the way is clear, can as well be made first. -/
theorem graft (h : Feasible φ writes) {w : Write} (hclear : φ.Clear w.path)
    (hparted : ∀ w' ∈ writes, w.path.Incomparable w'.path) : Feasible (w.graft φ) writes := by
  induction h with
  | nil φ => exact .nil _
  | @cons φ other writes clear others ih =>
    obtain ⟨hother, hothers⟩ := List.forall_mem_cons.mp hparted
    have hstill := ih ((View.clear_graft_iff hother.symm clear _).mpr hclear) hothers
    have hcomm : w.graft (other.graft φ) = other.graft (w.graft φ) :=
      View.graft_comm hother _ _ φ
    exact .cons ((View.clear_graft_iff hother hclear _).mpr clear) (hcomm ▸ hstill)

end Feasible

namespace Fields

variable {fields : Fields} {others : List Write} (h : (Value.object fields).Distinct)
  (hothers : ∀ w ∈ others, w.Distinct) (hfeasible : Feasible (Value.object fields).view others)
include h hothers hfeasible

/-- **Whether a path can be set does not turn on writes elsewhere.** -/
theorem checkAssign_performAll_iff {path : FieldPath}
    (hpath : ∀ w ∈ others, w.path.Incomparable path) :
    (Value.object (fields.performAll others)).checkAssign path = .ok () ↔
      (Value.object fields).checkAssign path = .ok () := by
  rw [Value.checkAssign_eq_ok_iff, Value.checkAssign_eq_ok_iff, view_performAll h hothers]
  exact hfeasible.clear_graftAll_iff hpath

/-- Nor does it once a further write has been made, to which the way was clear. -/
theorem checkAssign_perform_performAll_iff {w : Write} {path : FieldPath}
    (hclear : (Value.object fields).view.Clear w.path)
    (hw : ∀ w' ∈ others, w.path.Incomparable w'.path)
    (hpath : ∀ w' ∈ others, w'.path.Incomparable path) :
    (Value.object ((fields.performAll others).perform w)).checkAssign path = .ok () ↔
      (Value.object (fields.perform w)).checkAssign path = .ok () := by
  rw [Value.checkAssign_eq_ok_iff, Value.checkAssign_eq_ok_iff,
    view_perform (distinct_performAll h hothers), view_performAll h hothers, view_perform h,
    Write.graft_graftAll hw]
  exact (hfeasible.graft hclear hw).clear_graftAll_iff hpath

end Fields

end DecisionFlow
