import DecisionFlow.Proofs.Document.Comparing

/-!
# Documents that are read alike

Two documents are read alike if they list their children alike, and so do the children, down to the
configurations.

- `ReadAlike`: readings in which the same is read, or the same problem is found, wherever.
- `Resemblance`: a relation between nodes, such that related nodes list related children.
- `Engine.readAlike_read`: documents that resemble each other are read alike.
-/

namespace DecisionFlow

/-- The engine with objects taken for lists of fields, or not. -/
def Engine.withObjectShape {T : Type} (engine : Engine T) (accept : Bool) : Engine T :=
  { engine with settings := { engine.settings with acceptObjectShape := accept } }

namespace Document

/-- Errors that differ in their places only. -/
def SameProblem (e e' : Error) : Prop := e.problem = e'.problem

variable {T : Type}

/-- Two readings in which the same is read, but for the places of errors. The first may stop with a
problem that is excused. -/
abbrev ReadAlike (excused : Problem → Prop) {α : Type} (x y : Except Error α) : Prop :=
  Agree (fun e => excused e.problem) SameProblem Eq x y

/-- Without excuses, readings are alike if they are the same apart from places. -/
theorem ReadAlike.mapError_eq {α : Type} {x y : Except Error α}
    (h : ReadAlike (fun _ => False) x y) : x.mapError Error.problem = y.mapError Error.problem := by
  cases h with
  | ok hab => rw [hab]
  | error he => exact congrArg Except.error he
  | stopped hstop => exact hstop.elim

theorem ReadAlike.eq_ok_iff {α : Type} {x y : Except Error α} (h : ReadAlike (fun _ => False) x y)
    {a : α} : x = .ok a ↔ y = .ok a := by
  cases h with
  | ok hab => rw [hab]
  | error => exact iff_of_false nofun nofun
  | stopped hstop => exact hstop.elim

/-- A relation between nodes that stand at a position: related nodes list related children, or fail
alike to do so. Objects may count as lists of fields on one side and not on the other. -/
def Resemblance (excused : Problem → Prop) (objects objects' : Bool)
    (R : Position → Value → Value → Prop) : Prop :=
  ∀ position v w, R position v w →
    Agree excused Eq (List.Forall₂ (Below R position)) (listed objects v) (listed objects' w)

variable {excused : Problem → Prop} {objects objects' : Bool}
  {R : Position → Value → Value → Prop}

/-- Any two places correspond: only the problems of errors are compared. -/
abbrev Anywhere (_ _ : Locator) : Prop := True

/-- Children agree if the fields agree that they are listed from. -/
theorem agree_of_fieldsOf {position : Position} {x y : Except Error (List Child)}
    (h : Agree excused Eq (List.Forall₂ (Below R position)) (fieldsOf x) (fieldsOf y)) :
    Agree (fun e => excused e.problem) (Corresponds Anywhere)
      (List.Forall₂ (BelowAt Anywhere R position)) x y := by
  cases x with
  | error e =>
    cases y with
    | error e' =>
      cases h with
      | error hproblem => exact .error ⟨hproblem, trivial⟩
      | stopped hstop => exact .stopped hstop
    | ok cs' =>
      cases h with
      | stopped hstop => exact .stopped hstop
  | ok cs =>
    cases y with
    | error e' => cases h
    | ok cs' =>
      cases h with
      | ok hfields =>
        rw [List.forall₂_map_left_iff, List.forall₂_map_right_iff] at hfields
        exact .ok (hfields.imp fun _ _ hfield => ⟨hfield, trivial⟩)

theorem readAlike_located {α : Type} {path path' : Locator} (x : Except BuildProblem α) :
    Compared (fun e => excused e.problem) Anywhere (located path x) (located path' x) := by
  cases x with
  | error e => exact .error ⟨rfl, trivial⟩
  | ok a => exact .ok rfl

/-- Nodes that resemble each other are read by one engine, but for its taking objects for lists. -/
theorem Resemblance.comparable (hR : Resemblance excused objects objects' R) (engine : Engine T) :
    Comparable (fun e => excused e.problem) Anywhere R (engine.withObjectShape objects)
      (engine.withObjectShape objects') where
  discriminator := rfl
  maxDepth := rfl
  conditions _ _ _ _ _ := readAlike_located _
  consumers _ _ _ _ _ := readAlike_located _
  children position v w path path' h _ := by
    refine agree_of_fieldsOf ?_
    rw [← listed_eq, ← listed_eq]
    exact hR position v w h

end Document

/-- **Documents that resemble each other are read alike**: as the same flow, or with the same
problem. -/
theorem Engine.readAlike_read {T : Type} (engine : Engine T) {excused : Document.Problem → Prop}
    {objects objects' : Bool} {R : Document.Position → Value → Value → Prop}
    (hR : Document.Resemblance excused objects objects' R) {v w : Value} (h : R .body v w) :
    Document.ReadAlike excused ((engine.withObjectShape objects).read v)
      ((engine.withObjectShape objects').read w) :=
  ((hR.comparable engine).agree_read trivial h).mono fun _ _ he => he.problem

end DecisionFlow
