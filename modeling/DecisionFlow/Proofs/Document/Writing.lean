import DecisionFlow.Document.Write
import DecisionFlow.Proofs.Flow.Sequential

/-!
# What is written

The writer works entry by entry, and nested sequences leave no trace in what it writes.

- `ofField`, `ofFields`: single-field objects and arrays of them, the only shape that is written.
- `writeConditions_eq_map`, `writeSteps_eq_flatMap`: lists are written member by member.
- `writeBody_compose`: composing steps does not change what is written.
- `writeStep_branch`: how a branch is written.
-/

namespace DecisionFlow.Document

variable {T : Type} {discriminator : String}

/-- A field as an object of its own. -/
def ofField (field : String × Value) : Value := .single field.1 field.2

/-- Fields as an array of single-field objects. -/
def ofFields (fields : Fields) : Value := .array (fields.map ofField)

theorem writeConditions_eq_map (members : List (Condition T)) :
    writeConditions discriminator members = members.map (writeCondition discriminator) := by
  induction members with
  | nil => rfl
  | cons member rest ih => rw [writeConditions, ih, List.map_cons]

/-- Steps are written one after another. -/
theorem writeSteps_eq_flatMap (steps : List (Step T)) :
    writeSteps discriminator steps = steps.flatMap (writeStep discriminator) := by
  induction steps with
  | nil => rfl
  | cons step rest ih => rw [writeSteps, ih, List.flatMap_cons]

theorem writeBody_eq_elim (body : Option (Step T)) :
    writeBody discriminator body = body.elim [] (writeStep discriminator) := by
  cases body <;> rw [writeBody] <;> rfl

/-- Writing is one of the walks that take steps in order. -/
theorem sequential_writeStep :
    Sequential (· ++ ·) [] (writeStep (T := T) discriminator) (writeSteps discriminator) where
  assoc := List.append_assoc
  unit_op := List.nil_append
  op_unit := List.append_nil
  nil := by rw [writeSteps]
  cons step rest := by rw [writeSteps]
  sequence steps := by rw [writeStep]

/-- Composing steps does not change what is written. -/
theorem writeBody_compose (steps : List (Step T)) :
    writeBody discriminator (Step.compose steps) = writeSteps discriminator steps := by
  rw [writeBody_eq_elim, sequential_writeStep.compose]

/-- The `else` child of a branch, if it has that side. -/
def elseField (discriminator : String) : Option (Step T) → Fields
  | none => []
  | some step => [(Statement.elseBody.name, .array (writeStep discriminator step))]

/-- A branch is written with its condition first, then `then`, and `else` if it has that side. -/
theorem writeStep_branch (negated : Bool) (condition : Condition T)
    (thenBody elseBody : Option (Step T)) :
    writeStep discriminator (.branch negated condition thenBody elseBody)
      = [ofField ((Branch.statementOf negated).name,
          .array (writeCondition discriminator condition
            :: ofField (Statement.thenBody.name, .array (writeBody discriminator thenBody))
            :: (elseField discriminator elseBody).map ofField))] := by
  cases elseBody with
  | none => rw [writeStep]; rfl
  | some step => rw [writeStep, writeBody]; rfl

end DecisionFlow.Document
