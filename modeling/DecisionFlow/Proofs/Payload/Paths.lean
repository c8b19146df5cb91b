import DecisionFlow.Proofs.Payload.Assigning

/-!
# Paths and the key that they begin with

What is read or written at a path of a payload turns on what the payload holds under the first
segment of the path, and only that is replaced.

- `Value.lookup_object`, `Value.checkAssign_congr`: what is read.
- `Value.modifyHeld`, `Value.assignHeld`, `Value.takeHeld`: what is written, as changes of what is
  held under the first segment.
- `Fields.modifyAt_eq`, `Fields.assignAt_eq`, `Fields.takeAt_eq`: the functions on fields through
  these.
- `Value.modify?_object`, `Value.assign_object`, `Value.take_object`: the functions on payloads.
-/

namespace DecisionFlow

/-! ## Reading -/

/-- A path is followed from the field that its first segment names. -/
theorem Value.lookup_object (fields : Fields) (path : FieldPath) :
    (Value.object fields).lookup path = (fields.get? path.first).bind (·.lookupAll path.rest) := by
  rw [lookup, FieldPath.segments, lookupAll]

/-- The check looks at nothing but the field that is named first. -/
theorem Fields.checkAssignAt_congr {fields fields' : Fields} {name : String}
    (h : fields.get? name = fields'.get? name) (rest : List String) :
    fields.checkAssignAt name rest = fields'.checkAssignAt name rest := by
  cases rest with
  | nil => rw [checkAssignAt, checkAssignAt]
  | cons next rest => rw [checkAssignAt, checkAssignAt, h]

/-- Whether a path can be set is a matter of what is held under its first segment. -/
theorem Value.checkAssign_congr {fields fields' : Fields} {path : FieldPath}
    (h : fields.get? path.first = fields'.get? path.first) :
    (Value.object fields).checkAssign path = (Value.object fields').checkAssign path := by
  simp only [checkAssign, requireObject, bind, Except.bind]
  rw [Fields.checkAssignAt_congr h]

/-! ## Writing -/

namespace Value

/-- What is held under the first segment of a path, with the value at the end of the path changed;
none if the path leads nowhere. -/
def modifyHeld (f : Value → Value) : List String → Option Value → Option Value
  | [], held => held.map f
  | next :: rest, some (.object inner) => (Fields.modifyAt f next rest inner).map .object
  | _ :: _, _ => none

/-- What is held under the first segment `name` of a path once the value at the end of the path is
set. -/
def assignHeld (value : Value) (name : String) :
    List String → Option Value → Except String Value
  | [], _ => .ok value
  | next :: rest, none => (Fields.assignAt value next rest []).map .object
  | next :: rest, some (.object inner) => (Fields.assignAt value next rest inner).map .object
  | _ :: _, some _ => .error name

/-- The value at the end of a path, with what is then held under the first segment. -/
def takeHeld : List String → Option Value → Option (Value × Option Value)
  | [], held => held.map (·, none)
  | next :: rest, some (.object inner) =>
    (Fields.takeAt next rest inner).map fun (value, inner) => (value, some (.object inner))
  | _ :: _, _ => none

end Value

namespace Fields

variable {fields : Fields} {name : String} {rest : List String}

/-- A change at a path is a change of what the first field holds. -/
theorem modifyAt_eq (f : Value → Value) :
    fields.modifyAt f name rest
      = (Value.modifyHeld f rest (fields.get? name)).map (fields.insert name) := by
  cases rest with
  | nil => rw [modifyAt, Value.modifyHeld, Option.map_map]; rfl
  | cons next rest =>
    rw [modifyAt]
    cases fields.get? name with
    | none => rfl
    | some held =>
      cases held with
      | object inner => rw [Value.modifyHeld, Option.map_map]; rfl
      | _ => rfl

/-- Setting a value is a change of what the first field holds, if it holds anything. -/
theorem assignAt_eq (value : Value) :
    fields.assignAt value name rest
      = (Value.assignHeld value name rest (fields.get? name)).map (fields.insert name) := by
  have hmap : ∀ x : Except String Fields, (x.map Value.object).map (fields.insert name)
      = x.map fun inner => fields.insert name (.object inner) := fun x => by cases x <;> rfl
  cases rest with
  | nil => rw [assignAt, Value.assignHeld]; rfl
  | cons next rest =>
    rw [assignAt]
    cases fields.get? name with
    | none => rw [Value.assignHeld, hmap]
    | some held =>
      cases held with
      | object inner => rw [Value.assignHeld, hmap]
      | _ => rfl

/-- Taking a value is a change of what the first field holds, which may be lost with it. -/
theorem takeAt_eq :
    fields.takeAt name rest
      = (Value.takeHeld rest (fields.get? name)).map fun (value, left) =>
          (value, fields.put name left) := by
  cases rest with
  | nil => rw [takeAt, Value.takeHeld, Option.map_map]; rfl
  | cons next rest =>
    rw [takeAt]
    cases fields.get? name with
    | none => rfl
    | some held =>
      cases held with
      | object inner => rw [Value.takeHeld, Option.map_map]; rfl
      | _ => rfl

end Fields

/-! ## Payloads -/

namespace Value

variable (fields : Fields) (path : FieldPath)

theorem modify?_object (f : Value → Value) :
    (Value.object fields).modify? path f
      = (modifyHeld f path.rest (fields.get? path.first)).map fun held =>
          .object (fields.insert path.first held) := by
  rw [modify?, Fields.modifyAt_eq, Option.map_map]
  rfl

/-- Setting a value in an object touches the field that is named first. -/
theorem assign_object (value : Value) :
    (Value.object fields).assign path value
      = ((assignHeld value path.first path.rest (fields.get? path.first)).map fun held =>
          .object (fields.insert path.first held)).mapError (.blocked path.text) := by
  rw [assign_object_eq, Fields.assignAt_eq]
  cases assignHeld value path.first path.rest (fields.get? path.first) with
  | ok held => rfl
  | error segment => rfl

/-- Taking a value from an object touches the field that is named first. -/
theorem take_object :
    (Value.object fields).take path
      = .ok ((takeHeld path.rest (fields.get? path.first)).elim (none, .object fields) fun taken =>
          (some taken.1, .object (fields.put path.first taken.2))) := by
  simp only [take, requireObject, bind, Except.bind, Fields.takeAt_eq]
  cases takeHeld path.rest (fields.get? path.first) with
  | some taken => rfl
  | none => rfl

end Value

end DecisionFlow
