import DecisionFlow.FieldPath
import DecisionFlow.Proofs.Payload.Fields

/-!
# Setting a value is all or nothing

A value is set by walking along its path, and an object that is missing is created before it is
entered. Inside such an object nothing can stop the walk any more. A walk that is stopped has
therefore created nothing yet, and leaves the payload as it was.

- `Fields.assignAt`: what setting a value comes to, by recursion on the path.
- `Fields.assignInPlace_eq_assignAt`: **the walk comes to this, or leaves the fields as they were.**
- `Fields.checkAssignAt_eq_assignAt`: the check looks for what would stop the walk.
- `Value.assignInPlace_eq_assign`, `Value.checkAssign_eq_assign`: the same for payloads.
- `Value.assignInPlace_all_or_nothing`: **a value is set where the check says so, and nothing
  happens otherwise.**
-/

namespace DecisionFlow

namespace Fields

variable {fields : Fields} {name : String} {rest : List String} {value : Value}

/-- The fields with the value at the end of a path set. The error is the segment that holds
something else than an object. -/
def assignAt (value : Value) : String → List String → Fields → Except String Fields
  | name, [], fields => .ok (fields.insert name value)
  | name, next :: rest, fields =>
    match fields.get? name with
    | none => (assignAt value next rest []).map fun inner => fields.insert name (.object inner)
    | some (.object inner) =>
      (assignAt value next rest inner).map fun inner => fields.insert name (.object inner)
    | some _ => .error name

/-- Nothing is in the way where there is nothing yet. -/
theorem exists_assignAt_nil (value : Value) (name : String) (rest : List String) :
    ∃ changed, assignAt value name rest [] = .ok changed := by
  induction rest generalizing name with
  | nil => exact ⟨_, rfl⟩
  | cons next rest ih =>
    obtain ⟨changed, hchanged⟩ := ih next
    rw [assignAt, get?_nil]
    dsimp only
    rw [hchanged]
    exact ⟨_, rfl⟩

/-- **The walk leaves the fields with the value set, or as they were.** -/
theorem assignInPlace_eq_assignAt :
    fields.assignInPlace value name rest
      = match fields.assignAt value name rest with
        | .ok changed => .ok () changed
        | .error segment => .error segment fields := by
  induction rest generalizing name fields with
  | nil => rfl
  | cons next rest ih =>
    rw [assignInPlace, assignAt, has]
    cases hheld : fields.get? name with
    | none =>
      -- The walk goes on in an object that it has created, and nothing stops it there.
      obtain ⟨changed, hchanged⟩ := exists_assignAt_nil value next rest
      dsimp only [Option.isSome]
      rw [if_neg Bool.false_ne_true, get?_insert_self]
      dsimp only
      rw [ih, hchanged]
      dsimp only [Except.map]
      rw [insert_insert]
    | some held =>
      dsimp only [Option.isSome]
      rw [if_pos rfl, hheld]
      cases held with
      | object inner =>
        dsimp only
        rw [ih]
        cases assignAt value next rest inner with
        | ok changed => rfl
        | error segment =>
          dsimp only [Except.map]
          rw [insert_eq_self hheld]
      | _ => rfl

theorem checkAssignAt_nil (name : String) (rest : List String) :
    checkAssignAt name rest [] = .ok () := by
  cases rest with
  | nil => rw [checkAssignAt]
  | cons next rest => rw [checkAssignAt, get?_nil]

/-- The check fails as setting a value would, whatever the value is. -/
theorem checkAssignAt_eq_assignAt (value : Value) :
    fields.checkAssignAt name rest = (fields.assignAt value name rest).map fun _ => () := by
  induction rest generalizing name fields with
  | nil => rfl
  | cons next rest ih =>
    rw [checkAssignAt, assignAt]
    cases fields.get? name with
    | none =>
      obtain ⟨changed, hchanged⟩ := exists_assignAt_nil value next rest
      dsimp only
      rw [hchanged]
      rfl
    | some held =>
      cases held with
      | object inner =>
        dsimp only
        rw [ih]
        cases assignAt value next rest inner <;> rfl
      | _ => rfl

end Fields

namespace Value

variable (path : FieldPath) (value : Value)

theorem assign_object_eq (fields : Fields) :
    (Value.object fields).assign path value
      = ((fields.assignAt value path.first path.rest).map Value.object).mapError
          (.blocked path.text) := by
  rw [assign, assignInPlace, Fields.assignInPlace_eq_assignAt]
  cases fields.assignAt value path.first path.rest <;> rfl

/-- Either the value is set, or the payload is as it was. -/
theorem assignInPlace_eq_assign (payload : Value) :
    assignInPlace path value payload
      = match payload.assign path value with
        | .ok after => .ok () after
        | .error failure => .error failure payload := by
  cases payload with
  | object fields =>
    rw [assign_object_eq, assignInPlace, Fields.assignInPlace_eq_assignAt]
    cases Fields.assignAt value path.first path.rest fields <;> rfl
  | _ => rfl

theorem checkAssign_eq_assign (payload : Value) :
    payload.checkAssign path = (payload.assign path value).map fun _ => () := by
  cases payload with
  | object fields =>
    simp only [checkAssign, requireObject, bind, Except.bind]
    rw [assign_object_eq, Fields.checkAssignAt_eq_assignAt value]
    cases Fields.assignAt value path.first path.rest fields <;> rfl
  | _ => rfl

/-- What a success leaves is an object with the value set in it, and it was an object before. -/
theorem assignInPlace_eq_ok_iff {payload after : Value} :
    assignInPlace path value payload = .ok () after ↔
      ∃ fields changed : Fields, payload = .object fields ∧
        fields.assignAt value path.first path.rest = .ok changed ∧ after = .object changed := by
  cases payload with
  | object fields =>
    rw [assignInPlace, Fields.assignInPlace_eq_assignAt]
    cases hassign : Fields.assignAt value path.first path.rest fields with
    | ok changed =>
      constructor
      · intro h
        cases h
        exact ⟨fields, changed, rfl, hassign, rfl⟩
      · rintro ⟨_, _, ⟨⟩, hchanged, rfl⟩
        cases hassign.symm.trans hchanged
        rfl
    | error segment =>
      refine iff_of_false nofun ?_
      rintro ⟨_, _, ⟨⟩, hchanged, -⟩
      cases hassign.symm.trans hchanged
  | _ => exact iff_of_false nofun (by rintro ⟨_, _, ⟨⟩, -, -⟩)

/-- The check succeeds exactly where a value is set. -/
theorem checkAssign_iff_exists_assignInPlace {payload : Value} :
    payload.checkAssign path = .ok () ↔
      ∃ after, assignInPlace path value payload = .ok () after := by
  rw [checkAssign_eq_assign path value, assignInPlace_eq_assign]
  cases payload.assign path value with
  | ok after => exact iff_of_true rfl ⟨after, rfl⟩
  | error failure => exact iff_of_false nofun nofun

/-- A failure is that of the check, and leaves the payload as it was. -/
theorem assignInPlace_eq_error_iff {payload after : Value} {failure : Failure} :
    assignInPlace path value payload = .error failure after ↔
      payload.checkAssign path = .error failure ∧ after = payload := by
  rw [checkAssign_eq_assign path value, assignInPlace_eq_assign]
  cases payload.assign path value with
  | ok after => exact iff_of_false nofun nofun
  | error failure' =>
    constructor
    · intro h
      cases h
      exact ⟨rfl, rfl⟩
    · rintro ⟨hfailure, rfl⟩
      cases hfailure
      rfl

/-- **Setting a value is all or nothing, and the check foresees it.** A value is set exactly where
the check succeeds, and what is left are then the fields with the value at the end of the path.
Otherwise setting it fails as the check does, with the same failure, and the payload is what it was:
no field has moved, and no object on the way has been created. -/
theorem assignInPlace_all_or_nothing (payload : Value) :
    (payload.checkAssign path = .ok () ↔
      ∃ after, assignInPlace path value payload = .ok () after) ∧
    (∀ after, assignInPlace path value payload = .ok () after ↔
      ∃ fields changed : Fields, payload = .object fields ∧
        fields.assignAt value path.first path.rest = .ok changed ∧ after = .object changed) ∧
    ∀ failure after, assignInPlace path value payload = .error failure after ↔
      payload.checkAssign path = .error failure ∧ after = payload :=
  ⟨checkAssign_iff_exists_assignInPlace path value, fun _ => assignInPlace_eq_ok_iff path value,
    fun _ _ => assignInPlace_eq_error_iff path value⟩

end Value

end DecisionFlow
