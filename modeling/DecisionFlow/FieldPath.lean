import DecisionFlow.Failure

/-!
# Field paths

A field of a payload is named by a dotted path, which leads through objects nested in one another.

- `FieldPath`: the segments of a path; there is always a first one. Segments may be empty.
- `lookup`: the value at a path.
- `modify?`: changes the value at a path, if there is one.
- `assignInPlace`, `assign`: sets the value at a path and creates the objects that are missing on
  the way.
- `checkAssign`: whether `assign` would succeed.
- `take`: removes the value at a path.
-/

namespace DecisionFlow

/-- A dotted path: the names of fields, each inside the one before. -/
structure FieldPath where
  first : String
  rest : List String
deriving DecidableEq, Repr

namespace FieldPath

/-- Splits characters at the dots: the part before the first dot, and the others. -/
def split : List Char → List Char × List (List Char)
  | [] => ([], [])
  | c :: chars =>
    let (first, rest) := split chars
    if c = '.' then ([], first :: rest) else (c :: first, rest)

/-- Reads a dotted path. -/
def ofText (s : String) : FieldPath :=
  let (first, rest) := split s.toList
  ⟨String.ofList first, rest.map String.ofList⟩

/-- The segments, in order. -/
def segments (path : FieldPath) : List String := path.first :: path.rest

/-- The path as dotted text. -/
def text (path : FieldPath) : String := ".".intercalate path.segments

/-- Two paths of which neither leads through or ends at the other. -/
def Incomparable (p q : FieldPath) : Prop :=
  ¬ p.segments <+: q.segments ∧ ¬ q.segments <+: p.segments

instance (p q : FieldPath) : Decidable (Incomparable p q) :=
  inferInstanceAs (Decidable (¬ _ ∧ ¬ _))

end FieldPath

/-! ## Reading -/

namespace Value

/-- The value reached by entering the fields named by the segments. -/
def lookupAll : Value → List String → Option Value
  | value, [] => some value
  | .object fields, name :: rest => (Fields.get? fields name).bind (lookupAll · rest)
  | _, _ :: _ => none

/-- The value at a path. -/
def lookup (payload : Value) (path : FieldPath) : Option Value := payload.lookupAll path.segments

end Value

/-! ## Writing -/

namespace Fields

/-- Changes the value at the end of a path; none if the path leads nowhere. -/
def modifyAt (f : Value → Value) : String → List String → Fields → Option Fields
  | name, [], fields => (fields.get? name).map fun value => fields.insert name (f value)
  | name, next :: rest, fields =>
    match fields.get? name with
    | some (.object inner) =>
      (modifyAt f next rest inner).map fun inner => fields.insert name (.object inner)
    | _ => none

/-- Sets the value at the end of a path. Each object on the way is entered in turn, and one that is
missing is created first. A walk that is stopped leaves what it has created; the error is the
segment that holds something else than an object. -/
def assignInPlace (value : Value) :
    String → List String → Fields → EStateM.Result String Fields Unit
  | name, [], fields => .ok () (fields.insert name value)
  | name, next :: rest, fields =>
    let entered := if fields.has name then fields else fields.insert name (.object [])
    match entered.get? name with
    | some (.object inner) =>
      match assignInPlace value next rest inner with
      | .ok () inner => .ok () (entered.insert name (.object inner))
      | .error segment inner => .error segment (entered.insert name (.object inner))
    | _ => .error name entered

/-- Whether the value at the end of a path can be set: no segment before the last holds something
else than an object. -/
def checkAssignAt : String → List String → Fields → Except String Unit
  | _, [], _ => .ok ()
  | name, next :: rest, fields =>
    match fields.get? name with
    | none => .ok ()
    | some (.object inner) => checkAssignAt next rest inner
    | some _ => .error name

/-- Removes the value at the end of a path and returns it with the other fields; none if the path
leads nowhere. -/
def takeAt : String → List String → Fields → Option (Value × Fields)
  | name, [], fields => (fields.get? name).map fun value => (value, fields.swapRemove name)
  | name, next :: rest, fields =>
    match fields.get? name with
    | some (.object inner) =>
      (takeAt next rest inner).map fun (value, inner) => (value, fields.insert name (.object inner))
    | _ => none

end Fields

namespace Value

/-- The fields of a payload that has to be an object. -/
def requireObject : Value → Except Failure Fields
  | .object fields => .ok fields
  | other => .error (.expectedObject other.kind)

/-- The payload with the value at a path changed; none if there is no value. -/
def modify? (payload : Value) (path : FieldPath) (f : Value → Value) : Option Value :=
  match payload with
  | .object fields => (Fields.modifyAt f path.first path.rest fields).map .object
  | _ => none

/-- Sets the value at a path of a payload. Objects missing on the way are created. What is left if
that fails is the payload as the walk left it. -/
def assignInPlace (path : FieldPath) (value : Value) : Consumer Value := fun payload =>
  match payload with
  | .object fields =>
    match Fields.assignInPlace value path.first path.rest fields with
    | .ok () changed => .ok () (.object changed)
    | .error segment left => .error (.blocked path.text segment) (.object left)
  | other => .error (.expectedObject other.kind) other

/-- The payload with the value at a path set. -/
def assign (payload : Value) (path : FieldPath) (value : Value) : Except Failure Value :=
  match assignInPlace path value payload with
  | .ok () after => .ok after
  | .error failure _ => .error failure

/-- Fails as `assign` would. -/
def checkAssign (payload : Value) (path : FieldPath) : Except Failure Unit := do
  let fields ← payload.requireObject
  match Fields.checkAssignAt path.first path.rest fields with
  | .ok () => return ()
  | .error segment => throw (.blocked path.text segment)

/-- The value at a path, if there is one, and the payload without it. -/
def take (payload : Value) (path : FieldPath) : Except Failure (Option Value × Value) := do
  let fields ← payload.requireObject
  match Fields.takeAt path.first path.rest fields with
  | some (value, fields) => return (some value, .object fields)
  | none => return (none, .object fields)

end Value

end DecisionFlow
