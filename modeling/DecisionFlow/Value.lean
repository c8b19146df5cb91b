import DecisionFlow.Number

/-!
# Values

Documents, configurations and payloads are all trees of one kind.

- `Value`: null, booleans, numbers, text, arrays and objects.
- `Fields`: the fields of an object, in order. `Fields.insert` keeps the place of a field that is
  already there; `Fields.swapRemove` fills the gap with the last field.
- `Value.same`: equality of values, in which the order of an object's fields does not count.
- `Value.kind`: what a value is, for messages.
- `Value.depth`: how deep arrays and objects nest.
-/

namespace DecisionFlow

/-- A tree of data. The fields of an object are kept in order. -/
inductive Value where
  | null
  | bool (b : Bool)
  | number (n : Number)
  | text (s : String)
  | array (items : List Value)
  | object (fields : List (String × Value))
deriving Inhabited

/-- The fields of an object, in order. The functions of this library keep names distinct, except
where a document is read with its repeated fields. -/
abbrev Fields := List (String × Value)

/-! ## Fields of an object -/

namespace Fields

/-- The value of the first field called `name`. -/
def get? : Fields → String → Option Value
  | [], _ => none
  | (key, value) :: rest, name => if key = name then some value else get? rest name

/-- Whether there is a field called `name`. -/
def has (fields : Fields) (name : String) : Bool := (fields.get? name).isSome

/-- Sets a field: in its place if there is one of that name, at the end otherwise. -/
def insert : Fields → String → Value → Fields
  | [], name, value => [(name, value)]
  | (key, old) :: rest, name, value =>
    if key = name then (key, value) :: rest else (key, old) :: insert rest name value

/-- The field list without the field called `name`: the last field moves into its place. -/
def swapRemove : Fields → String → Fields
  | [], _ => []
  | (key, value) :: rest, name =>
    if key = name then rest.getLast?.toList ++ rest.dropLast
    else (key, value) :: swapRemove rest name

/-- The fields not called `name`, in order. -/
def without (fields : Fields) (name : String) : Fields := fields.filter (·.1 != name)

/-- The names, in order. -/
def names (fields : Fields) : List String := fields.map (·.1)

/-- Whether some name occurs twice. -/
def repeats : Fields → Bool
  | [] => false
  | (key, _) :: rest => (names rest).contains key || repeats rest

/-- Collects fields one by one: a later value of a name replaces an earlier one in its place. -/
def ofList (fields : List (String × Value)) : Fields :=
  fields.foldl (fun kept field => Fields.insert kept field.1 field.2) []

@[simp] theorem get?_nil (name : String) : get? [] name = none := rfl

theorem get?_cons (key name : String) (value : Value) (rest : Fields) :
    get? ((key, value) :: rest) name = if key = name then some value else get? rest name := rfl

@[simp] theorem get?_insert_self (fields : Fields) (name : String) (value : Value) :
    get? (insert fields name value) name = some value := by
  induction fields with
  | nil => simp [insert, get?]
  | cons field rest ih =>
    obtain ⟨key, old⟩ := field
    by_cases h : key = name
    · simp [insert, get?, h]
    · simp [insert, get?, h, ih]

theorem get?_insert_of_ne (fields : Fields) {name other : String} (value : Value)
    (h : name ≠ other) : get? (insert fields name value) other = get? fields other := by
  induction fields with
  | nil => simp [insert, get?, h]
  | cons field rest ih =>
    obtain ⟨key, old⟩ := field
    by_cases hk : key = name
    · subst hk; simp [insert, get?, h]
    · by_cases ho : key = other
      · subst ho; simp [insert, get?, hk]
      · simp [insert, get?, hk, ho, ih]

end Fields

namespace Value

/-! ## Equality -/

mutual

/-- Equality of values: objects are equal when they have the same names with equal values, in
whatever order. -/
def same : Value → Value → Bool
  | .null, .null => true
  | .bool a, .bool b => a == b
  | .number m, .number n => m.same n
  | .text s, .text t => s == t
  | .array as, .array bs => sameItems as bs
  | .object fs, .object gs => fs.length == gs.length && sameFields fs gs
  | _, _ => false

/-- Equality of two lists of items, place by place. -/
def sameItems : List Value → List Value → Bool
  | [], [] => true
  | a :: as, b :: bs => a.same b && sameItems as bs
  | _, _ => false

/-- Whether every field on the left is on the right with an equal value. -/
def sameFields : List (String × Value) → List (String × Value) → Bool
  | [], _ => true
  | (name, value) :: rest, fields =>
    (match Fields.get? fields name with
      | some other => value.same other
      | none => false)
    && sameFields rest fields

end

/-! ## Kinds -/

/-- What a value is. -/
inductive Kind where
  | null
  | boolean
  | number
  | string
  | array
  | object
deriving DecidableEq, Repr

/-- The name of a kind. -/
def Kind.name : Kind → String
  | .null => "null"
  | .boolean => "boolean"
  | .number => "number"
  | .string => "string"
  | .array => "array"
  | .object => "object"

/-- The name of a kind as a noun phrase. -/
def Kind.phrase : Kind → String
  | .null => "null"
  | .boolean => "a boolean"
  | .number => "a number"
  | .string => "a string"
  | .array => "an array"
  | .object => "an object"

/-- What a value is. -/
def kind : Value → Kind
  | .null => .null
  | .bool _ => .boolean
  | .number _ => .number
  | .text _ => .string
  | .array _ => .array
  | .object _ => .object

/-! ## Views and measures -/

/-- The text, if the value is one. -/
def text? : Value → Option String
  | .text s => some s
  | _ => none

/-- The number, if the value is one. -/
def number? : Value → Option Number
  | .number n => some n
  | _ => none

/-- The fields, if the value is an object. -/
def fields? : Value → Option Fields
  | .object fields => some fields
  | _ => none

/-- An object with one field. -/
def single (name : String) (value : Value) : Value := .object [(name, value)]

mutual

/-- How deep arrays and objects nest: a scalar has depth zero. -/
def depth : Value → Nat
  | .array items => 1 + depthItems items
  | .object fields => 1 + depthFields fields
  | _ => 0

/-- The greatest depth among the items. -/
def depthItems : List Value → Nat
  | [] => 0
  | item :: rest => max item.depth (depthItems rest)

/-- The greatest depth among the values of the fields. -/
def depthFields : List (String × Value) → Nat
  | [] => 0
  | (_, value) :: rest => max value.depth (depthFields rest)

end

end Value

end DecisionFlow
