import DecisionFlow.Value

/-!
# Locators

A locator points at a node of a document: a list of steps from the root, each into an item of an
array or into a field of an object.

- `Locator`, `Locator.text`: a locator and its written form, such as `$[0].if[1].then`.
- `Value.at?`: the node that a locator points at.
-/

namespace DecisionFlow

/-- One step of a locator. -/
inductive Locator.Part where
  /-- Into the item of an array at this index. -/
  | index (i : Nat)
  /-- Into the field of an object with this name. -/
  | field (name : String)
deriving DecidableEq, Repr

/-- The way from the root of a document to one of its nodes. -/
abbrev Locator := List Locator.Part

namespace Locator

/-- The written form of one step. -/
def Part.text : Part → String
  | .index i => "[" ++ toString i ++ "]"
  | .field name => "." ++ name

/-- The written form of a locator; the root is `$`. -/
def text (path : Locator) : String := path.foldl (fun written part => written ++ part.text) "$"

/-- The locator of an item below `path`. -/
def item (path : Locator) (i : Nat) : Locator := path ++ [.index i]

/-- The locator of a field below `path`. -/
def field (path : Locator) (name : String) : Locator := path ++ [.field name]

/-- The locator of the only field of an item below `path`: how an array of single-field objects is
addressed. -/
def entry (path : Locator) (i : Nat) (name : String) : Locator := (path.item i).field name

end Locator

namespace Value

/-- The node one step below. -/
def child? : Value → Locator.Part → Option Value
  | .array items, .index i => items[i]?
  | .object fields, .field name => Fields.get? fields name
  | _, _ => none

/-- The node that a locator points at, if there is one. -/
def at? (value : Value) (path : Locator) : Option Value := path.foldlM child? value

@[simp] theorem at?_nil (value : Value) : value.at? [] = some value := rfl

@[simp] theorem at?_append (value : Value) (path rest : Locator) :
    value.at? (path ++ rest) = (value.at? path).bind (·.at? rest) := by
  simp [at?, List.foldlM_append]

end Value

end DecisionFlow
