/-!
# Statements

The closed set of words that a flow document is built from. Every other name in a body is the kind
of a consumer.

- `Statement`: the seven words, with `Statement.name` and `Statement.lookup` between word and text.
- `Statement.permitted`: which words may stand directly below a word.
- `Statement.summary`: what each word means, in one line.
-/

namespace DecisionFlow

/-- One of the seven words of the flow grammar. -/
inductive Statement where
  | ifHolds
  | ifNot
  | allOf
  | anyOf
  | condition
  | thenBody
  | elseBody
deriving DecidableEq, Repr

namespace Statement

/-- Every statement, in grammar order. -/
def all : List Statement := [.ifHolds, .ifNot, .allOf, .anyOf, .condition, .thenBody, .elseBody]

/-- The word as it stands in a document. -/
def name : Statement → String
  | .ifHolds => "if"
  | .ifNot => "ifNot"
  | .allOf => "allOf"
  | .anyOf => "anyOf"
  | .condition => "condition"
  | .thenBody => "then"
  | .elseBody => "else"

/-- The statement of a word; letter case counts. -/
def lookup (word : String) : Option Statement := all.find? (·.name = word)

/-- Whether the statement yields a condition of a branch. -/
def isCondition : Statement → Bool
  | .condition | .allOf | .anyOf => true
  | _ => false

/-- Whether the statement is a branch. -/
def isBranch : Statement → Bool
  | .ifHolds | .ifNot => true
  | _ => false

/-- Whether the statement is a body of a branch. -/
def isBody : Statement → Bool
  | .thenBody | .elseBody => true
  | _ => false

/-- The statements allowed directly below. Bodies take consumers besides. -/
def permitted : Statement → List Statement
  | .ifHolds | .ifNot => [.condition, .allOf, .anyOf, .thenBody, .elseBody]
  | .allOf | .anyOf => [.condition, .allOf, .anyOf]
  | .thenBody | .elseBody => [.ifHolds, .ifNot]
  | .condition => []

/-- What the statement means, in one line. -/
def summary : Statement → String
  | .ifHolds => "run 'then' when the condition holds, otherwise 'else'"
  | .ifNot => "run 'then' when the condition does not hold, otherwise 'else'"
  | .allOf => "true when every member is true (empty: true)"
  | .anyOf => "true when any member is true (empty: false)"
  | .condition => "externally-typed predicate selected by its type discriminator"
  | .thenBody => "consumers and branches run when the branch is taken"
  | .elseBody => "consumers and branches run when the branch is not taken"

instance : ToString Statement := ⟨name⟩

@[simp] theorem lookup_name (s : Statement) : lookup s.name = some s := by
  cases s <;> decide

theorem lookup_eq_some_iff {word : String} {s : Statement} :
    lookup word = some s ↔ word = s.name := by
  constructor
  · intro h
    have := List.find?_some h
    simpa [eq_comm] using this
  · rintro rfl
    exact lookup_name s

end Statement

end DecisionFlow
