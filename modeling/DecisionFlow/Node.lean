import DecisionFlow.Failure
import DecisionFlow.Json.Print

/-!
# Configured nodes

Predicates and consumers come from outside the grammar. A flow holds each of them as a `Node`: what
it does, together with the kind and the configuration it was built from. The latter two are what a
flow is written from.

- `Node`, `PredicateNode`, `ConsumerNode`.
- `Value.configuration`: the configuration that a value describes.
-/

namespace DecisionFlow

/-- A behaviour with the kind and the configuration it was built from. -/
structure Node (B : Type) where
  /-- The name of the node's type. -/
  kind : String
  /-- The fields that configure the node. -/
  config : Fields
  /-- What the node does. -/
  behaviour : B

/-- A node that tests a payload. -/
abbrev PredicateNode (T : Type) := Node (Predicate T)

/-- A node that changes a payload. -/
abbrev ConsumerNode (T : Type) := Node (Consumer T)

/-- The configuration that a value describes: the fields of an object, or none for null. -/
def Value.configuration : Value → Except Failure Fields
  | .object fields => .ok fields
  | .null => .ok []
  | other =>
    .error (.stated ("node configuration must serialize to an object, got " ++ Json.compact other))

end DecisionFlow
