import DecisionFlow.Builtin.Change
import DecisionFlow.Engine

/-!
# The built-in types

- `Builtin.conditions`, `Builtin.consumers`: the registries of the built-in tests and changes.
- `Builtin.engine`: the engine of the built-in types.
-/

namespace DecisionFlow.Builtin

/-- The built-in condition types. -/
def conditions : Registry (Predicate Value) := .ofList .condition Test.types

/-- The built-in consumer types. -/
def consumers : Registry (Consumer Value) := .ofList .consumer Change.types

/-- The engine of the built-in types with the usual settings. -/
def engine : Engine Value := ⟨conditions, consumers, {}⟩

end DecisionFlow.Builtin
