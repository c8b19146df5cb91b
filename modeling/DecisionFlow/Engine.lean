import DecisionFlow.Registry
import DecisionFlow.Settings

/-!
# Engines

An engine holds what is needed to read documents into flows: the registries of condition and
consumer types, and the settings.

- `Engine`, `Engine.build`: the settings of an engine are validated when it is built.
-/

namespace DecisionFlow

/-- The registries and settings by which documents are read. -/
structure Engine (T : Type) where
  /-- The types of conditions. -/
  conditions : Registry (Predicate T)
  /-- The types of consumers. -/
  consumers : Registry (Consumer T)
  settings : Settings

/-- The engine of these registries and settings, if the settings can be worked with. -/
def Engine.build {T : Type} (conditions : Registry (Predicate T))
    (consumers : Registry (Consumer T)) (settings : Settings) :
    Except Settings.Problem (Engine T) := do
  settings.validate
  return ⟨conditions, consumers, settings⟩

end DecisionFlow
