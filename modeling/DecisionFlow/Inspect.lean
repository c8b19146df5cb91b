import DecisionFlow.Engine
import DecisionFlow.Flow
import DecisionFlow.Json.Print
import DecisionFlow.Text.Quoted

/-!
# Texts for diagnostics

One-line texts that show how values, flows, registries and engines are made up. Texts are quoted,
and what a node does is left out.

- `Inspect.record`, `Inspect.list`, `Inspect.optional`: the layouts shared by all of them.
- `Value.inspect`, `Node.inspect`, `Condition.inspect`, `Step.inspect`, `Flow.inspect`,
  `Registry.inspect`, `Settings.inspect`, `Engine.inspect`.
-/

namespace DecisionFlow

namespace Inspect

/-- A name with fields. -/
def record (name : String) (fields : List (String × String)) : String :=
  name ++ " \x7b " ++ ", ".intercalate (fields.map fun (field, text) => field ++ ": " ++ text)
    ++ " \x7d"

/-- Items between brackets. -/
def list (items : List String) : String := "[" ++ ", ".intercalate items ++ "]"

/-- Entries between braces. -/
def map (entries : List (String × String)) : String :=
  "\x7b" ++ ", ".intercalate (entries.map fun (key, text) => Text.quoted key ++ ": " ++ text)
    ++ "\x7d"

/-- Something that may be missing. -/
def optional : Option String → String
  | none => "None"
  | some text => "Some(" ++ text ++ ")"

/-- A word for a format. -/
def format : Format → String
  | .json => "Json"
  | .yaml => "Yaml"

end Inspect

open Inspect

namespace Value

mutual

/-- A value, with the sort of each part. -/
def inspect : Value → String
  | .null => "Null"
  | .bool b => "Bool(" ++ toString b ++ ")"
  | .number n => "Number(" ++ Json.numberText n ++ ")"
  | .text s => "String(" ++ Text.quoted s ++ ")"
  | .array items => "Array " ++ list (inspectItems items)
  | .object fields => "Object " ++ Inspect.map (inspectFields fields)

/-- The items of an array. -/
def inspectItems : List Value → List String
  | [] => []
  | item :: rest => item.inspect :: inspectItems rest

/-- The fields of an object. -/
def inspectFields : List (String × Value) → List (String × String)
  | [] => []
  | (name, value) :: rest => (name, value.inspect) :: inspectFields rest

end

end Value

variable {T B : Type}

/-- A node: its kind and configuration. -/
def Node.inspect (node : Node B) : String :=
  record "Configured"
    [("kind", Text.quoted node.kind), ("config", Inspect.map (Value.inspectFields node.config))]

namespace Condition

mutual

/-- A condition. -/
def inspect : Condition T → String
  | .predicate node => node.inspect
  | .group any members => record (groupStatement any).name [("members", list (inspectAll members))]

/-- Conditions in order. -/
def inspectAll : List (Condition T) → List String
  | [] => []
  | member :: rest => member.inspect :: inspectAll rest

end

end Condition

namespace Step

mutual

/-- A step. -/
def inspect : Step T → String
  | .consumer node => node.inspect
  | .branch negated condition thenBody elseBody =>
    record (Branch.statementOf negated).name
      [("condition", condition.inspect), ("then", optional (inspectBody thenBody)),
        ("else", optional (inspectBody elseBody))]
  | .sequence steps => list (inspectAll steps)

/-- The step of a body, if it has one. -/
def inspectBody : Option (Step T) → Option String
  | none => none
  | some step => some step.inspect

/-- Steps in order. -/
def inspectAll : List (Step T) → List String
  | [] => []
  | step :: rest => step.inspect :: inspectAll rest

end

end Step

/-- A flow: its root step. -/
def Flow.inspect (flow : Flow T) : String :=
  record "Flow" [("root", optional (Step.inspectBody flow.root))]

/-- A registry: its family and kinds. -/
def Registry.inspect (r : Registry B) : String :=
  record "TypeRegistry"
    [("family", Text.quoted r.family.name), ("kinds", list (r.kinds.map Text.quoted))]

/-- All settings. -/
def Settings.inspect (s : Settings) : String :=
  record "FlowSettings"
    [("max_depth", toString s.maxDepth), ("discriminator", Text.quoted s.discriminator),
      ("default_format", Inspect.format s.defaultFormat),
      ("accept_object_shape", toString s.acceptObjectShape)]

/-- An engine: its registries and settings. -/
def Engine.inspect (engine : Engine T) : String :=
  record "FlowEngine"
    [("conditions", engine.conditions.inspect), ("consumers", engine.consumers.inspect),
      ("settings", engine.settings.inspect)]

end DecisionFlow
