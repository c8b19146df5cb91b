import DecisionFlow.FieldPath
import DecisionFlow.Regex.Parse
import DecisionFlow.Registry

/-!
# Built-in tests

Predicates over the fields of a payload. A field that is not there, or holds something of the wrong
kind for the comparison, makes a test false.

- `Builtin.Test`: the tests with their settings.
- `Builtin.Test.holds`: whether a payload passes a test. Built-in tests never fail.
- `Builtin.Test.paths`: the fields that a test looks at.
- `Builtin.Test.types`: the factories by kind.
-/

namespace DecisionFlow.Builtin

/-- A test of a payload. -/
inductive Test where
  /-- The field holds any value, null included. -/
  | fieldExists (field : FieldPath)
  /-- The field holds this value. -/
  | fieldEquals (field : FieldPath) (value : Value)
  /-- The field is a number above the bound. -/
  | fieldGreaterThan (field : FieldPath) (bound : Float)
  /-- The field is a number below the bound. -/
  | fieldLessThan (field : FieldPath) (bound : Float)
  /-- The field is a text with this part. -/
  | fieldContains (field : FieldPath) (part : String)
  /-- The field is a text in which the pattern has a match. -/
  | fieldMatches (field : FieldPath) (pattern : Regex)
  /-- The payload is an object of this many fields. -/
  | sizeEquals (size : Nat)
  /-- A constant. -/
  | always (value : Bool)

/-- Whether a part occurs in a text. -/
def occursIn (part : List Char) : List Char → Bool
  | [] => part.isEmpty
  | c :: rest => part.isPrefixOf (c :: rest) || occursIn part rest

namespace Test

/-- The number at a path. -/
def numberAt (payload : Value) (field : FieldPath) : Option Float :=
  ((payload.lookup field).bind Value.number?).map Number.toFloat

/-- The text at a path. -/
def textAt (payload : Value) (field : FieldPath) : Option String :=
  (payload.lookup field).bind Value.text?

/-- Whether the payload passes the test. -/
def holds (payload : Value) : Test → Bool
  | fieldExists field => (payload.lookup field).isSome
  | fieldEquals field value => (payload.lookup field).any (·.same value)
  | fieldGreaterThan field bound => (numberAt payload field).any (· > bound)
  | fieldLessThan field bound => (numberAt payload field).any (· < bound)
  | fieldContains field part => (textAt payload field).any (occursIn part.toList ·.toList)
  | fieldMatches field pattern => (textAt payload field).any pattern.isMatch
  | sizeEquals size => payload.fields?.any (·.length == size)
  | always value => value

/-- The test as a predicate, which never fails. -/
def predicate (t : Test) : Predicate Value := fun payload => .ok (t.holds payload)

/-- The fields that the test looks at. -/
def paths : Test → List FieldPath
  | fieldExists field | fieldEquals field _ | fieldGreaterThan field _ | fieldLessThan field _
  | fieldContains field _ | fieldMatches field _ => [field]
  | sizeEquals _ | always _ => []

/-! ## Configurations -/

open Config in
/-- A field that names a field of the payload. -/
def fieldNamed (name : String) : Decoder FieldPath := FieldPath.ofText <$> .required name text

/-- The problem of a configuration whose pattern is refused. -/
def patternProblem : Regex.Problem → Config.Problem
  | .malformed => .malformedPattern
  | .tooLarge => .largePattern Regex.sizeLimit

open Config in
/-- The factories of the built-in tests by kind. -/
def types : List (String × Factory (Predicate Value)) := [
  ("field_exists", .decoded (fieldExists <$> fieldNamed "field") predicate),
  ("field_equals",
    .decoded (fieldEquals <$> fieldNamed "field" <*> .required "value" anything) predicate),
  ("field_greater_than",
    .decoded (fieldGreaterThan <$> fieldNamed "field" <*> .required "value" float) predicate),
  ("field_less_than",
    .decoded (fieldLessThan <$> fieldNamed "field" <*> .required "value" float) predicate),
  ("field_contains",
    .decoded (fieldContains <$> fieldNamed "field" <*> .required "substring" text) predicate),
  ("field_matches",
    .adapted (Prod.mk <$> fieldNamed "field" <*> .required "pattern" text)
      fun (field, pattern) =>
        ((Regex.ofPattern pattern).mapError patternProblem).map fun regex =>
          (fieldMatches field regex).predicate),
  ("size_equals", .decoded (sizeEquals <$> .required "size" size) predicate),
  ("always", .decoded (always <$> .optional "value" boolean true) predicate)]

end Test

end DecisionFlow.Builtin
