import DecisionFlow.Value

/-!
# Failures of a run

What a predicate or a consumer can fail with, and the type of the computations that may.

- `Failure`, `Failure.message`: the causes and their texts.
- `Predicate`: a test of a payload, which may fail.
- `Consumer`: a change of a payload, which may fail. The payload that a failed change leaves behind
  is part of its result.
-/

namespace DecisionFlow

/-- Why a predicate or a consumer failed. -/
inductive Failure where
  /-- The payload is no object but of this kind. -/
  | expectedObject (found : Value.Kind)
  /-- The field cannot be set: this segment of its path holds something else than an object. -/
  | blocked (field segment : String)
  /-- The field holds no signed whole number. -/
  | notInteger (field : String)
  /-- A cause stated by whoever supplied the predicate or consumer. -/
  | stated (text : String)
deriving DecidableEq, Repr

/-- The text of a failure. -/
def Failure.message : Failure → String
  | .expectedObject found => "expected an object payload, found " ++ found.phrase
  | .blocked field segment => "cannot set '" ++ field ++ "': '" ++ segment ++ "' is not an object"
  | .notInteger field => "'" ++ field ++ "' is not an integer"
  | .stated text => text

/-- A test of a payload. -/
abbrev Predicate (T : Type) := T → Except Failure Bool

/-- A change of a payload: the result is the payload afterwards, with the failure if there was
one. -/
abbrev Consumer (T : Type) := EStateM Failure T Unit

namespace Consumer

/-- The payload that is there after the change, failed or not. -/
def payloadAfter {T α : Type} : EStateM.Result Failure T α → T
  | .ok _ payload => payload
  | .error _ payload => payload

/-- The failure, if there was one. -/
def failure? {T α : Type} : EStateM.Result Failure T α → Option Failure
  | .ok _ _ => none
  | .error failure _ => some failure

/-- The consumer that changes nothing. -/
def skip {T : Type} : Consumer T := fun payload => .ok () payload

end Consumer

end DecisionFlow
