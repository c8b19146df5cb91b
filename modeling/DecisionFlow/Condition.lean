import DecisionFlow.Node
import DecisionFlow.Statement

/-!
# Conditions

A branch tests one condition: a predicate, or a group of conditions.

- `Condition`: predicates and groups, nested to any depth.
- `Condition.test`: members are tested in order and the first that decides the group ends the test.
  A group without members holds if it asks for all of them, and fails if it asks for any.
- `Condition.depth`: how deep groups nest.
-/

namespace DecisionFlow

/-- A test of a payload made of predicates. -/
inductive Condition (T : Type) where
  /-- A single predicate. -/
  | predicate (node : PredicateNode T)
  /-- A group that asks for any of its members, or else for all of them. -/
  | group (any : Bool) (members : List (Condition T))

namespace Condition

variable {T : Type}

/-- The group that holds when all members hold. -/
def allOf (members : List (Condition T)) : Condition T := .group false members

/-- The group that holds when some member holds. -/
def anyOf (members : List (Condition T)) : Condition T := .group true members

/-- The group of a statement, if the statement stands for one. -/
def ofStatement? : Statement → List (Condition T) → Option (Condition T)
  | .allOf, members => some (allOf members)
  | .anyOf, members => some (anyOf members)
  | _, _ => none

/-- The statement of a group. -/
def groupStatement (any : Bool) : Statement := if any then .anyOf else .allOf

/-- The statement that the condition is written as. -/
def statement : Condition T → Statement
  | .predicate _ => .condition
  | .group any _ => groupStatement any

/-- The members of a group; a predicate has none. -/
def members : Condition T → List (Condition T)
  | .predicate _ => []
  | .group _ members => members

mutual

/-- Tests the payload. -/
def test : Condition T → Predicate T
  | .predicate node, payload => node.behaviour payload
  | .group any members, payload => testMembers any members payload

/-- Tests members in order: the group is decided by the first whose result is `any`, and has the
opposite result when there is none. -/
def testMembers (any : Bool) : List (Condition T) → Predicate T
  | [], _ => .ok (!any)
  | member :: rest, payload =>
    match member.test payload with
    | .error failure => .error failure
    | .ok result => if result = any then .ok any else testMembers any rest payload

end

mutual

/-- How deep groups nest, each counting one. -/
def depth : Condition T → Nat
  | .predicate _ => 0
  | .group _ members => 1 + depthMembers members

/-- The greatest depth among the members. -/
def depthMembers : List (Condition T) → Nat
  | [] => 0
  | member :: rest => max member.depth (depthMembers rest)

end

@[simp] theorem test_predicate (node : PredicateNode T) (payload : T) :
    (predicate node).test payload = node.behaviour payload := by simp [test]

@[simp] theorem test_group_nil (any : Bool) (payload : T) :
    (group any []).test payload = .ok (!any) := by simp [test, testMembers]

theorem test_group_cons (any : Bool) (member : Condition T) (rest : List (Condition T))
    (payload : T) :
    (group any (member :: rest)).test payload =
      match member.test payload with
      | .error failure => .error failure
      | .ok result => if result = any then .ok any else (group any rest).test payload := by
  simp only [test, testMembers]

end Condition

end DecisionFlow
