import DecisionFlow.Proofs.Document.DepthLimit
import DecisionFlow.Proofs.Document.Positions
import DecisionFlow.Proofs.Flow.Nodes
import DecisionFlow.Proofs.Flow.Tracing

/-!
# Counting entries

The counts of a flow can be taken from the document that it is written as, and they bound what a run
of the flow can record.

- `Entry`, `entriesBelow`: the entries of a document at positions of the grammar, with their levels.
  Configurations are not looked into.
- `counted`: how many entries there are of each sort, and the greatest level.
- `counted_writeCondition`, `counted_writeStep`: what is written of a condition or a step counts
  like it.
- `Statistics.inGroup`, `Statistics.inBranch`: the counts with one more group or branch around
  everything.
- `Statistics.Bounded`: nothing nests deeper than there are branches and groups.
- `Trace.Within`, `within_of_runTraced`: a run records no more branches and consumers than there
  are.
- `Flow.statistics_counted_and_bounding`: **the statistics are the counts of the written flow and
  bound every run.**
-/

namespace DecisionFlow

/-! ## Counts of one more node -/

namespace Statistics

/-- The counts with a group around everything. -/
def inGroup (s : Statistics) : Statistics :=
  { s with groups := s.groups + 1, maxDepth := s.maxDepth + 1 }

/-- The counts with a branch around everything. -/
def inBranch (s : Statistics) : Statistics :=
  { s with branches := s.branches + 1, maxDepth := s.maxDepth + 1 }

end Statistics

/-- A group counts one more than its members. -/
theorem Condition.statistics_group {T : Type} (any : Bool) (members : List (Condition T)) :
    (Condition.group any members).statistics = (Condition.statisticsAll members).inGroup := by
  rw [Condition.statistics]
  rfl

/-- A branch counts one more than its condition and its sides. -/
theorem Branch.statistics_toStep {T : Type} (branch : Branch T) :
    branch.toStep.statistics = Statistics.inBranch (branch.condition.statistics
      + Step.statisticsBody branch.thenBody + Step.statisticsBody branch.elseBody) := by
  rw [Branch.toStep, Step.statistics]
  rfl

namespace Document

/-! ## Entries of a document -/

/-- An entry at a position of the grammar. -/
structure Entry where
  /-- The position of the node that the entry is directly below. -/
  position : Position
  name : String
  /-- How many branches and groups stand around the entry, itself included. -/
  level : Nat
deriving DecidableEq, Repr

namespace Entry

/-- A branch is an entry of a body that is called like one. -/
def isBranch (e : Entry) : Bool :=
  e.position = .body && [Statement.ifHolds.name, Statement.ifNot.name].contains e.name

/-- Whatever else stands in a body is a consumer. -/
def isConsumer (e : Entry) : Bool := e.position = .body && !e.isBranch

/-- A group stands in a branch or in a group. -/
def isGroup (e : Entry) : Bool :=
  e.position ≠ .body && [Statement.allOf.name, Statement.anyOf.name].contains e.name

/-- A predicate stands in a branch or in a group. -/
def isPredicate (e : Entry) : Bool := e.position ≠ .body && e.name = Statement.condition.name

/-- The entry with one more branch or group around it. -/
def deeper (e : Entry) : Entry := { e with level := e.level + 1 }

end Entry

mutual

/-- The entries below a node, in document order, with their levels counted from the node. -/
def entriesBelow (position : Position) : Value → List Entry
  | .array items => entriesOfItems position items
  | .object fields => entriesOfFields position fields
  | _ => []

/-- The entries that items of a node hold. -/
def entriesOfItems (position : Position) : List Value → List Entry
  | [] => []
  | .object fields :: rest => entriesOfFields position fields ++ entriesOfItems position rest
  | _ :: rest => entriesOfItems position rest

/-- The entries that fields of a node hold. -/
def entriesOfFields (position : Position) : List (String × Value) → List Entry
  | [] => []
  | field :: rest => entriesOfField position field ++ entriesOfFields position rest

/-- An entry and those below it. What stands below an entry without a position is configuration. -/
def entriesOfField (position : Position) : String × Value → List Entry
  | (name, child) =>
    match position.below name with
    | none => [⟨position, name, 0⟩]
    | some .body => ⟨position, name, 0⟩ :: entriesBelow .body child
    | some inner => ⟨position, name, 1⟩ :: (entriesBelow inner child).map Entry.deeper

end

/-- The greatest level among entries; zero if there is none. -/
def highest (entries : List Entry) : Nat := (entries.map (·.level)).foldr max 0

/-- How many entries there are of each sort, and how deep branches and groups nest. -/
def tally (entries : List Entry) : Statistics where
  branches := entries.countP Entry.isBranch
  groups := entries.countP Entry.isGroup
  predicates := entries.countP Entry.isPredicate
  consumers := entries.countP Entry.isConsumer
  maxDepth := highest entries

/-- What is counted on a document. -/
def counted (document : Value) : Statistics := tally (entriesBelow .body document)

/-! ## Counting lists of entries -/

theorem highest_append (entries more : List Entry) :
    highest (entries ++ more) = max (highest entries) (highest more) := by
  induction entries with
  | nil => exact (Nat.zero_max _).symm
  | cons e rest ih =>
    show max e.level (highest (rest ++ more)) = max (max e.level (highest rest)) (highest more)
    rw [ih, Nat.max_assoc]

/-- Below a branch or a group everything is one level deeper. -/
theorem max_one_highest_deeper (entries : List Entry) :
    max 1 (highest (entries.map Entry.deeper)) = highest entries + 1 := by
  induction entries with
  | nil => rfl
  | cons e rest ih =>
    show max 1 (max (e.level + 1) (highest (rest.map Entry.deeper))) =
      max e.level (highest rest) + 1
    omega

/-- **Entries can be counted in portions.** -/
theorem tally_append (entries more : List Entry) :
    tally (entries ++ more) = tally entries + tally more := by
  rw [Statistics.add_def]
  simp only [tally, Statistics.beside, List.countP_append, highest_append]

theorem tally_cons (e : Entry) (rest : List Entry) : tally (e :: rest) = tally [e] + tally rest :=
  tally_append [e] rest

/-- Levels do not matter to what sort an entry is of. -/
theorem tally_deeper (entries : List Entry) :
    tally (entries.map Entry.deeper) =
      { tally entries with maxDepth := highest (entries.map Entry.deeper) } := by
  simp only [tally, List.countP_map]
  rfl

variable {position : Position} {entries : List Entry}

/-- The entry of a group, with everything below it, counts as a group does. -/
theorem tally_group (hposition : position ≠ .body) (any : Bool) :
    tally (⟨position, (Condition.groupStatement any).name, 1⟩ :: entries.map Entry.deeper) =
      (tally entries).inGroup := by
  have hgroup : tally [⟨position, (Condition.groupStatement any).name, 1⟩] =
      ⟨0, 1, 0, 0, 1⟩ := by
    cases position with
    | body => exact absurd rfl hposition
    | branch | group => cases any <;> decide
  rw [tally_cons, hgroup, tally_deeper, Statistics.add_def]
  simp only [Statistics.beside, Nat.zero_add, max_one_highest_deeper, Nat.add_comm 1]
  rfl

/-- The entry of a branch, with everything below it, counts as a branch does. -/
theorem tally_branch (negated : Bool) :
    tally (⟨.body, (Branch.statementOf negated).name, 1⟩ :: entries.map Entry.deeper) =
      (tally entries).inBranch := by
  have hbranch : tally [⟨.body, (Branch.statementOf negated).name, 1⟩] =
      ⟨1, 0, 0, 0, 1⟩ := by
    cases negated <;> decide
  rw [tally_cons, hbranch, tally_deeper, Statistics.add_def]
  simp only [Statistics.beside, Nat.zero_add, max_one_highest_deeper, Nat.add_comm 1]
  rfl

/-- The sides of a branch are not counted themselves. -/
theorem tally_side {side : Statement} (hside : side.isBody) :
    tally (⟨.branch, side.name, 0⟩ :: entries) = tally entries := by
  have hnothing : tally [⟨.branch, side.name, 0⟩] = {} := by
    cases side with
    | thenBody | elseBody => decide
    | _ => cases hside
  rw [tally_cons, hnothing]
  exact sequential_statistics (T := Unit) |>.unit_op _

/-! ## Counting what is written -/

/-- Items one after the other hold their entries one after the other. -/
theorem entriesOfItems_append (items more : List Value) :
    entriesOfItems position (items ++ more) = entriesOfItems position items ++
      entriesOfItems position more := by
  induction items with
  | nil => rw [entriesOfItems]; rfl
  | cons item rest ih =>
    cases item with
    | object fields => rw [List.cons_append, entriesOfItems, entriesOfItems, ih, List.append_assoc]
    | _ => exact ih

/-- An object of one field holds the entries of that field. -/
theorem entriesOfItems_ofField (field : String × Value) (rest : List Value) :
    entriesOfItems position (ofField field :: rest) =
      entriesOfField position field ++ entriesOfItems position rest := by
  rw [ofField, Value.single, entriesOfItems, entriesOfFields, entriesOfFields, List.append_nil]

/-- A group stands below a branch or a group. -/
theorem below_groupStatement (hposition : position ≠ .body) (any : Bool) :
    position.below (Condition.groupStatement any).name = some .group := by
  cases position with
  | body => exact absurd rfl hposition
  | branch | group => cases any <;> decide

/-- A branch stands below a body. -/
theorem below_statementOf (negated : Bool) :
    Position.body.below (Branch.statementOf negated).name = some .branch := by
  cases negated <;> decide

/-- A side stands below a branch. -/
theorem below_of_isBody {side : Statement} (hside : side.isBody) :
    Position.branch.below side.name = some .body := by
  cases side with
  | thenBody | elseBody => decide
  | _ => cases hside

/-- A side of a branch is an entry with those of its body. -/
theorem entriesOfField_side {side : Statement} (hside : side.isBody) (items : List Value) :
    entriesOfField .branch (side.name, .array items) =
      ⟨.branch, side.name, 0⟩ :: entriesOfItems .body items := by
  rw [entriesOfField, below_of_isBody hside]
  rfl

variable {T : Type} {discriminator : String}

/-- A group is an entry with those of its members one level deeper. -/
theorem entriesOfItems_group (hposition : position ≠ .body) (any : Bool)
    (members : List (Condition T)) :
    entriesOfItems position [writeCondition discriminator (.group any members)] =
      ⟨position, (Condition.groupStatement any).name, 1⟩ ::
        (entriesOfItems .group (writeConditions discriminator members)).map Entry.deeper := by
  have hfield :
      entriesOfItems position [ofField ((Condition.groupStatement any).name, .array _)] = _ :=
    entriesOfItems_ofField (_, .array (writeConditions discriminator members)) []
  rw [entriesOfField, below_groupStatement hposition, entriesOfItems, List.append_nil] at hfield
  rw [writeCondition]
  exact hfield

/-- A branch is an entry with those of its condition and its sides one level deeper. -/
theorem entriesOfItems_branch (discriminator : String) (branch : Branch T) :
    entriesOfItems .body (writeStep discriminator branch.toStep) =
      ⟨.body, branch.statement.name, 1⟩ ::
        (entriesOfItems .branch [writeCondition discriminator branch.condition]
          ++ (⟨.branch, Statement.thenBody.name, 0⟩
            :: entriesOfItems .body (writeBody discriminator branch.thenBody))
          ++ entriesOfItems .branch ((elseField discriminator branch.elseBody).map ofField)).map
            Entry.deeper := by
  rw [Branch.toStep, writeStep_branch, entriesOfItems_ofField, entriesOfField, below_statementOf,
    entriesOfItems, List.append_nil, List.append_assoc, ← entriesOfField_side rfl,
    ← entriesOfItems_ofField, ← entriesOfItems_append]
  rfl

mutual

/-- A condition counts like what is written of it, in a branch and in a group. -/
theorem counted_writeCondition :
    ∀ (condition : Condition T) (position : Position), position ≠ .body →
    tally (entriesOfItems position [writeCondition discriminator condition]) = condition.statistics
  | .predicate node, position, hposition => by
    rw [writeCondition, Condition.statistics]
    cases position with
    | body => exact absurd rfl hposition
    | branch | group => rfl
  | .group any members, position, hposition => by
    have hmembers := counted_writeConditions members .group Position.noConfusion
    rw [entriesOfItems_group hposition, tally_group hposition, hmembers, Condition.statistics_group]

/-- Members count like what is written of them. -/
theorem counted_writeConditions : ∀ (members : List (Condition T)) (position : Position),
    position ≠ .body →
    tally (entriesOfItems position (writeConditions discriminator members)) =
      Condition.statisticsAll members
  | [], position, _ => by rw [writeConditions, Condition.statisticsAll, entriesOfItems]; rfl
  | member :: rest, position, hposition => by
    have hmember := counted_writeCondition member position hposition
    have hrest := counted_writeConditions rest position hposition
    rw [writeConditions, Condition.statisticsAll, ← hmember, ← hrest, ← tally_append,
      ← entriesOfItems_append]
    rfl

end

mutual

/-- A step counts like what is written of it, unless a consumer is called like a statement. -/
theorem counted_writeStep : ∀ step : Step T,
    (∀ node ∈ step.consumers, ∀ statement : Statement, node.kind ≠ statement.name) →
    tally (entriesOfItems .body (writeStep discriminator step)) = step.statistics
  | .consumer node, hkinds => by
    have hkind := hkinds node (by simp [Step.consumers])
    have hbelow : Position.body.below node.kind = none := by
      rw [Position.below, Statement.lookup_eq_none_iff.mpr hkind, Option.bind_none]
    rw [writeStep, Step.statistics]
    refine (congrArg tally (entriesOfItems_ofField (_, _) [])).trans ?_
    rw [entriesOfField, hbelow, entriesOfItems]
    simp [tally, highest, Entry.isBranch, Entry.isGroup, Entry.isPredicate, Entry.isConsumer,
      hkind .ifHolds, hkind .ifNot]
  | .branch negated condition thenBody elseBody, hkinds => by
    rw [Step.consumers] at hkinds
    obtain ⟨hthen, helse⟩ := List.forall_mem_append.mp hkinds
    have hcounted :=
      entriesOfItems_branch discriminator (Branch.mk negated condition thenBody elseBody)
    have hstatistics := Branch.statistics_toStep (Branch.mk negated condition thenBody elseBody)
    rw [Branch.toStep] at hcounted hstatistics
    rw [hcounted, hstatistics]
    refine (tally_branch negated).trans (congrArg Statistics.inBranch ?_)
    rw [tally_append, tally_append, tally_side rfl,
      counted_writeCondition condition .branch Position.noConfusion,
      counted_writeBody thenBody hthen, counted_elseField elseBody helse]
  | .sequence steps, hkinds => by
    rw [Step.consumers] at hkinds
    rw [writeStep, Step.statistics, counted_writeSteps steps hkinds]

/-- An absent body is written as no entries, and counts none. -/
theorem counted_writeBody : ∀ body : Option (Step T),
    (∀ node ∈ Step.consumersBody body, ∀ statement : Statement,
      node.kind ≠ statement.name) →
    tally (entriesOfItems .body (writeBody discriminator body)) = Step.statisticsBody body
  | none, _ => by rw [writeBody, Step.statisticsBody, entriesOfItems]; rfl
  | some step, hkinds => by
    rw [Step.consumersBody] at hkinds
    rw [writeBody, Step.statisticsBody, counted_writeStep step hkinds]

/-- The field of an `else` side counts like its body, and is left out with it. -/
theorem counted_elseField : ∀ body : Option (Step T),
    (∀ node ∈ Step.consumersBody body, ∀ statement : Statement,
      node.kind ≠ statement.name) →
    tally (entriesOfItems .branch ((elseField discriminator body).map ofField)) =
      Step.statisticsBody body
  | none, _ => by rw [Step.statisticsBody, elseField, List.map_nil, entriesOfItems]; rfl
  | some step, hkinds => by
    rw [Step.consumersBody] at hkinds
    rw [Step.statisticsBody, ← counted_writeStep step hkinds, elseField, List.map_cons,
      List.map_nil, entriesOfItems_ofField, entriesOfField_side rfl, entriesOfItems,
      List.append_nil, tally_side rfl]

/-- Steps of a sequence are written as entries one after the other. -/
theorem counted_writeSteps : ∀ steps : List (Step T),
    (∀ node ∈ Step.consumersAll steps, ∀ statement : Statement,
      node.kind ≠ statement.name) →
    tally (entriesOfItems .body (writeSteps discriminator steps)) = Step.statisticsAll steps
  | [], _ => by rw [writeSteps, Step.statisticsAll, entriesOfItems]; rfl
  | step :: rest, hkinds => by
    rw [Step.consumersAll] at hkinds
    obtain ⟨hstep, hrest⟩ := List.forall_mem_append.mp hkinds
    rw [writeSteps, Step.statisticsAll, entriesOfItems_append, tally_append,
      counted_writeStep step hstep, counted_writeSteps rest hrest]

end

end Document

/-! ## Nesting is bounded -/

namespace Statistics

/-- Nothing nests deeper than there are branches and groups. -/
def Bounded (s : Statistics) : Prop := s.maxDepth ≤ s.branches + s.groups

variable {s t : Statistics}

/-- Side by side, nothing nests deeper than on the deeper side. -/
theorem bounded_add (hs : s.Bounded) (ht : t.Bounded) : (s + t).Bounded := by
  show max s.maxDepth t.maxDepth ≤ (s.branches + t.branches) + (s.groups + t.groups)
  unfold Bounded at hs ht
  omega

/-- A group around everything adds one to both sides of the bound. -/
theorem bounded_inGroup (hs : s.Bounded) : s.inGroup.Bounded := by
  show s.maxDepth + 1 ≤ s.branches + (s.groups + 1)
  exact Nat.succ_le_succ hs

theorem bounded_inBranch (hs : s.Bounded) : s.inBranch.Bounded := by
  show s.maxDepth + 1 ≤ (s.branches + 1) + s.groups
  unfold Bounded at hs
  omega

end Statistics

section Nesting

open Statistics

variable {T : Type}

mutual

/-- Groups in a condition nest no deeper than there are groups. -/
theorem Condition.bounded_statistics : ∀ condition : Condition T, condition.statistics.Bounded
  | .predicate _ => by rw [Condition.statistics]; exact Nat.zero_le _
  | .group any members => by
    rw [Condition.statistics_group]
    exact bounded_inGroup (Condition.bounded_statisticsAll members)

theorem Condition.bounded_statisticsAll : ∀ members : List (Condition T),
    (Condition.statisticsAll members).Bounded
  | [] => by rw [Condition.statisticsAll]; exact Nat.zero_le _
  | member :: rest => by
    rw [Condition.statisticsAll]
    exact bounded_add (Condition.bounded_statistics member) (Condition.bounded_statisticsAll rest)

end

mutual

/-- Branches and groups in a step nest no deeper than there are of them. -/
theorem Step.bounded_statistics : ∀ step : Step T, step.statistics.Bounded
  | .consumer _ => by rw [Step.statistics]; exact Nat.zero_le _
  | .branch negated condition thenBody elseBody => by
    have hcondition := Condition.bounded_statistics condition
    have hthen := Step.bounded_statisticsBody thenBody
    have helse := Step.bounded_statisticsBody elseBody
    rw [Step.statistics]
    exact bounded_inBranch (bounded_add (bounded_add hcondition hthen) helse)
  | .sequence steps => by rw [Step.statistics]; exact Step.bounded_statisticsAll steps

theorem Step.bounded_statisticsBody : ∀ body : Option (Step T), (Step.statisticsBody body).Bounded
  | none => by rw [Step.statisticsBody]; exact Nat.zero_le _
  | some step => by rw [Step.statisticsBody]; exact Step.bounded_statistics step

theorem Step.bounded_statisticsAll : ∀ steps : List (Step T), (Step.statisticsAll steps).Bounded
  | [] => by rw [Step.statisticsAll]; exact Nat.zero_le _
  | step :: rest => by
    rw [Step.statisticsAll]
    exact bounded_add (Step.bounded_statistics step) (Step.bounded_statisticsAll rest)

end

end Nesting

/-! ## Records are bounded -/

/-- A record holds no more decisions and consumers than are counted. -/
structure Trace.Within (trace : Trace) (s : Statistics) : Prop where
  decisions : trace.decisions.length ≤ s.branches
  consumers : trace.consumersInvoked ≤ s.consumers

namespace Trace.Within

variable {trace more : Trace} {s t : Statistics}

theorem empty (s : Statistics) : Trace.empty.Within s := ⟨Nat.zero_le _, Nat.zero_le _⟩

/-- Runs in turn record within the sum of what their steps count. -/
theorem append (h : trace.Within s) (hmore : more.Within t) : (trace ++ more).Within (s + t) where
  decisions := by
    rw [decisions_append, List.length_append]
    exact Nat.add_le_add h.decisions hmore.decisions
  consumers := Nat.add_le_add h.consumers hmore.consumers

/-- A branch records one decision, besides what the side that runs records. -/
theorem decision (d : Decision) (h : trace.Within s) :
    (Trace.decision d ++ trace).Within s.inBranch where
  decisions := by
    show trace.decisions.length + 1 ≤ s.branches + 1
    exact Nat.succ_le_succ h.decisions
  consumers := by
    rw [consumersInvoked_append]
    show 0 + trace.consumersInvoked ≤ s.consumers
    rw [Nat.zero_add]
    exact h.consumers

theorem beside_left (h : trace.Within s) (t : Statistics) : trace.Within (t + s) where
  decisions := Nat.le_trans h.decisions (Nat.le_add_left ..)
  consumers := Nat.le_trans h.consumers (Nat.le_add_left ..)

theorem beside_right (h : trace.Within s) (t : Statistics) : trace.Within (s + t) where
  decisions := Nat.le_trans h.decisions (Nat.le_add_right ..)
  consumers := Nat.le_trans h.consumers (Nat.le_add_right ..)

end Trace.Within

section Runs

variable {T : Type}

/-- What a run of the body records is within what is counted in it. -/
def Step.RunsWithin (side : Option (Step T)) : Prop :=
  ∀ (body : Locator) (payload : T) (trace : Trace) (after : T),
    Step.runBodyTraced body side payload = .ok trace after →
      trace.Within (Step.statisticsBody side)

/-- What the side that runs records is within what is counted in the branch. -/
theorem Branch.within_sides {branch : Branch T} {trace : Trace} (takeThen : Bool)
    (h : trace.Within (Step.statisticsBody (branch.side takeThen))) :
    trace.Within (branch.condition.statistics
      + Step.statisticsBody branch.thenBody + Step.statisticsBody branch.elseBody) := by
  cases takeThen with
  | true => exact (h.beside_left _).beside_right _
  | false => exact h.beside_left _

mutual

/-- A run of a step records no more than is counted in it. -/
theorem within_of_runTraced : ∀ (step : Step T) (body : Locator) (index : Nat) (payload : T)
    (trace : Trace) (after : T), Step.runTraced body index step payload = .ok trace after →
    trace.Within step.statistics
  | .consumer node, body, index, payload, trace, after, h => by
    obtain ⟨-, rfl⟩ := runTraced_consumer_eq_ok_iff.mp h
    rw [Step.statistics]
    exact ⟨Nat.le_refl _, Nat.le_refl _⟩
  | .branch negated condition thenBody elseBody, body, index, payload, trace, after, h => by
    let branch : Branch T := ⟨negated, condition, thenBody, elseBody⟩
    obtain ⟨passed, -, inner, hinner, rfl⟩ := (runTraced_branch_eq_ok_iff branch).mp h
    have hside :=
      branch.side_of_both (within_of_runBodyTraced thenBody) (within_of_runBodyTraced elseBody)
      (passed != negated) _ payload inner after hinner
    have hbranch := branch.statistics_toStep
    rw [Branch.toStep] at hbranch
    rw [hbranch]
    exact .decision _ (Branch.within_sides _ hside)
  | .sequence steps, body, index, payload, trace, after, h => by
    rw [Step.runTraced] at h
    rw [Step.statistics]
    exact within_of_runAllTraced steps body 0 payload trace after h

/-- A run of a body records no more than is counted in it. -/
theorem within_of_runBodyTraced : ∀ side : Option (Step T), Step.RunsWithin side
  | none, body, payload, trace, after, h => by
    rw [Step.runBodyTraced] at h
    cases h
    exact .empty _
  | some step, body, payload, trace, after, h => by
    rw [Step.runBodyTraced] at h
    rw [Step.statisticsBody]
    exact within_of_runTraced step body 0 payload trace after h

/-- Nor does a run of several steps. -/
theorem within_of_runAllTraced :
    ∀ (steps : List (Step T)) (body : Locator) (index : Nat) (payload : T)
    (trace : Trace) (after : T), Step.runAllTraced body index steps payload = .ok trace after →
    trace.Within (Step.statisticsAll steps)
  | [], body, index, payload, trace, after, h => by
    rw [Step.runAllTraced] at h
    cases h
    exact .empty _
  | step :: rest, body, index, payload, trace, after, h => by
    obtain ⟨first, between, hfirst, more, hmore, rfl⟩ := runAllTraced_cons_eq_ok_iff.mp h
    rw [Step.statisticsAll]
    exact (within_of_runTraced step body index payload first between hfirst).append
      (within_of_runAllTraced rest body (index + 1) between more after hmore)

end

end Runs

namespace Flow

variable {T : Type}

/-- **The statistics of a flow are the counts of what is written of it**, unless a consumer is
called like a statement. They say how deep the flow nests, which is no deeper than there are
branches and groups, and no run that succeeds records more decisions than branches or more consumers
than there are. -/
theorem statistics_counted_and_bounding (flow : Flow T) (discriminator : String)
    (hkinds : ∀ node ∈ flow.consumers, ∀ statement : Statement,
      node.kind ≠ statement.name) :
    flow.statistics = Document.counted (flow.write discriminator) ∧
    flow.statistics.maxDepth = flow.depth ∧
    flow.statistics.maxDepth ≤ flow.statistics.branches + flow.statistics.groups ∧
    ∀ payload trace after, flow.runTraced payload = .ok trace after →
      trace.decisions.length ≤ flow.statistics.branches ∧
      trace.consumersInvoked ≤ flow.statistics.consumers := by
  refine ⟨?_, flow.maxDepth_statistics, Step.bounded_statisticsBody flow.root,
    fun payload trace after h => ?_⟩
  · exact (Document.counted_writeBody flow.root hkinds).symm
  · have hwithin := within_of_runBodyTraced flow.root [] payload trace after h
    exact ⟨hwithin.decisions, hwithin.consumers⟩

/-- A flow with a consumer whose configuration looks like a branch, and a branch in a sequence. -/
def lookalike : Flow Unit := ⟨some (.sequence [
  .consumer ⟨"note", [("if", .array [.single "allOf" .null])], Consumer.skip⟩,
  .sequence [.branch true (.anyOf [.predicate ⟨"never", [], fun _ => .ok false⟩])
    (some (.consumer ⟨"note", [], Consumer.skip⟩)) none]])⟩

/-- Fields of the configuration that are called like statements are not counted. -/
theorem lookalike_counted_and_run :
    Document.counted (lookalike.write "type") = ⟨1, 1, 1, 2, 2⟩ ∧
    ∃ trace, lookalike.runTraced () = .ok trace () ∧ trace.decisions.length = 1 ∧
      trace.decisions.length ≤ lookalike.statistics.branches ∧
      trace.consumersInvoked ≤ lookalike.statistics.consumers := by
  have hkinds : ∀ node ∈ lookalike.consumers, ∀ statement : Statement,
      node.kind ≠ statement.name := by
    intro node hnode statement
    have hnote : node.kind = "note" := by
      obtain rfl | hnode := List.mem_cons.mp hnode
      · rfl
      · obtain rfl : node = _ := List.mem_singleton.mp hnode
        rfl
    rw [hnote]
    cases statement <;> decide
  obtain ⟨hcounted, -, -, hruns⟩ := lookalike.statistics_counted_and_bounding "type" hkinds
  have hrun : lookalike.runTraced () = .ok _ () := rfl
  exact ⟨hcounted.symm.trans rfl, _, hrun, rfl, hruns _ _ _ hrun⟩

end Flow

end DecisionFlow
