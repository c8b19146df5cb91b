import DecisionFlow.Proofs.Flow.Nodes
import DecisionFlow.Proofs.Flow.Tracing
import DecisionFlow.Proofs.Payload.Fields

/-!
# Runs that are confined to keys

A run is confined to some keys of a payload if nothing else decides what it does and nothing else is
changed. On two payloads that agree on the keys it ends alike and leaves payloads that agree again,
and all other keys are as before.

- `Alike`, `Kept`: payloads that agree on keys, and a payload before and after a run.
- `Steady`, `Confined`: readings and runs that only look at keys.
- `confined_attempted`: a change of what is held under one key.
- `Step.confined_runTraced`: a flow is confined to keys if its nodes are.
-/

namespace DecisionFlow

variable {keys : List String} {A B : Type}

/-! ## Payloads -/

/-- Two objects that agree on keys: both lack a key, or both hold the same value under it. -/
inductive Alike (keys : List String) : Value → Value → Prop where
  | intro {fields fields' : Fields} (names : (Fields.names fields).Nodup)
    (names' : (Fields.names fields').Nodup)
    (agree : ∀ key ∈ keys, fields.get? key = fields'.get? key) :
    Alike keys (.object fields) (.object fields')

/-- An object before and after a run: under other keys than these nothing is changed, added or
removed. -/
inductive Kept (keys : List String) : Value → Value → Prop where
  | intro {before after : Fields} (same : ∀ key, key ∉ keys →
    after.get? key = before.get? key) :
    Kept keys (.object before) (.object after)

/-- What two changes keep, both keep one after the other. -/
theorem Kept.trans {p q r : Value} (h : Kept keys p q) (h' : Kept keys q r) : Kept keys p r := by
  obtain ⟨hsame⟩ := h
  obtain ⟨hsame'⟩ := h'
  exact .intro fun key hkey => (hsame' key hkey).trans (hsame key hkey)

/-- Two runs that began with payloads `p` and `p'` and arrived at `q` and `q'`. -/
structure Moves (keys : List String) (p p' q q' : Value) : Prop where
  alike : Alike keys q q'
  kept : Kept keys p q
  kept' : Kept keys p' q'

theorem Moves.refl {p p' : Value} (h : Alike keys p p') : Moves keys p p' p p' := by
  obtain ⟨hnames, hnames', hagree⟩ := h
  exact ⟨.intro hnames hnames' hagree, .intro fun _ _ => rfl, .intro fun _ _ => rfl⟩

/-- Two moves after one another are one. -/
theorem Moves.trans {p p' q q' r r' : Value} (h : Moves keys p p' q q')
    (h' : Moves keys q q' r r') : Moves keys p p' r r' :=
  ⟨h'.alike, h.kept.trans h'.kept, h.kept'.trans h'.kept'⟩

/-! ## Runs -/

/-- Two runs from `p` and `p'` ended alike: with the same result or the same failure. -/
inductive Together (keys : List String) (p p' : Value) :
    EStateM.Result Failure Value A → EStateM.Result Failure Value A → Prop where
  | ok (a : A) {q q' : Value} (moves : Moves keys p p' q q') :
    Together keys p p' (.ok a q) (.ok a q')
  | error (failure : Failure) {q q' : Value} (moves : Moves keys p p' q q') :
    Together keys p p' (.error failure q) (.error failure q')

/-- Runs that go on from where two others arrived. -/
theorem Together.after {p p' q q' : Value} {r r' : EStateM.Result Failure Value A}
    (h : Together keys q q' r r') (moves : Moves keys p p' q q') : Together keys p p' r r' := by
  cases h with
  | ok a moves' => exact .ok a (moves.trans moves')
  | error failure moves' => exact .error failure (moves.trans moves')

/-- A reading of payloads that is the same for payloads that agree on keys. -/
def Steady (keys : List String) (read : Value → B) : Prop :=
  ∀ ⦃p p' : Value⦄, Alike keys p p' → read p = read p'

/-- A run that neither looks at nor changes anything but what is under keys. -/
def Confined (keys : List String) (run : EStateM Failure Value A) : Prop :=
  ∀ ⦃p p' : Value⦄, Alike keys p p' → Together keys p p' (run p) (run p')

/-- One run after another, which uses what the first yields. -/
def andThen (run : EStateM Failure Value A) (next : A → EStateM Failure Value B) :
    EStateM Failure Value B := fun payload =>
  match run payload with
  | .ok a payload => next a payload
  | .error failure payload => .error failure payload

namespace Confined

theorem pure (a : A) : Confined keys fun payload => .ok a payload :=
  fun _ _ h => .ok a (.refl h)

theorem throw (failure : Failure) :
    Confined keys (fun payload => .error failure payload : EStateM Failure Value A) :=
  fun _ _ h => .error failure (.refl h)

/-- What follows a run starts from payloads that agree again. -/
theorem andThen {run : EStateM Failure Value A} {next : A → EStateM Failure Value B}
    (hrun : Confined keys run) (hnext : ∀ a, Confined keys (next a)) :
    Confined keys (DecisionFlow.andThen run next) := by
  intro p p' h
  have hstart := hrun h
  simp only [DecisionFlow.andThen]
  revert hstart
  generalize run p = r, run p' = r'
  intro hstart
  cases hstart with
  | error failure moves => exact .error failure moves
  | @ok a q q' moves =>
    exact (hnext a moves.alike).after moves

/-- A view of a confined run is confined. -/
theorem viewed {run : EStateM Failure Value A} (h : Confined keys run) (view : A → B) :
    Confined keys (DecisionFlow.viewed view run) := by
  have hthen : DecisionFlow.viewed view run
      = DecisionFlow.andThen run fun a payload => .ok (view a) payload := by
    funext payload
    simp only [DecisionFlow.viewed, DecisionFlow.andThen]
    cases run payload <;> rfl
  rw [hthen]
  exact h.andThen fun a => .pure (view a)

/-- Confined runs are confined in turn. -/
theorem inTurn {first second : EStateM Failure Value A} (hfirst : Confined keys first)
    (hsecond : Confined keys second) (join : A → A → A) :
    Confined keys (DecisionFlow.inTurn join first second) := by
  have hthen : DecisionFlow.inTurn join first second
      = DecisionFlow.andThen first fun a => DecisionFlow.viewed (join a) second := by
    funext payload
    simp only [DecisionFlow.inTurn, DecisionFlow.andThen, DecisionFlow.viewed]
    cases first payload with
    | error failure payload => rfl
    | ok a payload =>
      dsimp only
      cases second payload <;> rfl
  rw [hthen]
  exact hfirst.andThen fun a => hsecond.viewed (join a)

/-- A run may turn on what is read of the payload. -/
theorem read {read : Value → B} {run : B → EStateM Failure Value A} (hread : Steady keys read)
    (hrun : ∀ b, Confined keys (run b)) : Confined keys fun p => run (read p) p := by
  intro p p' h
  show Together keys p p' (run (read p) p) (run (read p') p')
  rw [hread h]
  exact hrun _ h

end Confined

/-! ## Changes of what one key holds -/

/-- Tries a change. One that is refused leaves things as they are. -/
def attempted {S : Type} (change : S → Except Failure (A × S)) : EStateM Failure S A := fun s =>
  match change s with
  | .ok result => .ok result.1 result.2
  | .error failure => .error failure s

/-- Changes what an object holds under a key. -/
def atKey (key : String) (change : Option Value → Except Failure (A × Option Value))
    (fields : Fields) : Except Failure (A × Value) :=
  (change (fields.get? key)).map fun result => (result.1, .object (fields.put key result.2))

/-- Two payloads that are alike move together when one of the keys is put. -/
theorem moves_put {fields fields' : Fields} {key : String} (hkey : key ∈ keys)
    (h : Alike keys (.object fields) (.object fields')) (value : Option Value) :
    Moves keys (.object fields) (.object fields') (.object (fields.put key value))
      (.object (fields'.put key value)) := by
  obtain ⟨hnames, hnames', hagree⟩ := h
  refine ⟨.intro (Fields.nodup_names_put hnames value) (Fields.nodup_names_put hnames' value) ?_,
    .intro ?_, .intro ?_⟩
  · intro other hother
    rw [Fields.get?_put hnames, Fields.get?_put hnames', hagree other hother]
  · intro other hother
    rw [Fields.get?_put hnames, if_neg fun heq : key = other => hother (heq ▸ hkey)]
  · intro other hother
    rw [Fields.get?_put hnames', if_neg fun heq : key = other => hother (heq ▸ hkey)]

/-- **A change of what an object holds under a key is confined to the key.** -/
theorem confined_attempted {change : Value → Except Failure (A × Value)} {key : String}
    (hkey : key ∈ keys) (inner : Option Value → Except Failure (A × Option Value))
    (h : ∀ fields : Fields, change (.object fields) = atKey key inner fields) :
    Confined keys (attempted change) := by
  intro p p' halike
  cases halike with
  | @intro fields fields' hnames hnames' hagree =>
    have hlike : Alike keys (.object fields) (.object fields') := .intro hnames hnames' hagree
    unfold attempted
    rw [h, h, atKey, atKey, hagree key hkey]
    cases inner (fields'.get? key) with
    | ok result => exact .ok result.1 (moves_put hkey hlike result.2)
    | error failure => exact .error failure (.refl hlike)

/-! ## Conditions and steps -/

mutual

/-- A condition reads the keys that its predicates read. -/
theorem Condition.steady_test : ∀ condition : Condition Value,
    (∀ node ∈ condition.predicates, Steady keys node.behaviour) → Steady keys condition.test
  | .predicate node, hsteady => by
    intro p p' h
    rw [Condition.test_predicate, Condition.test_predicate]
    exact hsteady node (by simp [Condition.predicates]) h
  | .group any members, hsteady => by
    rw [Condition.predicates] at hsteady
    intro p p' h
    rw [Condition.test, Condition.test]
    exact Condition.steady_testMembers any members hsteady h

theorem Condition.steady_testMembers (any : Bool) : ∀ members : List (Condition Value),
    (∀ node ∈ Condition.predicatesAll members, Steady keys node.behaviour) →
      Steady keys (Condition.testMembers any members)
  | [], _ => by
    intro p p' _
    rw [Condition.testMembers, Condition.testMembers]
  | member :: rest, hsteady => by
    rw [Condition.predicatesAll, List.forall_mem_append] at hsteady
    intro p p' h
    rw [Condition.testMembers, Condition.testMembers, Condition.steady_test member hsteady.1 h,
      Condition.steady_testMembers any rest hsteady.2 h]

end

namespace Step

mutual

/-- **A step is confined to the keys that its nodes are confined to.** -/
theorem confined_runTraced : ∀ (step : Step Value) (body : Locator) (index : Nat),
    (∀ node ∈ step.predicates, Steady keys node.behaviour) →
    (∀ node ∈ step.consumers, Confined keys node.behaviour) →
      Confined keys (runTraced body index step)
  | .consumer node, body, index, _, hconsumers => by
    rw [runTraced_consumer]
    exact (hconsumers node (by simp [consumers])).viewed _
  | .branch negated condition thenBody elseBody, body, index, hpredicates, hconsumers => by
    rw [predicates, List.forall_mem_append, List.forall_mem_append] at hpredicates
    rw [consumers, List.forall_mem_append] at hconsumers
    obtain ⟨⟨hcondition, hthenReads⟩, helseReads⟩ := hpredicates
    have hthen := fun path => confined_runBodyTraced thenBody path hthenReads hconsumers.1
    have helse := fun path => confined_runBodyTraced elseBody path helseReads hconsumers.2
    intro p p' h
    simp only [runTraced]
    rw [condition.steady_test hcondition h]
    cases condition.test p' with
    | error failure => exact Confined.throw failure h
    | ok passed =>
      -- Both runs have the same result of the condition, so they take the same side.
      dsimp only
      cases passed != negated with
      | true =>
        rw [if_pos rfl, if_pos rfl, recorded_eq_viewed]
        exact (hthen _).viewed _ h
      | false =>
        rw [if_neg Bool.false_ne_true, if_neg Bool.false_ne_true, recorded_eq_viewed]
        exact (helse _).viewed _ h
  | .sequence steps, body, index, hpredicates, hconsumers => by
    rw [predicates] at hpredicates
    rw [consumers] at hconsumers
    rw [runTraced]
    exact confined_runAllTraced steps body 0 hpredicates hconsumers

theorem confined_runBodyTraced : ∀ (body : Option (Step Value)) (path : Locator),
    (∀ node ∈ predicatesBody body, Steady keys node.behaviour) →
    (∀ node ∈ consumersBody body, Confined keys node.behaviour) →
      Confined keys (runBodyTraced path body)
  | none, path, _, _ => by
    rw [runBodyTraced]
    exact .pure _
  | some step, path, hpredicates, hconsumers => by
    rw [predicatesBody] at hpredicates
    rw [consumersBody] at hconsumers
    rw [runBodyTraced]
    exact confined_runTraced step path 0 hpredicates hconsumers

theorem confined_runAllTraced : ∀ (steps : List (Step Value)) (body : Locator) (index : Nat),
    (∀ node ∈ predicatesAll steps, Steady keys node.behaviour) →
    (∀ node ∈ consumersAll steps, Confined keys node.behaviour) →
      Confined keys (runAllTraced body index steps)
  | [], body, index, _, _ => by
    rw [runAllTraced]
    exact .pure _
  | step :: rest, body, index, hpredicates, hconsumers => by
    rw [predicatesAll, List.forall_mem_append] at hpredicates
    rw [consumersAll, List.forall_mem_append] at hconsumers
    have hstep := confined_runTraced step body index hpredicates.1 hconsumers.1
    have hrest := confined_runAllTraced rest body (index + 1) hpredicates.2 hconsumers.2
    rw [runAllTraced_cons]
    exact hstep.inTurn hrest _

end

end Step

end DecisionFlow
