import DecisionFlow.Proofs.Document.Writing
import DecisionFlow.Proofs.Flow.Relocating

/-!
# Composed bodies

Steps are composed into the smallest step that stands for the same consumers and branches. Nothing
else about them changes.

- `Step.StandFor`: the consumers and branches that steps stand for, said apart from composition.
- `Step.standFor_iff`: there is one list of them, that of `Step.flattenAll`.
- `Step.compose_eq_none_iff`, `Step.members_of_compose`: what steps are composed to.
- `Step.compose_transparent`: **composition is a normal form**, and no reading of steps tells it
  from the sequence of them.
-/

namespace DecisionFlow

variable {T : Type}

namespace Step

/-! ## What steps stand for -/

/-- The consumers and branches that steps stand for, in order. A sequence stands for what its own
steps stand for; what is in the sides of a branch does not count. -/
inductive StandFor : List (Step T) → List (Step T) → Prop where
  | nil : StandFor [] []
  | consumer (node : ConsumerNode T) {rest entries : List (Step T)}
    (hrest : StandFor rest entries) :
    StandFor (.consumer node :: rest) (.consumer node :: entries)
  | branch (negated : Bool) (condition : Condition T) (thenBody elseBody : Option (Step T))
    {rest entries : List (Step T)} (hrest : StandFor rest entries) :
    StandFor (.branch negated condition thenBody elseBody :: rest)
      (.branch negated condition thenBody elseBody :: entries)
  | sequence {steps inner rest entries : List (Step T)} (hsteps : StandFor steps inner)
    (hrest : StandFor rest entries) : StandFor (.sequence steps :: rest) (inner ++ entries)

mutual

theorem standFor_flatten :
    ∀ (step : Step T) {rest entries : List (Step T)}, StandFor rest entries →
    StandFor (step :: rest) (step.flatten ++ entries)
  | .consumer node, rest, entries, h => by
    rw [flatten, List.singleton_append]
    · exact .consumer node h
    · nofun
  | .branch negated condition thenBody elseBody, rest, entries, h => by
    rw [flatten, List.singleton_append]
    · exact .branch negated condition thenBody elseBody h
    · nofun
  | .sequence steps, rest, entries, h => by
    rw [flatten]
    exact .sequence (standFor_flattenAll steps) h

theorem standFor_flattenAll : ∀ steps : List (Step T), StandFor steps (flattenAll steps)
  | [] => by
    rw [flattenAll]
    exact .nil
  | step :: rest => by
    rw [flattenAll]
    exact standFor_flatten step (standFor_flattenAll rest)

end

/-- Steps stand for one list of entries. -/
theorem standFor_iff {steps entries : List (Step T)} :
    StandFor steps entries ↔ entries = flattenAll steps := by
  constructor
  · intro h
    induction h with
    | nil => rw [flattenAll]
    | consumer node _ ih => rw [flattenAll, flatten, List.singleton_append, ih]; nofun
    | branch negated condition thenBody elseBody _ ih =>
      rw [flattenAll, flatten, List.singleton_append, ih]
      nofun
    | sequence _ _ ihSteps ih => rw [flattenAll, flatten, ihSteps, ih]
  · rintro rfl
    exact standFor_flattenAll steps

/-- No entry is a sequence. -/
theorem StandFor.ne_sequence {steps entries : List (Step T)} (h : StandFor steps entries) :
    ∀ entry ∈ entries, ∀ inner, entry ≠ .sequence inner := by
  induction h with
  | nil => exact List.forall_mem_nil _
  | consumer node _ ih => exact List.forall_mem_cons.mpr ⟨nofun, ih⟩
  | branch negated condition thenBody elseBody _ ih =>
    exact List.forall_mem_cons.mpr ⟨nofun, ih⟩
  | sequence _ _ ihSteps ih => exact List.forall_mem_append.mpr ⟨ihSteps, ih⟩

/-! ## What they are composed to -/

/-- Nothing is left exactly when no step holds an entry. -/
theorem compose_eq_none_iff {steps : List (Step T)} :
    compose steps = none ↔ flattenAll steps = [] := by
  rw [compose]
  match flattenAll steps with
  | [] => exact iff_of_true rfl rfl
  | [step] => exact iff_of_false nofun nofun
  | first :: second :: rest => exact iff_of_false nofun nofun

/-- A composed step has the entries for its members, and is a sequence if there are several. -/
theorem members_of_compose {steps : List (Step T)} {step : Step T} (h : compose steps = some step) :
    step.members = flattenAll steps ∧
      ((∃ inner, step = .sequence inner) ↔ 2 ≤ (flattenAll steps).length) := by
  have hentries := (standFor_flattenAll steps).ne_sequence
  rw [compose] at h
  revert h hentries
  match flattenAll steps with
  | [] => nofun
  | [entry] =>
    intro h hentries
    obtain rfl := Option.some.inj h
    have hentry := hentries entry (List.mem_singleton_self entry)
    refine ⟨?_, iff_of_false (fun ⟨inner, hinner⟩ => hentry inner hinner) (by simp)⟩
    cases entry with
    | sequence inner => exact absurd rfl (hentry inner)
    | _ => rfl
  | first :: second :: rest =>
    intro h _
    obtain rfl := Option.some.inj h
    exact ⟨rfl, iff_of_true ⟨_, rfl⟩ (by simp)⟩

/-- Steps that stand for the same entries are composed to the same. -/
theorem compose_congr {steps steps' : List (Step T)} (h : flattenAll steps = flattenAll steps') :
    compose steps = compose steps' := by
  rw [compose, compose, h]

theorem sequential_flatten : Sequential (· ++ ·) [] (flatten (T := T)) flattenAll where
  assoc := List.append_assoc
  unit_op := List.nil_append
  op_unit := List.append_nil
  nil := by rw [flattenAll]
  cons step rest := by rw [flattenAll]
  sequence steps := by rw [flatten]

/-- What is flat stays as it is. -/
theorem flattenAll_flattenAll (steps : List (Step T)) :
    flattenAll (flattenAll steps) = flattenAll steps :=
  sequential_flatten.flattenAll steps

/-- What was composed is composed to itself, as a step and by its members. -/
theorem compose_of_compose {steps : List (Step T)} {step : Step T} (h : compose steps = some step) :
    compose [step] = some step ∧ compose step.members = some step := by
  have hmembers : compose step.members = some step := by
    rw [(members_of_compose h).1, compose_congr (flattenAll_flattenAll steps), h]
  refine ⟨?_, hmembers⟩
  -- A step and its members stand for the same entries.
  rw [← hmembers]
  refine compose_congr ?_
  rw [flattenAll, flattenAll, List.append_nil]
  cases step with
  | sequence inner => rw [flatten, members]
  | _ =>
    rw [members, flattenAll, flattenAll, List.append_nil]
    nofun

/-- **Composition is a normal form that no reading of steps tells from their sequence.** Steps stand
for one list of entries, none of them a sequence. They are composed to nothing if the list is empty,
and otherwise to a step with these members, which is a sequence only if there are several. It has
the depth and the counts of the sequence of the steps, is written as the same entries, ends alike on
every payload, and is recorded alike but for the places of decisions. Composing it again gives it
back, whether it is taken as one step or by its members. -/
theorem compose_transparent (steps : List (Step T)) :
    (∃ entries, StandFor steps entries ∧
      (∀ other, StandFor steps other → other = entries) ∧
      (∀ entry ∈ entries, ∀ inner, entry ≠ .sequence inner) ∧
      (compose steps = none ↔ entries = []) ∧
      ∀ step, compose steps = some step → step.members = entries ∧
        ((∃ inner, step = .sequence inner) ↔ 2 ≤ entries.length)) ∧
    (depthBody (compose steps) = (sequence steps).depth ∧
      statisticsBody (compose steps) = (sequence steps).statistics ∧
      (∀ discriminator, Document.writeBody discriminator (compose steps)
        = Document.writeStep discriminator (.sequence steps)) ∧
      runBody (compose steps) = (sequence steps).run ∧
      ∀ body body' index, viewed Trace.unplaced (runBodyTraced body (compose steps))
        = viewed Trace.unplaced (runTraced body' index (.sequence steps))) ∧
    ∀ step, compose steps = some step →
      compose [step] = some step ∧ compose step.members = some step := by
  refine ⟨⟨flattenAll steps, standFor_flattenAll steps, fun _ => standFor_iff.mp,
    (standFor_flattenAll steps).ne_sequence, compose_eq_none_iff, fun _ => members_of_compose⟩,
    ⟨?depth, ?statistics, fun discriminator => ?written, ?run, fun body body' index => ?traced⟩,
    fun _ => compose_of_compose⟩
  case depth => rw [depthBody_eq_elim, sequential_depth.compose, sequential_depth.sequence]
  case statistics =>
    rw [statisticsBody_eq_elim, sequential_statistics.compose, sequential_statistics.sequence]
  case written => rw [Document.writeBody_compose, Document.sequential_writeStep.sequence]
  case run => rw [runBody_eq_elim, sequential_run.compose, sequential_run.sequence]
  case traced =>
    rw [unplaced_runBodyTraced, sequential_unplaced.compose, ← sequential_unplaced.sequence]
    exact unplaced_runTraced _ [] body' 0 index

example (first second third : ConsumerNode T) :
    compose
      [.sequence [], .consumer first, .sequence [.sequence [.consumer second], .consumer third]]
      = some (.sequence [.consumer first, .consumer second, .consumer third]) :=
  rfl

end Step

end DecisionFlow
