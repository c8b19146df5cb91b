import DecisionFlow.Proofs.Flow.Sequential

/-!
# Normal forms of flows

In the normal form of a flow every body is composed: no sequence stands in another, and none has
fewer than two members. A body without entries is absent.

- `Step.normalEntries`, `Step.normalBody`, `Flow.normal`: the normal form.
- `Sequential.normalBody`: a reading that looks at the sides of a branch through itself does not
  tell a body from its normal form.
- `Flow.statistics_normal`, `Flow.run_normal`: in particular the normal form of a flow has the same
  counts and runs alike.
- `Step.Composed`, `Step.exists_composed_normalBody`: the lists of entries that bodies in normal
  form are composed of. An induction over them meets consumers and branches only.
- `Step.hollow`: a body that is there although it has no entry. `isSome_normalBody`: the normal form
  leaves it out.
-/

namespace DecisionFlow

variable {T : Type}

namespace Step

mutual

/-- The entries that a step stands for, with the bodies below in normal form. -/
def normalEntries : Step T → List (Step T)
  | .consumer node => [.consumer node]
  | .branch negated condition thenBody elseBody =>
    [.branch negated condition (normalBody thenBody) (normalBody elseBody)]
  | .sequence steps => normalEntriesAll steps

/-- The normal form of a body. -/
def normalBody : Option (Step T) → Option (Step T)
  | none => none
  | some step => compose (normalEntries step)

/-- The entries that steps stand for, in order. -/
def normalEntriesAll : List (Step T) → List (Step T)
  | [] => []
  | step :: rest => step.normalEntries ++ normalEntriesAll rest

end

end Step

/-- The normal form of a flow. -/
def Flow.normal (flow : Flow T) : Flow T := ⟨Step.normalBody flow.root⟩

/-- Normal entries are one of the walks that take steps in order. -/
theorem sequential_normalEntries :
    Sequential (· ++ ·) [] (Step.normalEntries (T := T)) Step.normalEntriesAll where
  assoc := List.append_assoc
  unit_op := List.nil_append
  op_unit := List.append_nil
  nil := by rw [Step.normalEntriesAll]
  cons step rest := by rw [Step.normalEntriesAll]
  sequence steps := by rw [Step.normalEntries]

/-- A normal body is composed of the normal entries. -/
theorem Step.normalBody_eq_compose (body : Option (Step T)) :
    normalBody body = compose (body.elim [] normalEntries) := by
  cases body with
  | none => rw [normalBody, Option.elim_none, compose, flattenAll]
  | some step => rw [normalBody, Option.elim_some]

/-- The normal form of a composed body is composed of the entries of its steps. -/
theorem Step.normalBody_compose (steps : List (Step T)) :
    normalBody (compose steps) = compose (normalEntriesAll steps) := by
  rw [normalBody_eq_compose, sequential_normalEntries.compose]

/-- Steps that are their only entries stay as they are. -/
theorem Step.normalEntriesAll_eq_self {steps : List (Step T)}
    (h : ∀ step ∈ steps, step.normalEntries = [step]) : normalEntriesAll steps = steps := by
  induction steps with
  | nil => rw [normalEntriesAll]
  | cons step rest ih =>
    obtain ⟨hstep, hrest⟩ := List.forall_mem_cons.mp h
    rw [normalEntriesAll, hstep, ih hrest, List.singleton_append]

/-! ## What the normal form preserves -/

namespace Sequential

variable {M : Type} {op : M → M → M} {unit : M} {one : Step T → M} {all : List (Step T) → M}

/-- A reading that looks at the sides of a branch only through itself. -/
def Congruent (unit : M) (one : Step T → M) : Prop :=
  ∀ negated condition (thenBody thenBody' elseBody elseBody' : Option (Step T)),
    thenBody.elim unit one = thenBody'.elim unit one →
    elseBody.elim unit one = elseBody'.elim unit one →
    one (.branch negated condition thenBody elseBody)
      = one (.branch negated condition thenBody' elseBody')

mutual

/-- A walk over the normal entries of a step is the walk over the step. -/
theorem normalEntries (h : Sequential op unit one all) (hbranch : Congruent unit one) :
    ∀ step : Step T, all step.normalEntries = one step
  | .consumer _ => by rw [Step.normalEntries, h.singleton]
  | .branch negated condition thenBody elseBody => by
    rw [Step.normalEntries, h.singleton]
    exact hbranch _ _ _ _ _ _ (h.normalBody hbranch thenBody) (h.normalBody hbranch elseBody)
  | .sequence steps => by rw [Step.normalEntries, h.normalEntriesAll hbranch steps, h.sequence]

/-- **Normal forms are read alike.** -/
theorem normalBody (h : Sequential op unit one all) (hbranch : Congruent unit one) :
    ∀ body : Option (Step T), (Step.normalBody body).elim unit one = body.elim unit one
  | none => by rw [Step.normalBody]
  | some step => by
    rw [Step.normalBody, h.compose, h.normalEntries hbranch step, Option.elim_some]

/-- A walk over the normal entries of steps is the walk over the steps. -/
theorem normalEntriesAll (h : Sequential op unit one all) (hbranch : Congruent unit one) :
    ∀ steps : List (Step T), all (Step.normalEntriesAll steps) = all steps
  | [] => by rw [Step.normalEntriesAll]
  | step :: rest => by
    rw [Step.normalEntriesAll, h.append, h.normalEntries hbranch step,
      h.normalEntriesAll hbranch rest, h.cons]

end

end Sequential

/-- A flow counts as many steps in normal form. -/
theorem Flow.statistics_normal (flow : Flow T) : flow.normal.statistics = flow.statistics := by
  rw [Flow.statistics, Flow.statistics, Flow.normal, statisticsBody_eq_elim, statisticsBody_eq_elim]
  refine sequential_statistics.normalBody ?_ flow.root
  intro negated condition thenBody thenBody' elseBody elseBody' hthen helse
  rw [Step.statistics, Step.statistics, statisticsBody_eq_elim, statisticsBody_eq_elim, hthen,
    helse, ← statisticsBody_eq_elim, ← statisticsBody_eq_elim]

/-- A flow in normal form runs as the flow does. -/
theorem Flow.run_normal (flow : Flow T) : flow.normal.run = flow.run := by
  rw [Flow.run, Flow.run, Flow.normal, runBody_eq_elim, runBody_eq_elim]
  refine sequential_run.normalBody ?_ flow.root
  intro negated condition thenBody thenBody' elseBody elseBody' hthen helse
  rw [Step.run, Step.run, runBody_eq_elim, runBody_eq_elim, hthen, helse, ← runBody_eq_elim,
    ← runBody_eq_elim]

/-! ## Composed entries -/

namespace Step

/-- Entries of a body in normal form: none is a sequence, and the sides of branches are composed of
such entries. -/
inductive Composed : List (Step T) → Prop where
  | nil : Composed []
  | consumer (node : ConsumerNode T) {rest : List (Step T)} (hrest : Composed rest) :
    Composed (.consumer node :: rest)
  | branch (negated : Bool) (condition : Condition T) {thenSteps elseSteps rest : List (Step T)}
    (hthen : Composed thenSteps) (helse : Composed elseSteps) (hrest : Composed rest) :
    Composed (.branch negated condition (compose thenSteps) (compose elseSteps) :: rest)

namespace Composed

variable {steps steps' : List (Step T)}

theorem append (h : Composed steps) (h' : Composed steps') : Composed (steps ++ steps') := by
  induction h with
  | nil => exact h'
  | consumer node _ ih => exact .consumer node ih
  | branch negated condition hthen helse _ _ _ ih =>
    exact .branch negated condition hthen helse ih

/-- No composed step is a sequence. -/
theorem ne_sequence (h : Composed steps) :
    ∀ step ∈ steps, ∀ inner, step ≠ .sequence inner := by
  induction h with
  | nil => exact List.forall_mem_nil _
  | consumer node _ ih => exact List.forall_mem_cons.mpr ⟨nofun, ih⟩
  | branch negated condition _ _ _ _ _ ih => exact List.forall_mem_cons.mpr ⟨nofun, ih⟩

/-- There is no sequence to dissolve. -/
theorem flattenAll_eq_self (h : Composed steps) : flattenAll steps = steps := by
  induction h with
  | nil => rw [flattenAll]
  | consumer node _ ih => rw [flattenAll, ih]; rfl
  | branch negated condition _ _ _ _ _ ih => rw [flattenAll, ih]; rfl

/-- A body of such entries is absent, the only entry, or the sequence of them. -/
theorem compose_cases (h : Composed steps) :
    (steps = [] ∧ compose steps = none) ∨
      (∃ step, steps = [step] ∧ compose steps = some step) ∨
      compose steps = some (.sequence steps) := by
  rw [compose, h.flattenAll_eq_self]
  cases steps with
  | nil => exact .inl ⟨rfl, rfl⟩
  | cons step rest =>
    cases rest with
    | nil => exact .inr (.inl ⟨step, rfl, rfl⟩)
    | cons next rest => exact .inr (.inr rfl)

/-- Such entries stay as they are. -/
theorem normalEntriesAll_eq_self (h : Composed steps) : normalEntriesAll steps = steps := by
  induction h with
  | nil => rw [normalEntriesAll]
  | consumer node _ ih => rw [normalEntriesAll, normalEntries, ih, List.singleton_append]
  | branch negated condition _ _ _ hthen helse ih =>
    rw [normalEntriesAll, normalEntries, normalBody_compose, normalBody_compose, hthen, helse, ih,
      List.singleton_append]

theorem normalBody_eq_self (h : Composed steps) : normalBody (compose steps) = compose steps := by
  rw [normalBody_compose, h.normalEntriesAll_eq_self]

end Composed

mutual

/-- Normal entries are composed. -/
theorem composed_normalEntries : ∀ step : Step T, Composed step.normalEntries
  | .consumer node => by
    rw [normalEntries]
    exact .consumer node .nil
  | .branch negated condition thenBody elseBody => by
    obtain ⟨thenSteps, hthen, heqThen⟩ := exists_composed_normalBody thenBody
    obtain ⟨elseSteps, helse, heqElse⟩ := exists_composed_normalBody elseBody
    rw [normalEntries, heqThen, heqElse]
    exact .branch negated condition hthen helse .nil
  | .sequence steps => by
    rw [normalEntries]
    exact composed_normalEntriesAll steps

/-- **A body in normal form is composed of entries in normal form.** -/
theorem exists_composed_normalBody :
    ∀ body : Option (Step T), ∃ steps, Composed steps ∧ normalBody body = compose steps
  | none => ⟨[], .nil, by rw [normalBody, compose, flattenAll]⟩
  | some step => ⟨step.normalEntries, composed_normalEntries step, by rw [normalBody]⟩

theorem composed_normalEntriesAll : ∀ steps : List (Step T), Composed (normalEntriesAll steps)
  | [] => by
    rw [normalEntriesAll]
    exact .nil
  | step :: rest => by
    rw [normalEntriesAll]
    exact (composed_normalEntries step).append (composed_normalEntriesAll rest)

end

/-! ## Bodies without entries -/

/-- Whether a body is there although no consumer or branch is in it. -/
def hollow : Option (Step T) → Bool
  | none => false
  | some step => step.flatten.isEmpty

mutual

/-- The normal form has as many entries as the step stands for. -/
theorem length_normalEntries : ∀ step : Step T, step.normalEntries.length = step.flatten.length
  | .consumer _ => by
    rw [normalEntries, flatten]
    nofun
  | .branch .. => by
    rw [normalEntries, flatten]
    · rfl
    · nofun
  | .sequence steps => by rw [normalEntries, flatten, length_normalEntriesAll steps]

theorem length_normalEntriesAll : ∀ steps : List (Step T),
    (normalEntriesAll steps).length = (flattenAll steps).length
  | [] => by rw [normalEntriesAll, flattenAll]
  | step :: rest => by
    rw [normalEntriesAll, flattenAll, List.length_append, List.length_append,
      length_normalEntries step, length_normalEntriesAll rest]

end

theorem Composed.isSome_compose {steps : List (Step T)} (h : Composed steps) :
    (compose steps).isSome = !steps.isEmpty := by
  rw [compose, h.flattenAll_eq_self]
  cases steps with
  | nil => rfl
  | cons step rest => cases rest <;> rfl

/-- The normal form of a body is absent if the body is, and if it is hollow. -/
theorem isSome_normalBody (body : Option (Step T)) :
    (normalBody body).isSome = (body.isSome && !hollow body) := by
  cases body with
  | none => rw [normalBody]; rfl
  | some step =>
    have hempty : step.normalEntries.isEmpty = step.flatten.isEmpty := by
      rw [Bool.eq_iff_iff, List.isEmpty_iff_length_eq_zero, List.isEmpty_iff_length_eq_zero,
        length_normalEntries]
    rw [normalBody, (composed_normalEntries step).isSome_compose, hempty]
    rfl

end Step

end DecisionFlow
