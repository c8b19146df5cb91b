import DecisionFlow.Flow

/-!
# What sequences stand for

Running, counting and measuring a sequence of steps all go member by member, so it does not matter
how the members are grouped. This is said once, for every reading of steps.

- `Sequential`: a reading that takes a sequence for its members, one after the other.
- `Sequential.flattenAll`, `Sequential.compose`: dissolving nested sequences does not change it.
- `sequential_statistics`, `sequential_depth`, `sequential_run`: the readings of this library.
- `inTurn`: one run after another, with what they yield put together.
-/

namespace DecisionFlow

variable {T : Type}

/-! ## Readings of steps -/

/-- A reading of steps that takes a sequence for its members, one after the other. -/
structure Sequential {M : Type} (op : M → M → M) (unit : M) (one : Step T → M)
    (all : List (Step T) → M) : Prop where
  assoc : ∀ a b c, op (op a b) c = op a (op b c)
  unit_op : ∀ a, op unit a = a
  op_unit : ∀ a, op a unit = a
  nil : all [] = unit
  cons : ∀ step rest, all (step :: rest) = op (one step) (all rest)
  sequence : ∀ steps, one (.sequence steps) = all steps

namespace Sequential

variable {M : Type} {op : M → M → M} {unit : M} {one : Step T → M} {all : List (Step T) → M}

/-- A list of one step is read as that step. -/
theorem singleton (h : Sequential op unit one all) (step : Step T) : all [step] = one step := by
  rw [h.cons, h.nil, h.op_unit]

/-- Steps one after the other are read one after the other. -/
theorem append (h : Sequential op unit one all) (steps more : List (Step T)) :
    all (steps ++ more) = op (all steps) (all more) := by
  induction steps with
  | nil => rw [List.nil_append, h.nil, h.unit_op]
  | cons step rest ih => rw [List.cons_append, h.cons, h.cons, ih, h.assoc]

mutual

/-- A step is read as the consumers and branches that it stands for. -/
theorem flatten (h : Sequential op unit one all) : ∀ step : Step T, all step.flatten = one step
  | .consumer _ => by simp [Step.flatten, h.singleton]
  | .branch .. => by simp [Step.flatten, h.singleton]
  | .sequence steps => by rw [Step.flatten, h.flattenAll steps, h.sequence]

/-- Dissolving nested sequences does not change what steps are read as. -/
theorem flattenAll (h : Sequential op unit one all) :
    ∀ steps : List (Step T), all (Step.flattenAll steps) = all steps
  | [] => by rw [Step.flattenAll]
  | step :: rest => by
    rw [Step.flattenAll, h.append, h.flatten step, h.flattenAll rest, h.cons]

end

/-- Composing steps does not change what they are read as. -/
theorem compose (h : Sequential op unit one all) (steps : List (Step T)) :
    (Step.compose steps).elim unit one = all steps := by
  rw [← h.flattenAll, Step.compose]
  -- A step that is left alone is not put into a sequence.
  match Step.flattenAll steps with
  | [] => exact h.nil.symm
  | [step] => exact (h.singleton step).symm
  | first :: second :: rest => exact h.sequence _

end Sequential

/-! ## Counts and depth -/

/-- An absent body counts nothing. -/
theorem statisticsBody_eq_elim (body : Option (Step T)) :
    Step.statisticsBody body = body.elim {} Step.statistics := by
  cases body <;> rw [Step.statisticsBody] <;> rfl

theorem depthBody_eq_elim (body : Option (Step T)) :
    Step.depthBody body = body.elim 0 Step.depth := by
  cases body <;> rw [Step.depthBody] <;> rfl

theorem Statistics.add_def (s t : Statistics) : s + t = s.beside t := rfl

/-- Counts of steps in a sequence add up. -/
theorem sequential_statistics :
    Sequential (· + ·) ({} : Statistics) (Step.statistics (T := T)) Step.statisticsAll where
  assoc a b c := by
    simp only [Statistics.add_def, Statistics.beside, Nat.add_assoc, Nat.max_assoc]
  unit_op a := by simp [Statistics.add_def, Statistics.beside]
  op_unit a := by simp [Statistics.add_def, Statistics.beside]
  nil := by rw [Step.statisticsAll]
  cons step rest := by rw [Step.statisticsAll]
  sequence steps := by rw [Step.statistics]

/-- A sequence is as deep as its deepest step. -/
theorem sequential_depth : Sequential max 0 (Step.depth (T := T)) Step.depthAll where
  assoc := Nat.max_assoc
  unit_op := Nat.zero_max
  op_unit := Nat.max_zero
  nil := by rw [Step.depthAll]
  cons step rest := by rw [Step.depthAll]
  sequence steps := by rw [Step.depth]

/-! ## Runs -/

/-- One run after another: the second runs if the first has not failed, and what they yield is put
together. -/
def inTurn {A : Type} (join : A → A → A) (first second : EStateM Failure T A) :
    EStateM Failure T A := fun payload =>
  match first payload with
  | .error failure payload => .error failure payload
  | .ok a payload =>
    match second payload with
    | .error failure payload => .error failure payload
    | .ok b payload => .ok (join a b) payload

section InTurn

variable {A : Type} {join : A → A → A}

/-- Runs in turn may be put together in either order, if what they yield may. -/
theorem inTurn_assoc (hassoc : ∀ a b c, join (join a b) c = join a (join b c))
    (first second third : EStateM Failure T A) :
    inTurn join (inTurn join first second) third =
      inTurn join first (inTurn join second third) := by
  funext payload
  simp only [inTurn]
  cases first payload with
  | error failure payload => rfl
  | ok a payload =>
    dsimp only
    cases second payload with
    | error failure payload => rfl
    | ok b payload =>
      dsimp only
      cases third payload with
      | error failure payload => rfl
      | ok c payload => exact congrArg (EStateM.Result.ok · payload) (hassoc a b c)

/-- A run that yields the unit and changes nothing can come first without a trace. -/
theorem pure_inTurn {unit : A} (hunit : ∀ a, join unit a = a) (run : EStateM Failure T A) :
    inTurn join (fun payload => .ok unit payload) run = run := by
  funext payload
  simp only [inTurn]
  cases run payload with
  | error failure payload => rfl
  | ok a payload => exact congrArg (EStateM.Result.ok · payload) (hunit a)

theorem inTurn_pure {unit : A} (hunit : ∀ a, join a unit = a) (run : EStateM Failure T A) :
    inTurn join run (fun payload => .ok unit payload) = run := by
  funext payload
  simp only [inTurn]
  cases run payload with
  | error failure payload => rfl
  | ok a payload => exact congrArg (EStateM.Result.ok · payload) (hunit a)

/-- Runs in turn succeed if both do. -/
theorem inTurn_eq_ok_iff {first second : EStateM Failure T A} {payload after : T} {a : A} :
    inTurn join first second payload = .ok a after ↔
      ∃ b between, first payload = .ok b between ∧ ∃ c, second between = .ok c after ∧
        a = join b c := by
  rw [inTurn]
  cases first payload with
  | error failure between => simp
  | ok b between =>
    dsimp only
    cases hsecond : second between with
    | error failure later =>
      constructor
      · intro h
        cases h
      · rintro ⟨_, _, h, c, hc, -⟩
        cases h
        rw [hsecond] at hc
        cases hc
    | ok c later =>
      constructor
      · intro h
        cases h
        exact ⟨b, between, rfl, c, hsecond, rfl⟩
      · rintro ⟨_, _, h, c, hc, rfl⟩
        cases h
        rw [hsecond] at hc
        cases hc
        rfl

end InTurn

/-- An absent body is skipped. -/
theorem runBody_eq_elim (body : Option (Step T)) :
    Step.runBody body = body.elim Consumer.skip Step.run := by
  cases body <;> rw [Step.runBody] <;> rfl

/-- Steps of a sequence run in turn. -/
theorem sequential_run :
    Sequential (inTurn fun _ _ => ()) Consumer.skip (Step.run (T := T)) Step.runAll where
  assoc := inTurn_assoc fun _ _ _ => rfl
  unit_op := pure_inTurn fun _ => rfl
  op_unit := inTurn_pure fun _ => rfl
  nil := by rw [Step.runAll]
  cons step rest := by
    funext payload
    simp only [Step.runAll, inTurn]
    cases step.run payload with
    | error failure payload => rfl
    | ok _ payload =>
      dsimp only
      cases Step.runAll rest payload <;> rfl
  sequence steps := by rw [Step.run]

end DecisionFlow
