import DecisionFlow.Proofs.Flow.Tracing

/-!
# Records of one step at two places

Where a step stands only shows in the places of its decisions. If the places of two runs are told
alike, so are the runs.

- `Trace.moved`: a record with its decisions at other places.
- `Aligned`: entries of two bodies whose places are told alike. A sequence numbers its own entries
  from zero, so it has to be aligned from there as well.
- `Step.moved_runTraced`: **runs of a step at aligned places are recorded alike.**
- `Trace.unplaced`, `sequential_unplaced`: in particular if no place is told, and then it does not
  matter how steps are grouped.
-/

namespace DecisionFlow

variable {T : Type}

/-! ## Places that are moved -/

/-- The decision at another place. -/
def Decision.moved (move : Locator → Locator) (d : Decision) : Decision :=
  { d with path := move d.path }

namespace Trace

/-- The record with its decisions at other places. -/
def moved (move : Locator → Locator) (t : Trace) : Trace :=
  ⟨t.decisions.map (·.moved move), t.consumersInvoked⟩

/-- The record without places: of each decision the statement, the condition and the
outcome remain. -/
def unplaced (t : Trace) : Trace := t.moved fun _ => []

variable (move : Locator → Locator)

/-- Traces are moved decision by decision. -/
theorem moved_append (s t : Trace) : (s ++ t).moved move = s.moved move ++ t.moved move :=
  congrArg (Trace.mk · _) List.map_append

theorem moved_id (t : Trace) : t.moved id = t :=
  congrArg (Trace.mk · _) (List.map_id t.decisions)

end Trace

/-- Places in the entries of two bodies are told alike, the entries being counted from `index` in
one body and from `index'` in the other. -/
def Aligned (move move' : Locator → Locator) (body : Locator) (index : Nat) (body' : Locator)
    (index' : Nat) : Prop :=
  ∀ i rest, move (body.item (index + i) ++ rest) = move' (body'.item (index' + i) ++ rest)

namespace Aligned

variable {move move' : Locator → Locator} {body body' : Locator} {index index' : Nat}

/-- Moves that are aligned take an entry to the same place. -/
theorem entry (h : Aligned move move' body index body' index') (name : String) :
    move (body.entry index name) = move' (body'.entry index' name) :=
  h 0 [.field name]

/-- The entries after the first are aligned. -/
theorem next (h : Aligned move move' body index body' index') :
    Aligned move move' body (index + 1) body' (index' + 1) := by
  intro i rest
  rw [Nat.add_assoc, Nat.add_assoc]
  exact h (1 + i) rest

/-- So are the bodies of a branch that is the first entry. -/
theorem bodyPath (h : Aligned move move' body index body' index') (name : String)
    (takeThen : Bool) :
    Aligned move move' (Branch.bodyPath (body.entry index name) takeThen) 0
      (Branch.bodyPath (body'.entry index' name) takeThen) 0 := by
  intro i rest
  cases takeThen with
  | true =>
    have hbelow := h 0 ([.field name, .index 1, .field "then", .index (0 + i)] ++ rest)
    simpa [Branch.bodyPath, Locator.entry, Locator.item, Locator.field] using hbelow
  | false =>
    have hbelow := h 0 ([.field name, .index 2, .field "else", .index (0 + i)] ++ rest)
    simpa [Branch.bodyPath, Locator.entry, Locator.item, Locator.field] using hbelow

end Aligned

/-! ## Runs at aligned places -/

theorem viewed_viewed {A B C : Type} (view : A → B) (more : B → C) (run : EStateM Failure T A) :
    viewed more (viewed view run) = viewed (fun a => more (view a)) run := by
  funext payload
  simp only [viewed]
  cases run payload <;> rfl

theorem viewed_moved_id (run : TracedRun T) : viewed (Trace.moved id) run = run := by
  funext payload
  rw [viewed]
  cases run payload with
  | error failure payload => rfl
  | ok trace payload => exact congrArg (EStateM.Result.ok · payload) trace.moved_id

theorem moved_recorded (move : Locator → Locator) (d : Decision) (run : TracedRun T) :
    viewed (Trace.moved move) (TracedRun.recorded d run)
      = TracedRun.recorded (d.moved move) (viewed (Trace.moved move) run) := by
  simp only [Step.recorded_eq_viewed, viewed_viewed, Trace.moved_append]
  rfl

/-- Two runs in turn may be moved one by one. -/
theorem moved_inTurn (move : Locator → Locator) (first second : TracedRun T) :
    viewed (Trace.moved move) (inTurn (· ++ ·) first second)
      = inTurn (· ++ ·) (viewed (Trace.moved move) first) (viewed (Trace.moved move) second) := by
  funext payload
  simp only [viewed, inTurn]
  cases first payload with
  | error failure payload => rfl
  | ok trace payload =>
    dsimp only
    cases second payload with
    | error failure payload => rfl
    | ok more payload =>
      exact congrArg (EStateM.Result.ok · payload) (Trace.moved_append move trace more)

namespace Step

variable {move move' : Locator → Locator}

mutual

/-- **Runs of a step at aligned places are recorded alike.** -/
theorem moved_runTraced : ∀ (step : Step T) {body body' : Locator} {index index' : Nat},
    Aligned move move' body index body' index' →
    (∀ steps, step = .sequence steps → Aligned move move' body 0 body' 0) →
      viewed (Trace.moved move) (runTraced body index step)
        = viewed (Trace.moved move') (runTraced body' index' step)
  | .consumer node, body, body', index, index', _, _ => by
    rw [runTraced_consumer, runTraced_consumer, viewed_viewed, viewed_viewed]
    rfl
  | .branch negated condition thenBody elseBody, body, body', index, index', h, _ => by
    funext payload
    simp only [viewed, runTraced]
    cases condition.test payload with
    | error failure => rfl
    | ok passed =>
      -- The decision is at an aligned place, and so is the body of either side.
      have hdecision : ∀ outcome, Decision.moved move
            ⟨body.entry index (Branch.statementOf negated).name, Branch.statementOf negated,
              passed, outcome⟩
          = Decision.moved move' ⟨body'.entry index' (Branch.statementOf negated).name,
              Branch.statementOf negated, passed, outcome⟩ :=
        fun outcome => congrArg (Decision.mk · _ _ outcome) (h.entry _)
      dsimp only
      cases passed != negated with
      | true =>
        refine congrFun
          ((moved_recorded move _ _).trans (Eq.trans ?_ (moved_recorded move' _ _).symm)) payload
        rw [hdecision, moved_runBodyTraced thenBody (h.bodyPath _ true)]
      | false =>
        refine congrFun
          ((moved_recorded move _ _).trans (Eq.trans ?_ (moved_recorded move' _ _).symm)) payload
        rw [hdecision, moved_runBodyTraced elseBody (h.bodyPath _ false)]
  | .sequence steps, body, body', index, index', _, hzero => by
    have haligned := hzero steps rfl
    rw [runTraced, runTraced]
    exact moved_runAllTraced steps haligned fun _ _ _ _ => haligned

theorem moved_runBodyTraced : ∀ (step : Option (Step T)) {path path' : Locator},
    Aligned move move' path 0 path' 0 →
      viewed (Trace.moved move) (runBodyTraced path step)
        = viewed (Trace.moved move') (runBodyTraced path' step)
  | none, path, path', _ => by rw [runBodyTraced, runBodyTraced]; rfl
  | some step, path, path', h => by
    rw [runBodyTraced, runBodyTraced]
    exact moved_runTraced step h fun _ _ => h

/-- Steps that run at another place record what is moved to there. -/
theorem moved_runAllTraced :
    ∀ (steps : List (Step T)) {body body' : Locator} {index index' : Nat},
    Aligned move move' body index body' index' →
    (∀ step ∈ steps, ∀ inner, step = .sequence inner →
      Aligned move move' body 0 body' 0) →
      viewed (Trace.moved move) (runAllTraced body index steps)
        = viewed (Trace.moved move') (runAllTraced body' index' steps)
  | [], body, body', index, index', _, _ => by rw [runAllTraced, runAllTraced]; rfl
  | step :: rest, body, body', index, index', h, hzero => by
    obtain ⟨hstep, hrest⟩ := List.forall_mem_cons.mp hzero
    rw [runAllTraced_cons, runAllTraced_cons, moved_inTurn, moved_inTurn,
      moved_runTraced step h hstep, moved_runAllTraced rest h.next hrest]

end

end Step

/-! ## Runs without places -/

/-- The run that records nothing. -/
def TracedRun.idle : TracedRun T := fun payload => .ok .empty payload

/-- Without places, a run is recorded alike wherever it is. -/
theorem aligned_unplaced {body body' : Locator} {index index' : Nat} :
    Aligned (fun _ => []) (fun _ => []) body index body' index' :=
  fun _ _ => rfl

/-- Without its paths, the trace of a step does not depend on where it runs. -/
theorem unplaced_runTraced (step : Step T) (body body' : Locator) (index index' : Nat) :
    viewed Trace.unplaced (Step.runTraced body index step)
      = viewed Trace.unplaced (Step.runTraced body' index' step) :=
  Step.moved_runTraced step aligned_unplaced fun _ _ => aligned_unplaced

theorem unplaced_runBodyTraced (body : Option (Step T)) (path : Locator) :
    viewed Trace.unplaced (Step.runBodyTraced path body)
      = body.elim TracedRun.idle fun step => viewed Trace.unplaced (Step.runTraced [] 0 step) := by
  cases body with
  | none => rw [Step.runBodyTraced]; rfl
  | some step => rw [Step.runBodyTraced]; exact unplaced_runTraced step path [] 0 0

/-- Without its paths, the trace of steps does not depend on where they run. -/
theorem unplaced_runAllTraced (steps : List (Step T)) (body body' : Locator) (index index' : Nat) :
    viewed Trace.unplaced (Step.runAllTraced body index steps)
      = viewed Trace.unplaced (Step.runAllTraced body' index' steps) :=
  Step.moved_runAllTraced steps aligned_unplaced fun _ _ _ _ => aligned_unplaced

/-- Without places, the members of a sequence are recorded one after the other. -/
theorem sequential_unplaced : Sequential (inTurn (· ++ ·)) TracedRun.idle
    (fun step : Step T => viewed Trace.unplaced (Step.runTraced [] 0 step))
    (fun steps => viewed Trace.unplaced (Step.runAllTraced [] 0 steps)) where
  assoc := inTurn_assoc Trace.append_assoc
  unit_op := pure_inTurn Trace.empty_append
  op_unit := inTurn_pure Trace.append_empty
  nil := by rw [Step.runAllTraced]; rfl
  cons step rest := by
    rw [Step.runAllTraced_cons, unplaced_runAllTraced rest [] [] 0 (0 + 1)]
    exact moved_inTurn _ _ _
  sequence steps := by rw [Step.runTraced]

end DecisionFlow
