import DecisionFlow.Proofs.Flow.Places

/-!
# Recorded and written places

A sequence that stands in another is written in line, so its entries are counted on from those
before it. A run numbers them anew from zero. The two agree in flows whose sequences hold no
sequences, as in those that documents are read as, and may part in others.

- `Placement`, `Step.placements`, `Flow.placements`: the branches of a flow with the places at which
  runs record them and at which they are written.
- `Step.map_recorded_placements`, `Step.map_written_placements`: these are the places in the flow
  and in its normal form.
- `Step.flat`, `Flow.recorded_eq_written`: where no sequence holds a sequence the places are the
  same. `Flow.flat_normal`: so they are in normal forms.
- `Meeting`: a branch that a run met, with what the flow and what its normal form record of it.
- `Flow.exists_met`: the normal form meets the same branches with the same results.
-/

namespace DecisionFlow

variable {T : Type}

/-! ## Both places of a branch -/

/-- A branch and its places. -/
structure Placement (T : Type) where
  branch : Branch T
  /-- Where runs record it. -/
  recorded : Locator
  /-- Where it is written. -/
  written : Locator

namespace Step

mutual

/-- The branches in a step with their places. For runs the step is entry `index` of the body at
`recorded`. What it stands for is written as the entries from `position` on of the body at
`written`. -/
def placements (recorded written : Locator) (index position : Nat) : Step T → List (Placement T)
  | .consumer _ => []
  | .branch negated condition thenBody elseBody =>
    let ran := recorded.entry index (Branch.statementOf negated).name
    let wrote := written.entry position (Branch.statementOf negated).name
    ⟨⟨negated, condition, thenBody, elseBody⟩, ran, wrote⟩ ::
      (placementsBody (Branch.bodyPath ran true) (Branch.bodyPath wrote true) thenBody
        ++ placementsBody (Branch.bodyPath ran false) (Branch.bodyPath wrote false) elseBody)
  | .sequence steps => placementsAll recorded written 0 position steps

/-- The branches in a body with their places. -/
def placementsBody (recorded written : Locator) : Option (Step T) → List (Placement T)
  | none => []
  | some step => placements recorded written 0 0 step

/-- The branches in steps with their places. Each step is one entry for runs, and is written as
those it stands for. -/
def placementsAll (recorded written : Locator) (index position : Nat) :
    List (Step T) → List (Placement T)
  | [] => []
  | step :: rest =>
    placements recorded written index position step
      ++ placementsAll recorded written (index + 1) (position + step.flatten.length) rest

end

end Step

/-- The branches of a flow with the places at which runs record them and at which they
are written. -/
def Flow.placements (flow : Flow T) : List (Placement T) := Step.placementsBody [] [] flow.root

/-- A branch with its sides in normal form. -/
def Branch.normal (branch : Branch T) : Branch T :=
  ⟨branch.negated, branch.condition, Step.normalBody branch.thenBody,
    Step.normalBody branch.elseBody⟩

/-- The side of a normal branch is the normal form of the side. -/
theorem Branch.side_normal (branch : Branch T) (takeThen : Bool) :
    branch.normal.side takeThen = Step.normalBody (branch.side takeThen) := by
  cases takeThen <;> rfl

/-- The branch at the place where runs record it. -/
def Placement.recordedSite (p : Placement T) : Site T := ⟨p.recorded, p.branch⟩

/-- The branch in normal form, at the place where it is written. -/
def Placement.writtenSite (p : Placement T) : Site T := ⟨p.written, p.branch.normal⟩

namespace Step

mutual

/-- Runs record the branches at the places of the step. -/
theorem map_recorded_placements :
    ∀ (step : Step T) (recorded written : Locator) (index position : Nat),
    (placements recorded written index position step).map Placement.recordedSite
      = places recorded index step
  | .consumer _, recorded, written, index, position => by
    rw [placements, places]
    rfl
  | .branch negated condition thenBody elseBody, recorded, written, index, position => by
    rw [placements, places, List.map_cons, List.map_append, map_recorded_placementsBody thenBody,
      map_recorded_placementsBody elseBody]
    rfl
  | .sequence steps, recorded, written, index, position => by
    rw [placements, places, map_recorded_placementsAll steps]

theorem map_recorded_placementsBody : ∀ (body : Option (Step T)) (recorded written : Locator),
    (placementsBody recorded written body).map Placement.recordedSite = placesBody recorded body
  | none, recorded, written => by
    rw [placementsBody, placesBody]
    rfl
  | some step, recorded, written => by
    rw [placementsBody, placesBody, map_recorded_placements step]

theorem map_recorded_placementsAll : ∀ (steps : List (Step T)) (recorded written : Locator)
    (index position : Nat),
    (placementsAll recorded written index position steps).map Placement.recordedSite
      = placesAll recorded index steps
  | [], recorded, written, index, position => by
    rw [placementsAll, placesAll]
    rfl
  | step :: rest, recorded, written, index, position => by
    rw [placementsAll, placesAll, List.map_append, map_recorded_placements step,
      map_recorded_placementsAll rest]

end

/-- The places in entries after others. -/
theorem placesAll_append (steps more : List (Step T)) (body : Locator) (index : Nat) :
    placesAll body index (steps ++ more)
      = placesAll body index steps ++ placesAll body (index + steps.length) more := by
  induction steps generalizing index with
  | nil => rw [List.nil_append, placesAll, List.nil_append, List.length_nil, Nat.add_zero]
  | cons step rest ih =>
    rw [List.cons_append, placesAll, placesAll, ih, List.append_assoc, List.length_cons,
      Nat.add_assoc, Nat.add_comm 1]

mutual

/-- The branches are written at the places of the normal form. -/
theorem map_written_placements :
    ∀ (step : Step T) (recorded written : Locator) (index position : Nat),
    (placements recorded written index position step).map Placement.writtenSite
      = placesAll written position step.normalEntries
  | .consumer _, recorded, written, index, position => by
    rw [placements, normalEntries, placesAll, places, placesAll]
    rfl
  | .branch negated condition thenBody elseBody, recorded, written, index, position => by
    rw [placements, normalEntries, placesAll, places, placesAll, List.append_nil, List.map_cons,
      List.map_append, map_written_placementsBody thenBody, map_written_placementsBody elseBody]
    rfl
  | .sequence steps, recorded, written, index, position => by
    rw [placements, normalEntries, map_written_placementsAll steps]

theorem map_written_placementsBody : ∀ (body : Option (Step T)) (recorded written : Locator),
    (placementsBody recorded written body).map Placement.writtenSite
      = placesBody written (normalBody body)
  | none, recorded, written => by
    rw [placementsBody, normalBody, placesBody]
    rfl
  | some step, recorded, written => by
    rw [placementsBody, normalBody, placesBody_compose (composed_normalEntries step),
      map_written_placements step]

theorem map_written_placementsAll : ∀ (steps : List (Step T)) (recorded written : Locator)
    (index position : Nat),
    (placementsAll recorded written index position steps).map Placement.writtenSite
      = placesAll written position (normalEntriesAll steps)
  | [], recorded, written, index, position => by
    rw [placementsAll, normalEntriesAll, placesAll]
    rfl
  | step :: rest, recorded, written, index, position => by
    rw [placementsAll, normalEntriesAll, placesAll_append, List.map_append,
      map_written_placements step, map_written_placementsAll rest, length_normalEntries]

end

end Step

/-- Read by where they are recorded, the placements are the places of the flow. -/
theorem Flow.map_recorded_placements (flow : Flow T) :
    flow.placements.map Placement.recordedSite = flow.places :=
  Step.map_recorded_placementsBody flow.root [] []

/-- Read by where they are written, the placements are the places of the normal form. -/
theorem Flow.map_written_placements (flow : Flow T) :
    flow.placements.map Placement.writtenSite = flow.normal.places :=
  Step.map_written_placementsBody flow.root [] []

/-- No two branches are written at one place. -/
theorem Flow.nodup_written (flow : Flow T) : (flow.placements.map (·.written)).Nodup := by
  obtain ⟨steps, hsteps, hroot⟩ := Step.exists_composed_normalBody flow.root
  have hplaces : flow.normal.places = Step.placesAll [] 0 steps := by
    rw [Flow.places, Flow.normal, hroot, Step.placesBody_compose hsteps]
  have hnodup : ((Step.placesAll [] 0 steps).map (·.path)).Nodup := Step.nodup_places hsteps
  rw [← hplaces, ← flow.map_written_placements, List.map_map] at hnodup
  exact hnodup

/-! ## Flat flows -/

namespace Step

mutual

/-- Whether a step is no sequence, and the bodies in it are flat. -/
def flat : Step T → Bool
  | .consumer _ => true
  | .branch _ _ thenBody elseBody => flatBody thenBody && flatBody elseBody
  | .sequence _ => false

/-- Whether the entries of a body are no sequences, and so on below. -/
def flatBody : Option (Step T) → Bool
  | none => true
  | some (.sequence steps) => flatAll steps
  | some step => step.flat

/-- Whether all steps are flat. -/
def flatAll : List (Step T) → Bool
  | [] => true
  | step :: rest => step.flat && flatAll rest

end

/-- A flat step stands for itself only. -/
theorem length_flatten_of_flat {step : Step T} (h : step.flat = true) :
    step.flatten.length = 1 := by
  cases step with
  | sequence steps =>
    rw [flat] at h
    cases h
  | _ =>
    rw [flatten]
    · rfl
    · intro steps h
      cases h

mutual

/-- **The entries of a flat body are numbered as they are written.** -/
theorem recorded_eq_written :
    ∀ (step : Step T) (path : Locator) (index : Nat), step.flat = true →
    ∀ p ∈ placements path path index index step, p.recorded = p.written
  | .consumer _, path, index, _ => by
    rw [placements]
    exact List.forall_mem_nil _
  | .branch negated condition thenBody elseBody, path, index, h => by
    rw [flat, Bool.and_eq_true] at h
    rw [placements, List.forall_mem_cons, List.forall_mem_append]
    exact ⟨rfl, recorded_eq_written_body thenBody _ h.1,
      recorded_eq_written_body elseBody _ h.2⟩
  | .sequence _, path, index, h => by
    rw [flat] at h
    cases h

theorem recorded_eq_written_body :
    ∀ (body : Option (Step T)) (path : Locator), flatBody body = true →
    ∀ p ∈ placementsBody path path body, p.recorded = p.written
  | none, path, _ => by
    rw [placementsBody]
    exact List.forall_mem_nil _
  | some (.sequence steps), path, h => by
    rw [flatBody] at h
    rw [placementsBody, placements]
    exact recorded_eq_written_all steps path 0 h
  | some (.consumer node), path, h => by
    rw [placementsBody, placements]
    exact List.forall_mem_nil _
  | some (.branch negated condition thenBody elseBody), path, h => by
    rw [flatBody] at h
    · rw [placementsBody]
      exact recorded_eq_written _ path 0 h
    · intro steps h
      cases h

/-- In flat steps every branch is written where it is recorded. -/
theorem recorded_eq_written_all : ∀ (steps : List (Step T)) (path : Locator) (index : Nat),
    flatAll steps = true →
    ∀ p ∈ placementsAll path path index index steps, p.recorded = p.written
  | [], path, index, _ => by
    rw [placementsAll]
    exact List.forall_mem_nil _
  | step :: rest, path, index, h => by
    rw [flatAll, Bool.and_eq_true] at h
    rw [placementsAll, length_flatten_of_flat h.1, List.forall_mem_append]
    exact ⟨recorded_eq_written step path index h.1,
      recorded_eq_written_all rest path (index + 1) h.2⟩

end

theorem flatBody_compose {steps : List (Step T)} (h : Composed steps)
    (hflat : flatAll steps = true) : flatBody (compose steps) = true := by
  obtain ⟨rfl, hbody⟩ | ⟨step, rfl, hbody⟩ | hbody := h.compose_cases
  · rw [hbody, flatBody]
  · rw [flatAll, Bool.and_eq_true] at hflat
    rw [hbody]
    cases step with
    | sequence steps =>
      rw [flat] at hflat
      cases hflat.1
    | _ =>
      rw [flatBody]
      · exact hflat.1
      · intro steps h
        cases h
  · rw [hbody, flatBody]
    exact hflat

/-- Composed steps hold no sequence. -/
theorem Composed.flatAll {steps : List (Step T)} (h : Composed steps) :
    Step.flatAll steps = true := by
  induction h with
  | nil => rw [Step.flatAll]
  | consumer node _ ih => rw [Step.flatAll, flat, ih, Bool.and_self]
  | branch negated condition hthen helse _ ihThen ihElse ih =>
    rw [Step.flatAll, flat, flatBody_compose hthen ihThen, flatBody_compose helse ihElse, ih,
      Bool.and_self, Bool.and_self]

end Step

/-- Whether no sequence in a flow holds a sequence. -/
def Flow.flat (flow : Flow T) : Bool := Step.flatBody flow.root

/-- In a flat flow branches are recorded where they are written. -/
theorem Flow.recorded_eq_written {flow : Flow T} (h : flow.flat = true) :
    ∀ p ∈ flow.placements, p.recorded = p.written :=
  Step.recorded_eq_written_body flow.root [] h

/-- A flow in normal form is flat. -/
theorem Flow.flat_normal (flow : Flow T) : flow.normal.flat = true := by
  obtain ⟨steps, hsteps, hroot⟩ := Step.exists_composed_normalBody flow.root
  rw [Flow.flat, Flow.normal, hroot]
  exact Step.flatBody_compose hsteps hsteps.flatAll

/-! ## Meetings -/

/-- A branch that a run met, with the result of its condition. -/
structure Meeting (T : Type) where
  placement : Placement T
  /-- The result of the condition, before any inversion. -/
  passed : Bool

namespace Meeting

/-- Whether `then` is selected. -/
def takesThen (m : Meeting T) : Bool := m.passed != m.placement.branch.negated

/-- The body of the side that is selected. -/
def side (m : Meeting T) : Option (Step T) := m.placement.branch.side m.takesThen

/-- What a run of the flow records. -/
def recorded (m : Meeting T) : Decision :=
  ⟨m.placement.recorded, m.placement.branch.statement, m.passed, .of m.takesThen m.side.isSome⟩

/-- What a run of the normal form records: it has the branch where it is written, and lacks hollow
sides. -/
def restored (m : Meeting T) : Decision :=
  ⟨m.placement.written, m.placement.branch.statement, m.passed,
    .of m.takesThen (m.side.isSome && !Step.hollow m.side)⟩

/-- The two tell the same if both places do and the side is not hollow. -/
theorem recorded_eq_restored_iff (m : Meeting T) :
    m.recorded = m.restored ↔
      m.placement.recorded = m.placement.written ∧ Step.hollow m.side = false := by
  rw [recorded, restored, Decision.mk.injEq]
  simp only [true_and]
  refine and_congr_right fun _ => ?_
  cases m.side with
  | none => simp [Step.hollow]
  | some step =>
    cases Step.hollow (some step) with
    | false => simp
    | true => cases m.takesThen <;> simp [Outcome.of]

end Meeting

/-! ## Runs of the normal form -/

theorem runAllTraced_singleton {step : Step T} {body : Locator} {index : Nat} {payload after : T}
    {trace : Trace} (h : Step.runTraced body index step payload = .ok trace after) :
    Step.runAllTraced body index [step] payload = .ok trace after := by
  refine runAllTraced_cons_eq_ok_iff.mpr ⟨trace, after, h, .empty, ?_, ?_⟩
  · rw [Step.runAllTraced]
  · rw [Trace.append_empty]

/-- A run recorded meetings with some of the branches, in order, and the run of the normal form does
the same with what it records of them. -/
def Retraced (placements : List (Placement T)) (normal : TracedRun T) (payload : T) (trace : Trace)
    (after : T) : Prop :=
  ∃ met : List (Meeting T), (met.map (·.placement)).Sublist placements ∧
    trace.decisions = met.map Meeting.recorded ∧
    normal payload = .ok ⟨met.map Meeting.restored, trace.consumersInvoked⟩ after

/-- A branch has one normal entry, the branch in normal form. -/
theorem Step.normalEntries_branch (branch : Branch T) :
    branch.toStep.normalEntries = [branch.normal.toStep] := by
  rw [Branch.toStep, Step.normalEntries]
  rfl

/-- The meetings in the side that runs are among the branches of both sides. -/
theorem Step.cons_sublist_placements {branch : Branch T} {recorded written : Locator}
    {index position : Nat} {found : List (Placement T)} (takeThen : Bool)
    (h : found.Sublist (Step.placementsBody
      (Branch.bodyPath (recorded.entry index branch.statement.name) takeThen)
      (Branch.bodyPath (written.entry position branch.statement.name) takeThen)
      (branch.side takeThen))) :
    (⟨branch, recorded.entry index branch.statement.name,
      written.entry position branch.statement.name⟩
      :: found).Sublist (Step.placements recorded written index position branch.toStep) := by
  rw [Branch.toStep, Step.placements]
  refine (h.trans ?_).cons_cons _
  cases takeThen with
  | true => exact List.sublist_append_left ..
  | false => exact List.sublist_append_right ..

/-- A branch is retraced in normal form if its sides are. -/
theorem retraced_of_runTraced_branch (branch : Branch T) {recorded written : Locator}
    {index position : Nat} {payload after : T} {trace : Trace}
    (hside : ∀ takeThen ran wrote inner,
      Step.runBodyTraced ran (branch.side takeThen) payload = .ok inner after →
        Retraced (Step.placementsBody ran wrote (branch.side takeThen))
          (Step.runBodyTraced wrote (Step.normalBody (branch.side takeThen))) payload inner after)
    (h : Step.runTraced recorded index branch.toStep payload = .ok trace after) :
    Retraced (Step.placements recorded written index position branch.toStep)
      (Step.runAllTraced written position branch.toStep.normalEntries) payload trace after := by
  obtain ⟨passed, htest, inner, hinner, rfl⟩ := (runTraced_branch_eq_ok_iff branch).mp h
  obtain ⟨met, hmet, hdecisions, hnormal⟩ := hside (passed != branch.negated) _
    (Branch.bodyPath (written.entry position branch.statement.name) (passed != branch.negated)) _
      hinner
  refine ⟨⟨⟨branch, _, _⟩, passed⟩ :: met, Step.cons_sublist_placements _ hmet, ?_, ?_⟩
  · rw [List.map_cons, ← hdecisions]
    rfl
  · rw [Step.normalEntries_branch]
    refine runAllTraced_singleton ((runTraced_branch_eq_ok_iff branch.normal).mpr
      ⟨passed, htest, ⟨met.map Meeting.restored, inner.consumersInvoked⟩, ?_, ?_⟩)
    · rw [Branch.side_normal]
      exact hnormal
    · rw [Branch.side_normal, Step.isSome_normalBody]
      rfl

mutual

/-- **The normal form meets the branches of a step with the same results.** -/
theorem retraced_of_runTraced :
    ∀ (step : Step T) {recorded written : Locator} {index position : Nat}
    {payload after : T} {trace : Trace},
    Step.runTraced recorded index step payload = .ok trace after →
      Retraced (Step.placements recorded written index position step)
        (Step.runAllTraced written position step.normalEntries) payload trace after
  | .consumer node, recorded, written, index, position, payload, after, trace, h => by
    obtain ⟨hnode, rfl⟩ := runTraced_consumer_eq_ok_iff.mp h
    refine ⟨[], List.nil_sublist _, rfl, ?_⟩
    rw [Step.normalEntries]
    exact runAllTraced_singleton (runTraced_consumer_eq_ok_iff.mpr ⟨hnode, rfl⟩)
  | .branch negated condition thenBody elseBody, recorded, written, index, position, payload, after,
      trace, h => by
    refine retraced_of_runTraced_branch ⟨negated, condition, thenBody, elseBody⟩ ?_ h
    intro takeThen ran wrote inner hinner
    cases takeThen with
    | true => exact retraced_of_runBodyTraced thenBody hinner
    | false => exact retraced_of_runBodyTraced elseBody hinner
  | .sequence steps, recorded, written, index, position, payload, after, trace, h => by
    rw [Step.runTraced] at h
    rw [Step.placements, Step.normalEntries]
    exact retraced_of_runAllTraced steps h

theorem retraced_of_runBodyTraced : ∀ (body : Option (Step T)) {recorded written : Locator}
    {payload after : T} {trace : Trace},
    Step.runBodyTraced recorded body payload = .ok trace after →
      Retraced (Step.placementsBody recorded written body)
        (Step.runBodyTraced written (Step.normalBody body)) payload trace after
  | none, recorded, written, payload, after, trace, h => by
    rw [Step.runBodyTraced] at h
    cases h
    refine ⟨[], List.nil_sublist _, rfl, ?_⟩
    rw [Step.normalBody, Step.runBodyTraced]
    rfl
  | some step, recorded, written, payload, after, trace, h => by
    rw [Step.runBodyTraced] at h
    rw [Step.placementsBody, Step.normalBody,
      Step.runBodyTraced_compose (Step.composed_normalEntries step)]
    exact retraced_of_runTraced step h

/-- Steps are retraced entry by entry. -/
theorem retraced_of_runAllTraced : ∀ (steps : List (Step T)) {recorded written : Locator}
    {index position : Nat} {payload after : T} {trace : Trace},
    Step.runAllTraced recorded index steps payload = .ok trace after →
      Retraced (Step.placementsAll recorded written index position steps)
        (Step.runAllTraced written position (Step.normalEntriesAll steps)) payload trace after
  | [], recorded, written, index, position, payload, after, trace, h => by
    rw [Step.runAllTraced] at h
    cases h
    refine ⟨[], List.nil_sublist _, rfl, ?_⟩
    rw [Step.normalEntriesAll, Step.runAllTraced]
    rfl
  | step :: rest, recorded, written, index, position, payload, after, trace, h => by
    obtain ⟨first, between, hfirst, more, hmore, rfl⟩ := runAllTraced_cons_eq_ok_iff.mp h
    obtain ⟨met, hmet, hdecisions, hnormal⟩ := retraced_of_runTraced step hfirst
    obtain ⟨metRest, hmetRest, hdecisionsRest, hnormalRest⟩ :=
      retraced_of_runAllTraced rest hmore
    refine ⟨met ++ metRest, ?_, ?_, ?_⟩
    · rw [Step.placementsAll, List.map_append]
      exact hmet.append hmetRest
    · rw [Trace.decisions_append, hdecisions, hdecisionsRest, List.map_append]
    · -- The normal form has the entries of the first step in front of those of the rest.
      rw [← Step.length_normalEntries] at hnormalRest
      rw [Step.normalEntriesAll, List.map_append, Step.runAllTraced_append]
      exact inTurn_eq_ok_iff.mpr ⟨_, _, hnormal, _, hnormalRest, rfl⟩

end

/-- **The normal form of a flow meets the same branches with the same results.** It records them
where they are written, and a hollow side as one that is absent. -/
theorem Flow.exists_met {flow : Flow T} {payload after : T} {trace : Trace}
    (h : flow.runTraced payload = .ok trace after) :
    ∃ met : List (Meeting T), (met.map (·.placement)).Sublist flow.placements ∧
      trace.decisions = met.map Meeting.recorded ∧
      flow.normal.runTraced payload
        = .ok ⟨met.map Meeting.restored, trace.consumersInvoked⟩ after :=
  retraced_of_runBodyTraced flow.root h

end DecisionFlow
