import DecisionFlow.Proofs.Document.Locators
import DecisionFlow.Proofs.Flow.Normal
import DecisionFlow.Proofs.Flow.Tracing
import Mathlib.Data.List.Forall2
import Mathlib.Data.List.Nodup

/-!
# Where branches are recorded

A traced run records each branch that it meets with a locator. Which locator that is depends on the
flow alone, so all places of a flow can be listed before anything runs.

- `Site`, `Step.places`, `Flow.places`: the branches of a flow with their places, each branch before
  those in its bodies.
- `Step.met`, `Flow.met`: a run that yields the branches it evaluates.
- `located_of_runTraced`: the decisions of a run belong to the branches that it evaluates, and are
  at their places, in the order of the places.
- `item_prefix_of_mem_places`, `nodup_places`: in a body in normal form places stay within their
  entry and are distinct.
- `encloses_of_runTraced`: there a decision is in the side that ran of each branch around it.
-/

namespace DecisionFlow

variable {T : Type}

/-! ## Places and meetings -/

/-- A branch and where it is. -/
structure Site (T : Type) where
  path : Locator
  branch : Branch T

namespace Step

mutual

/-- The branches in a step with their places. The step is entry `index` of the body at `body`. -/
def places (body : Locator) (index : Nat) : Step T → List (Site T)
  | .consumer _ => []
  | .branch negated condition thenBody elseBody =>
    let path := body.entry index (Branch.statementOf negated).name
    ⟨path, ⟨negated, condition, thenBody, elseBody⟩⟩ ::
      (placesBody (Branch.bodyPath path true) thenBody
        ++ placesBody (Branch.bodyPath path false) elseBody)
  | .sequence steps => placesAll body 0 steps

/-- The branches in the body at `body` with their places. -/
def placesBody (body : Locator) : Option (Step T) → List (Site T)
  | none => []
  | some step => places body 0 step

/-- The branches in steps with their places, the first step being entry `index` of the body at
`body`. -/
def placesAll (body : Locator) (index : Nat) : List (Step T) → List (Site T)
  | [] => []
  | step :: rest => places body index step ++ placesAll body (index + 1) rest

end

/-- The run that meets no branch and changes nothing. -/
def meetNone : EStateM Failure T (List (Branch T)) := fun payload => .ok [] payload

mutual

/-- Runs a step and yields the branches that it evaluates, in order. -/
def met : Step T → EStateM Failure T (List (Branch T))
  | .consumer node => viewed (fun _ => []) node.behaviour
  | .branch negated condition thenBody elseBody => fun payload =>
    match condition.test payload with
    | .error failure => .error failure payload
    | .ok passed =>
      viewed (⟨negated, condition, thenBody, elseBody⟩ :: ·)
        (if passed != negated then metBody thenBody else metBody elseBody) payload
  | .sequence steps => metAll steps

/-- Runs a body and yields the branches that it evaluates. -/
def metBody : Option (Step T) → EStateM Failure T (List (Branch T))
  | none => meetNone
  | some step => met step

/-- Runs steps in order and yields the branches that they evaluate. -/
def metAll : List (Step T) → EStateM Failure T (List (Branch T))
  | [] => meetNone
  | step :: rest => inTurn (· ++ ·) (met step) (metAll rest)

end

end Step

/-- The branches of a flow with their places. -/
def Flow.places (flow : Flow T) : List (Site T) := Step.placesBody [] flow.root

/-- Runs a flow and yields the branches that it evaluates, in order. -/
def Flow.met (flow : Flow T) : EStateM Failure T (List (Branch T)) := Step.metBody flow.root

/-- A branch is followed by the places of its `then` and those of its `else`. -/
theorem Step.places_branch (body : Locator) (index : Nat) (branch : Branch T) :
    Step.places body index branch.toStep =
      ⟨body.entry index branch.statement.name, branch⟩ ::
        (Step.placesBody (Branch.bodyPath (body.entry index branch.statement.name) true)
            branch.thenBody
          ++ Step.placesBody (Branch.bodyPath (body.entry index branch.statement.name) false)
            branch.elseBody) := by
  rw [Branch.toStep, Step.places]
  rfl

/-- The places in the side that runs are among those of the branch. -/
theorem sublist_placesBody_side (path : Locator) (branch : Branch T) (takeThen : Bool) :
    (Step.placesBody (Branch.bodyPath path takeThen) (branch.side takeThen)).Sublist
      (Step.placesBody (Branch.bodyPath path true) branch.thenBody
        ++ Step.placesBody (Branch.bodyPath path false) branch.elseBody) := by
  cases takeThen with
  | true => exact List.sublist_append_left ..
  | false => exact List.sublist_append_right ..

/-! ## Decisions and places -/

/-- What a decision says of the branch at a place. -/
structure Site.Records (place : Site T) (decision : Decision) : Prop where
  path : decision.path = place.path
  statement : decision.statement = place.branch.statement

/-- The decisions of a record are those of some of the places, in order, and these are the places of
the branches that a run evaluates. -/
def Located (places : List (Site T)) (met : EStateM Failure T (List (Branch T))) (payload : T)
    (trace : Trace) (after : T) : Prop :=
  ∃ found : List (Site T), found.Sublist places ∧
    List.Forall₂ Site.Records found trace.decisions ∧
    met payload = .ok (found.map (·.branch)) after

/-- Nothing met leaves nothing recorded. -/
theorem located_empty (places : List (Site T)) (payload : T) :
    Located places Step.meetNone payload .empty payload :=
  ⟨[], List.nil_sublist _, .nil, rfl⟩

/-- A branch is met before what its side meets. -/
theorem Step.met_branch {branch : Branch T} {payload : T} {passed : Bool}
    (h : branch.condition.test payload = .ok passed) :
    Step.met branch.toStep payload
      = viewed (branch :: ·) (Step.metBody (branch.side (passed != branch.negated))) payload := by
  obtain ⟨negated, condition, thenBody, elseBody⟩ := branch
  simp only [Branch.toStep, Step.met, Branch.side]
  rw [h]
  dsimp only
  cases passed != negated <;> rfl

theorem Step.met_branch_of_error {branch : Branch T} {payload : T} {failure : Failure}
    (h : branch.condition.test payload = .error failure) :
    Step.met branch.toStep payload = .error failure payload := by
  simp only [Branch.toStep, Step.met]
  rw [h]

mutual

/-- **Each decision is at the place of the branch that was evaluated.** -/
theorem located_of_runTraced :
    ∀ (step : Step T) {body : Locator} {index : Nat} {payload after : T}
    {trace : Trace}, Step.runTraced body index step payload = .ok trace after →
      Located (Step.places body index step) step.met payload trace after
  | .consumer node, body, index, payload, after, trace, h => by
    obtain ⟨hnode, rfl⟩ := runTraced_consumer_eq_ok_iff.mp h
    refine ⟨[], List.nil_sublist _, .nil, ?_⟩
    rw [Step.met, viewed, hnode]
    rfl
  | .branch negated condition thenBody elseBody, body, index, payload, after, trace, h => by
    obtain ⟨passed, htest, inner, hinner, rfl⟩ :=
      (runTraced_branch_eq_ok_iff ⟨negated, condition, thenBody, elseBody⟩).mp h
    have hside := Branch.side_of_both ⟨negated, condition, thenBody, elseBody⟩
      (P := fun side => ∀ path trace, Step.runBodyTraced path side payload = .ok trace after →
        Located (Step.placesBody path side) (Step.metBody side) payload trace after)
      (fun _ _ h => located_of_runBodyTraced thenBody h)
      (fun _ _ h => located_of_runBodyTraced elseBody h) (passed != negated)
    obtain ⟨found, hfound, hrecords, hmet⟩ := hside _ _ hinner
    refine ⟨⟨body.entry index _, ⟨negated, condition, thenBody, elseBody⟩⟩ :: found, ?_,
      .cons ⟨rfl, rfl⟩ hrecords, ?_⟩
    · exact (hfound.trans (sublist_placesBody_side _ _ _)).cons_cons _
    · refine (Step.met_branch htest).trans ?_
      rw [viewed, hmet]
      rfl
  | .sequence steps, body, index, payload, after, trace, h => by
    rw [Step.runTraced] at h
    rw [Step.places, Step.met]
    exact located_of_runAllTraced steps h

theorem located_of_runBodyTraced : ∀ (step : Option (Step T)) {path : Locator} {payload after : T}
    {trace : Trace}, Step.runBodyTraced path step payload = .ok trace after →
      Located (Step.placesBody path step) (Step.metBody step) payload trace after
  | none, path, payload, after, trace, h => by
    rw [Step.runBodyTraced] at h
    cases h
    exact located_empty _ payload
  | some step, path, payload, after, trace, h => by
    rw [Step.runBodyTraced] at h
    rw [Step.placesBody, Step.metBody]
    exact located_of_runTraced step h

/-- The decisions of steps are located among their places. -/
theorem located_of_runAllTraced : ∀ (steps : List (Step T)) {body : Locator} {index : Nat}
    {payload after : T} {trace : Trace},
    Step.runAllTraced body index steps payload = .ok trace after →
      Located (Step.placesAll body index steps) (Step.metAll steps) payload trace after
  | [], body, index, payload, after, trace, h => by
    rw [Step.runAllTraced] at h
    cases h
    exact located_empty _ payload
  | step :: rest, body, index, payload, after, trace, h => by
    obtain ⟨first, between, hfirst, more, hmore, rfl⟩ := runAllTraced_cons_eq_ok_iff.mp h
    obtain ⟨found, hfound, hrecords, hmet⟩ := located_of_runTraced step hfirst
    obtain ⟨foundRest, hfoundRest, hrecordsRest, hmetRest⟩ := located_of_runAllTraced rest hmore
    refine ⟨found ++ foundRest, ?_, List.rel_append hrecords hrecordsRest, ?_⟩
    · rw [Step.placesAll]
      exact hfound.append hfoundRest
    · rw [Step.metAll, inTurn, hmet]
      dsimp only
      rw [hmetRest, List.map_append]

end

/-- Decisions are at some of the places, in their order. -/
theorem Located.sublist_paths {places : List (Site T)} {met : EStateM Failure T (List (Branch T))}
    {payload after : T} {trace : Trace} (h : Located places met payload trace after) :
    (trace.decisions.map (·.path)).Sublist (places.map (·.path)) := by
  obtain ⟨found, hfound, hrecords, -⟩ := h
  have hpaths : found.map (·.path) = trace.decisions.map (·.path) := by
    rw [← List.forall₂_eq_eq_eq, List.forall₂_map_left_iff, List.forall₂_map_right_iff]
    exact hrecords.imp fun p d hrecord => hrecord.path.symm
  rw [← hpaths]
  exact hfound.map _

/-- Every decision is at one of the places. -/
theorem Located.exists_place {places : List (Site T)} {met : EStateM Failure T (List (Branch T))}
    {payload after : T} {trace : Trace} (h : Located places met payload trace after) :
    ∀ d ∈ trace.decisions, ∃ p ∈ places, d.path = p.path := by
  intro d hd
  have hmem := h.sublist_paths.subset (List.mem_map_of_mem hd)
  obtain ⟨p, hp, hpath⟩ := List.mem_map.mp hmem
  exact ⟨p, hp, hpath.symm⟩

/-! ## Bodies in normal form -/

theorem Branch.side_compose (negated : Bool) (condition : Condition T)
    (thenSteps elseSteps : List (Step T)) (takeThen : Bool) :
    Branch.side ⟨negated, condition, Step.compose thenSteps, Step.compose elseSteps⟩ takeThen
      = Step.compose (if takeThen then thenSteps else elseSteps) := by
  cases takeThen <;> rfl

namespace Step

variable {steps thenSteps elseSteps rest : List (Step T)} {body path : Locator} {index : Nat}

/-- Composing keeps the places of composed steps. -/
theorem placesBody_compose (h : Composed steps) :
    placesBody path (compose steps) = placesAll path 0 steps := by
  obtain ⟨rfl, hbody⟩ | ⟨step, rfl, hbody⟩ | hbody := h.compose_cases
  · rw [hbody, placesBody, placesAll]
  · rw [hbody, placesBody, placesAll, placesAll, List.append_nil]
  · rw [hbody, placesBody, places]

theorem runBodyTraced_compose (h : Composed steps) :
    runBodyTraced path (compose steps) = runAllTraced path 0 steps := by
  obtain ⟨rfl, hbody⟩ | ⟨step, rfl, hbody⟩ | hbody := h.compose_cases
  · rw [hbody, runBodyTraced, runAllTraced]
  · rw [hbody, runBodyTraced]
    funext payload
    simp only [runAllTraced]
    cases runTraced path 0 step payload with
    | error failure payload => rfl
    | ok trace payload => exact congrArg (EStateM.Result.ok · payload) trace.append_empty.symm
  · rw [hbody, runBodyTraced, runTraced]

theorem isSome_of_mem_placesBody {step : Option (Step T)} {p : Site T}
    (hp : p ∈ placesBody path step) : step.isSome = true := by
  cases step with
  | none =>
    rw [placesBody] at hp
    cases hp
  | some step => rfl

theorem Composed.side (hthen : Composed thenSteps) (helse : Composed elseSteps) (takeThen : Bool) :
    Composed (if takeThen then thenSteps else elseSteps) := by
  cases takeThen with
  | true => exact hthen
  | false => exact helse

theorem mem_places_branch_iff (branch : Branch T) {p : Site T} :
    p ∈ places body index branch.toStep ↔
      p = ⟨body.entry index branch.statement.name, branch⟩ ∨
        ∃ takeThen, p ∈ placesBody
          (Branch.bodyPath (body.entry index branch.statement.name) takeThen)
            (branch.side takeThen) := by
  rw [places_branch, List.mem_cons, List.mem_append, Bool.exists_bool]
  exact or_congr_right or_comm

/-- The places of a branch and of the entries after it. -/
theorem mem_placesAll_branch_iff {negated : Bool} {condition : Condition T}
    (hthen : Composed thenSteps) (helse : Composed elseSteps) {p : Site T} :
    p ∈ placesAll body index
        (.branch negated condition (compose thenSteps) (compose elseSteps) :: rest) ↔
      p = ⟨body.entry index (Branch.statementOf negated).name,
          ⟨negated, condition, compose thenSteps, compose elseSteps⟩⟩ ∨
        (∃ takeThen, p ∈ placesAll
          (Branch.bodyPath (body.entry index (Branch.statementOf negated).name) takeThen) 0
          (if takeThen then thenSteps else elseSteps)) ∨
        p ∈ placesAll body (index + 1) rest := by
  have hbranch : p ∈ places body index (Branch.toStep _) ↔ _ :=
    mem_places_branch_iff ⟨negated, condition, compose thenSteps, compose elseSteps⟩
  simp only [Branch.side_compose, placesBody_compose (hthen.side helse _)] at hbranch
  rw [placesAll, List.mem_append]
  exact (or_congr_left hbranch).trans or_assoc

/-- Places in entries of a body are below the items of these entries. -/
theorem item_prefix_of_mem_places (h : Composed steps) {p : Site T}
    (hp : p ∈ placesAll body index steps) :
    ∃ j, index ≤ j ∧ j < index + steps.length ∧ body.item j <+: p.path := by
  induction h generalizing body index with
  | nil =>
    rw [placesAll] at hp
    cases hp
  | consumer node _ ih =>
    rw [placesAll, places, List.nil_append] at hp
    obtain ⟨j, hj, hlt, hbelow⟩ := ih hp
    exact ⟨j, by omega, by rw [List.length_cons]; omega, hbelow⟩
  | branch negated condition hthen helse _ ihThen ihElse ih =>
    obtain rfl | ⟨takeThen, hp⟩ | hp := (mem_placesAll_branch_iff hthen helse).mp hp
    · exact ⟨index, le_rfl, by rw [List.length_cons]; omega, body.item_prefix_entry ..⟩
    · obtain ⟨j, hbelow⟩ : ∃ j, (Branch.bodyPath (body.entry index
          (Branch.statementOf negated).name) takeThen).item j <+: p.path := by
        cases takeThen with
        | true => exact (ihThen hp).imp fun _ hj => hj.2.2
        | false => exact (ihElse hp).imp fun _ hj => hj.2.2
      refine ⟨index, le_rfl, by rw [List.length_cons]; omega, ?_⟩
      exact (body.item_prefix_entry ..).trans
        ((Branch.prefix_bodyPath _ takeThen).trans ((Locator.prefix_item _ j).trans hbelow))
    · obtain ⟨j, hj, hlt, hbelow⟩ := ih hp
      exact ⟨j, by omega, by rw [List.length_cons]; omega, hbelow⟩

/-- Places in one entry are below its item. -/
theorem item_prefix_of_mem_entry {step : Step T} (h : Composed [step]) {p : Site T}
    (hp : p ∈ places body index step) : body.item index <+: p.path := by
  have hall : p ∈ placesAll body index [step] := by
    rw [placesAll, placesAll, List.append_nil]
    exact hp
  obtain ⟨j, hj, hlt, hbelow⟩ := item_prefix_of_mem_places h hall
  rw [List.length_singleton] at hlt
  rwa [show index = j by omega]

/-- Every place of steps lies below their body. -/
theorem prefix_of_mem_places (h : Composed steps) {p : Site T}
    (hp : p ∈ placesAll body index steps) : body <+: p.path := by
  obtain ⟨j, -, -, hbelow⟩ := item_prefix_of_mem_places h hp
  exact (body.prefix_item j).trans hbelow

/-- What is below one entry is not below a place in a later entry. -/
theorem not_prefix_of_item_prefix (h : Composed rest) {p : Site T} {place : Locator}
    (hplace : body.item index <+: place) (hp : p ∈ placesAll body (index + 1) rest) :
    ¬ p.path <+: place := by
  intro hpbelow
  obtain ⟨j, hj, -, hbelow⟩ := item_prefix_of_mem_places h hp
  have hindex := Locator.item_prefix_inj hplace (hbelow.trans hpbelow)
  omega

/-- Two parts without repeated places have none together if they lie apart. -/
theorem nodup_places_append {ps qs : List (Site T)} (hps : (ps.map (·.path)).Nodup)
    (hqs : (qs.map (·.path)).Nodup) (hapart : ∀ p ∈ ps, ∀ q ∈ qs, ¬ q.path <+: p.path) :
    ((ps ++ qs).map (·.path)).Nodup := by
  rw [List.map_append, List.nodup_append]
  refine ⟨hps, hqs, ?_⟩
  intro a ha b hb hab
  obtain ⟨p, hp, rfl⟩ := List.mem_map.mp ha
  obtain ⟨q, hq, rfl⟩ := List.mem_map.mp hb
  exact hapart p hp q hq (hab ▸ List.prefix_rfl)

/-- **No two branches have one place.** -/
theorem nodup_places (h : Composed steps) : ((placesAll body index steps).map (·.path)).Nodup := by
  induction h generalizing body index with
  | nil =>
    rw [placesAll]
    exact List.nodup_nil
  | consumer node _ ih =>
    rw [placesAll, places, List.nil_append]
    exact ih
  | branch negated condition hthen helse hrest ihThen ihElse ih =>
    rw [placesAll]
    refine nodup_places_append ?_ ih ?_
    · rw [places, placesBody_compose hthen, placesBody_compose helse, List.map_cons,
        List.nodup_cons]
      constructor
      · intro hmem
        obtain ⟨p, hp, hpath⟩ := List.mem_map.mp hmem
        obtain ⟨takeThen, hbelow⟩ : ∃ takeThen, Branch.bodyPath (body.entry index
            (Branch.statementOf negated).name) takeThen <+: p.path := by
          obtain hp | hp := List.mem_append.mp hp
          · exact ⟨true, prefix_of_mem_places hthen hp⟩
          · exact ⟨false, prefix_of_mem_places helse hp⟩
        have hlength := hbelow.length_le
        rw [show p.path = body.entry index _ from hpath, Branch.length_bodyPath] at hlength
        omega
      · refine nodup_places_append ihThen ihElse ?_
        intro p hp q hq hbelow
        have hqThen := (prefix_of_mem_places helse hq).trans hbelow
        have hsame := Branch.bodyPath_prefix_inj (prefix_of_mem_places hthen hp) hqThen
        cases hsame
    · intro p hp q hq
      have hentry := item_prefix_of_mem_entry (.branch negated condition hthen helse .nil) hp
      exact not_prefix_of_item_prefix hrest hentry hq

/-- Where the names of fields are free of the characters that locators are written with, so are the
places. -/
theorem plain_of_mem_places (h : Composed steps) (hbody : body.Plain) {p : Site T}
    (hp : p ∈ placesAll body index steps) : p.path.Plain := by
  induction h generalizing body index with
  | nil =>
    rw [placesAll] at hp
    cases hp
  | consumer node _ ih =>
    rw [placesAll, places, List.nil_append] at hp
    exact ih hbody hp
  | branch negated condition hthen helse _ ihThen ihElse ih =>
    have hpath : (body.entry index (Branch.statementOf negated).name).Plain :=
      hbody.entry index (List.all_eq_true.mp (by cases negated <;> decide))
    obtain rfl | ⟨takeThen, hp⟩ | hp := (mem_placesAll_branch_iff hthen helse).mp hp
    · exact hpath
    · cases takeThen with
      | true => exact ihThen (hpath.entry 1 (List.all_eq_true.mp (by decide))) hp
      | false => exact ihElse (hpath.entry 2 (List.all_eq_true.mp (by decide))) hp
    · exact ih hbody hp

end Step

/-! ## Branches around a decision -/

/-- Each of the branches around a decision was met as well, and the decision is in the side that
ran. -/
def Encloses (places : List (Site T)) (decisions : List Decision) : Prop :=
  ∀ d ∈ decisions, ∀ p ∈ places, p.path <+: d.path → p.path ≠ d.path →
    ∃ outer ∈ decisions, outer.path = p.path ∧
      ∃ takeThen, outer.outcome = .of takeThen true ∧ Branch.bodyPath p.path takeThen <+: d.path

section Encloses

variable {ps qs : List (Site T)} {ds es : List Decision}

theorem encloses_nil : Encloses ps [] := fun _ h => nomatch h

/-- Places side by side do not enclose each other's decisions. -/
theorem Encloses.append (h : Encloses ps ds) (h' : Encloses qs es)
    (hapart : ∀ p ∈ ps, ∀ e ∈ es, ¬ p.path <+: e.path)
    (hapart' : ∀ q ∈ qs, ∀ d ∈ ds, ¬ q.path <+: d.path) :
    Encloses (ps ++ qs) (ds ++ es) := by
  intro d hd p hp hbelow hne
  obtain hd | hd := List.mem_append.mp hd
  · obtain hp | hp := List.mem_append.mp hp
    · obtain ⟨outer, houter, hrest⟩ := h d hd p hp hbelow hne
      exact ⟨outer, List.mem_append_left _ houter, hrest⟩
    · exact absurd hbelow (hapart' p hp d hd)
  · obtain hp | hp := List.mem_append.mp hp
    · exact absurd hbelow (hapart p hp d hd)
    · obtain ⟨outer, houter, hrest⟩ := h' d hd p hp hbelow hne
      exact ⟨outer, List.mem_append_right _ houter, hrest⟩

/-- A branch encloses the decisions of the side that ran, and no others. -/
theorem Encloses.branch {branch : Branch T} {outer : Decision} (takeThen : Bool)
    (places : Bool → List (Site T)) (hinner : Encloses (places takeThen) ds)
    (houtcome : ds ≠ [] → outer.outcome = .of takeThen true)
    (hplaces : ∀ side, ∀ p ∈ places side, Branch.bodyPath outer.path side <+: p.path)
    (hdecisions : ∀ d ∈ ds, Branch.bodyPath outer.path takeThen <+: d.path) :
    Encloses (⟨outer.path, branch⟩ :: (places true ++ places false)) (outer :: ds) := by
  intro d hd p hp hbelow hne
  obtain rfl | ⟨side, hp⟩ : p = ⟨outer.path, branch⟩ ∨ ∃ side, p ∈ places side := by
    simpa [or_comm] using hp
  · obtain rfl | hd := List.mem_cons.mp hd
    · exact absurd rfl hne
    · exact ⟨outer, List.mem_cons_self, rfl, takeThen, houtcome (List.ne_nil_of_mem hd),
        hdecisions d hd⟩
  · have hside := hplaces side p hp
    obtain rfl | hd := List.mem_cons.mp hd
    · -- The place is longer than that of the branch around it.
      have hlength := (hside.trans hbelow).length_le
      rw [Branch.length_bodyPath] at hlength
      omega
    · obtain rfl := Branch.bodyPath_prefix_inj (hside.trans hbelow) (hdecisions d hd)
      obtain ⟨enclosing, henclosing, hrest⟩ := hinner d hd p hp hbelow hne
      exact ⟨enclosing, List.mem_cons_of_mem _ henclosing, hrest⟩

end Encloses

theorem isSome_of_runBodyTraced {body : Option (Step T)} {path : Locator} {payload after : T}
    {trace : Trace} (h : Step.runBodyTraced path body payload = .ok trace after)
    (hne : trace.decisions ≠ []) : body.isSome = true := by
  cases body with
  | some step => rfl
  | none =>
    rw [Step.runBodyTraced] at h
    cases h
    exact absurd rfl hne

theorem encloses_of_runTraced_branch (branch : Branch T) {body : Locator} {index : Nat}
    {payload after : T} {trace : Trace}
    (hbelow : ∀ path side, ∀ p ∈ Step.placesBody path (branch.side side), path <+: p.path)
    (hside : ∀ path side trace,
      Step.runBodyTraced path (branch.side side) payload = .ok trace after →
      Encloses (Step.placesBody path (branch.side side)) trace.decisions)
    (h : Step.runTraced body index branch.toStep payload = .ok trace after) :
    Encloses (Step.places body index branch.toStep) trace.decisions := by
  obtain ⟨passed, -, inner, hinner, rfl⟩ := (runTraced_branch_eq_ok_iff branch).mp h
  rw [Step.places_branch]
  refine Encloses.branch (passed != branch.negated) (fun side =>
    Step.placesBody (Branch.bodyPath (body.entry index branch.statement.name) side)
      (branch.side side))
    (hside _ _ _ hinner) ?_ (fun side => hbelow _ side) ?_
  · intro hne
    rw [isSome_of_runBodyTraced hinner hne]
  · intro d hd
    obtain ⟨p, hp, hpath⟩ := (located_of_runBodyTraced _ hinner).exists_place d hd
    rw [hpath]
    exact hbelow _ _ p hp

/-- **A decision is in the side that ran of every branch around it.** -/
theorem encloses_of_runTraced {steps : List (Step T)} (h : Step.Composed steps) {body : Locator}
    {index : Nat} {payload after : T} {trace : Trace}
    (hrun : Step.runAllTraced body index steps payload = .ok trace after) :
    Encloses (Step.placesAll body index steps) trace.decisions := by
  induction h generalizing body index payload trace after with
  | nil =>
    rw [Step.runAllTraced] at hrun
    cases hrun
    exact encloses_nil
  | consumer node _ ih =>
    obtain ⟨first, between, hfirst, more, hmore, rfl⟩ := runAllTraced_cons_eq_ok_iff.mp hrun
    obtain ⟨-, rfl⟩ := runTraced_consumer_eq_ok_iff.mp hfirst
    rw [Step.placesAll, Step.places, List.nil_append]
    show Encloses _ more.decisions
    exact ih hmore
  | @branch negated condition thenSteps elseSteps rest hthen helse hrest ihThen ihElse ih =>
    obtain ⟨first, between, hfirst, more, hmore, rfl⟩ := runAllTraced_cons_eq_ok_iff.mp hrun
    have hentry := Step.Composed.branch negated condition hthen helse .nil
    -- Decisions of the branch are below its item, those of the other entries are not.
    have hfirstBelow : ∀ d ∈ first.decisions, body.item index <+: d.path := by
      intro d hd
      obtain ⟨p, hp, hpath⟩ := (located_of_runTraced _ hfirst).exists_place d hd
      rw [hpath]
      exact Step.item_prefix_of_mem_entry hentry hp
    rw [Step.placesAll]
    refine Encloses.append ?_ (ih hmore) ?_ ?_
    · refine encloses_of_runTraced_branch
        ⟨negated, condition, Step.compose thenSteps, Step.compose elseSteps⟩ ?_ ?_ hfirst
      · intro path side p hp
        rw [Branch.side_compose, Step.placesBody_compose (hthen.side helse side)] at hp
        exact Step.prefix_of_mem_places (hthen.side helse side) hp
      · intro path side trace hside
        rw [Branch.side_compose, Step.runBodyTraced_compose (hthen.side helse side)] at hside
        rw [Branch.side_compose, Step.placesBody_compose (hthen.side helse side)]
        cases side with
        | true => exact ihThen hside
        | false => exact ihElse hside
    · intro p hp e he hpe
      obtain ⟨q, hq, hpath⟩ := (located_of_runAllTraced _ hmore).exists_place e he
      have hbelow := (Step.item_prefix_of_mem_entry hentry hp).trans hpe
      exact Step.not_prefix_of_item_prefix hrest hbelow hq (hpath ▸ List.prefix_rfl)
    · intro q hq d hd
      exact Step.not_prefix_of_item_prefix hrest (hfirstBelow d hd) hq

end DecisionFlow
