import DecisionFlow.Proofs.Document.RoundTrip
import DecisionFlow.Proofs.Flow.Places

/-!
# Decisions in the written document

The places of a flow are counted off from the graph; the writer lays the document out; the reader
finds its way through the document. The three agree for flows in normal form.

- `sublist_locators`: the places of a flow are in document order.
- `Site.WrittenIn`, `writtenIn_of_mem_places`: at each place the branch is written.
- `ReadAt`, `Engine.ReadsAt`: the branches that are read while a document is read, with the places
  that the reader gives them.
- `exists_readsPlaces`: in the written document these are the places of the flow.
- `Engine.decisions_located`: the decisions of a run are where the reader finds their branches.
-/

namespace DecisionFlow

variable {T : Type}

/-- The branch at a place is written there: the place is the only field of an entry, the field is
called like the statement of the branch, and the entry is the written form of the branch. -/
def Site.WrittenIn (document : Value) (discriminator : String) (p : Site T) : Prop :=
  ∃ entry node, p.path = entry.field p.branch.statement.name ∧
    document.at? entry = some (.single p.branch.statement.name node) ∧
    document.at? p.path = some node ∧
    Document.writeStep discriminator p.branch.toStep = [.single p.branch.statement.name node]

namespace Document

open Step (Composed)

variable {engine : Engine T} {discriminator : String} {steps : List (Step T)} {body path : Locator}
  {index : Nat}

/-! ## Document order -/

/-- The places of an object with one field are its own and those of the field. -/
theorem locatorsAt_ofField (field : String × Value) :
    Value.locatorsAt path (ofField field) =
      path :: Value.locatorsAt (path.field field.1) field.2 := by
  obtain ⟨name, value⟩ := field
  rw [ofField, Value.single, Value.locatorsAt, Value.locatorsOfFields, Value.locatorsOfFields,
    List.append_nil]

/-- The places in the `else` side come after its field, if the branch has that side. -/
theorem sublist_locators_elseField {elseBody : Option (Step T)} {places : List (Site T)}
    (hnone : elseBody = none → places = [])
    (h : (places.map (·.path)).Sublist
      (Value.locatorsOfItems (path.entry index "else") 0 (writeBody discriminator elseBody))) :
    (places.map (·.path)).Sublist
      (Value.locatorsOfItems path index ((elseField discriminator elseBody).map ofField)) := by
  cases elseBody with
  | none =>
    rw [hnone rfl]
    exact List.nil_sublist _
  | some step =>
    rw [elseField, List.map_singleton, Value.locatorsOfItems, locatorsAt_ofField, Value.locatorsAt]
    exact ((h.cons _).cons _).trans (List.sublist_append_left _ _)

/-- **Places are in document order.** -/
theorem sublist_locators (h : Composed steps) :
    ((Step.placesAll body index steps).map (·.path)).Sublist
      (Value.locatorsOfItems body index (writeSteps discriminator steps)) := by
  induction h generalizing body index with
  | nil =>
    rw [Step.placesAll]
    exact List.nil_sublist _
  | consumer node _ ih =>
    rw [Step.placesAll, Step.places, List.nil_append, writeSteps, writeStep, List.singleton_append,
      Value.locatorsOfItems]
    exact ih.trans (List.sublist_append_right _ _)
  | @branch negated condition thenSteps elseSteps rest hthen helse _ ihThen ihElse ih =>
    rw [Step.placesAll, List.map_append, writeSteps, writeStep_branch, List.singleton_append,
      Value.locatorsOfItems]
    refine List.Sublist.append ?_ ih
    rw [Step.places, Step.placesBody_compose hthen, Step.placesBody_compose helse, List.map_cons,
      List.map_append, locatorsAt_ofField, Value.locatorsAt, Value.locatorsOfItems,
      Value.locatorsOfItems, locatorsAt_ofField, Value.locatorsAt]
    refine ((List.Sublist.trans ?_ (List.sublist_append_right _ _)).cons_cons _).cons _
    refine List.Sublist.append ?_ (sublist_locators_elseField ?_ ?_)
    · rw [writeBody_compose]
      exact (ihThen.cons _).cons _
    · intro hnone
      rw [← Step.placesBody_compose helse, hnone, Step.placesBody]
    · rw [writeBody_compose elseSteps]
      exact ihElse

/-! ## Places in the document -/

/-- An item that is a single-field object leads to the field. -/
theorem at?_entry {document : Value} (before : List Value) {after : List Value}
    {field : String × Value}
    (h : document.at? path = some (.array (before ++ ofField field :: after))) :
    document.at? (path.item before.length) = some (ofField field) ∧
      document.at? (path.entry before.length field.1) = some field.2 := by
  obtain ⟨name, value⟩ := field
  have hitem : document.at? (path.item before.length) = some (ofField (name, value)) := by
    rw [Locator.item, Value.at?_append, h]
    simp [Value.at?, Value.child?]
  refine ⟨hitem, ?_⟩
  rw [Locator.entry, Locator.field, Value.at?_append, hitem]
  simp [Value.at?, Value.child?, ofField, Value.single, Fields.get?_cons]

/-- Where the body of a side is written: below the branch, as the second or the third item. -/
theorem at?_bodyPath {document : Value} {negated : Bool} {condition : Condition T}
    {thenBody elseBody : Option (Step T)}
    (h : document.at? path = some (.array (writeCondition discriminator condition
      :: ofField (Statement.thenBody.name, .array (writeBody discriminator thenBody))
      :: (elseField discriminator elseBody).map ofField))) (takeThen : Bool) :
    (Branch.side ⟨negated, condition, thenBody, elseBody⟩ takeThen).isSome = true →
      document.at? (Branch.bodyPath path takeThen) = some (.array (writeBody discriminator
        (Branch.side ⟨negated, condition, thenBody, elseBody⟩ takeThen))) := by
  intro hside
  cases takeThen with
  | true => exact (at?_entry [_] h).2
  | false =>
    cases elseBody with
    | none => cases hside
    | some step => exact (at?_entry [_, _] h).2

/-- **At each place of a written body the branch is written.** -/
theorem writtenIn_of_mem_places {document : Value} (h : Composed steps) {before : List Value}
    (hbody : document.at? body
      = some (.array (before ++ writeSteps discriminator steps))) {p : Site T}
    (hp : p ∈ Step.placesAll body before.length steps) : p.WrittenIn document discriminator := by
  induction h generalizing body before with
  | nil =>
    rw [Step.placesAll] at hp
    cases hp
  | @consumer node rest _ ih =>
    rw [Step.placesAll, Step.places, List.nil_append] at hp
    rw [writeSteps, writeStep, ← List.append_assoc] at hbody
    refine ih hbody ?_
    rwa [List.length_append, List.length_singleton]
  | @branch negated condition thenSteps elseSteps rest hthen helse _ ihThen ihElse ih =>
    rw [writeSteps, writeStep_branch, List.singleton_append] at hbody
    obtain ⟨hentry, hnode⟩ := at?_entry before hbody
    obtain rfl | ⟨takeThen, hp⟩ | hp := (Step.mem_placesAll_branch_iff hthen helse).mp hp
    · exact ⟨_, _, rfl, hentry, hnode, writeStep_branch ..⟩
    · have hsome : (Step.compose (if takeThen then thenSteps else elseSteps)).isSome = true := by
        rw [← Step.placesBody_compose (hthen.side helse takeThen)] at hp
        exact Step.isSome_of_mem_placesBody hp
      rw [← Branch.side_compose negated condition] at hsome
      have hside := at?_bodyPath hnode takeThen hsome
      rw [Branch.side_compose,
        writeBody_compose (if takeThen then thenSteps else elseSteps)] at hside
      cases takeThen with
      | true => exact @ihThen _ [] hside hp
      | false => exact @ihElse _ [] hside hp
    · rw [← List.singleton_append, ← List.append_assoc] at hbody
      refine ih hbody ?_
      rwa [List.length_append, List.length_singleton]

/-! ## Places that the reader gives -/

/-- While a child of a body is read with a budget of levels, a branch is read at a place: the child
itself, or a child of one of its sides. -/
inductive ReadAt (engine : Engine T) : Nat → Child → Locator → Branch T → Prop where
  | here {budget : Nat} {child : Child} {branch : Branch T}
    (hname : child.name = branch.statement.name)
    (hread : readBranch engine budget branch.negated child.value child.path = .ok branch) :
    ReadAt engine budget child child.path branch
  | inside {budget : Nat} {child part entry : Child} {parts entries : List Child} {negated : Bool}
    {place : Locator} {branch : Branch T} (hname : child.name = (Branch.statementOf negated).name)
    (hparts : children engine.settings child.value child.path = .ok parts) (hpart : part ∈ parts)
    (hside : part.name ∈ [Statement.thenBody.name, Statement.elseBody.name])
    (hentries : children engine.settings part.value part.path = .ok entries)
    (hentry : entry ∈ entries) (hinside : ReadAt engine budget entry place branch) :
    ReadAt engine (budget + 1) child place branch

/-- The children of an array of single-field objects, the first being item `index`. -/
def entriesFrom (path : Locator) (index : Nat) : Fields → List Child
  | [] => []
  | (name, value) :: rest =>
    ⟨name, value, path.entry index name⟩ :: entriesFrom path (index + 1) rest

theorem childrenOfItems_ofFields (fields : Fields) :
    childrenOfItems path index (fields.map ofField) = .ok (entriesFrom path index fields) := by
  induction fields generalizing index with
  | nil => rfl
  | cons field rest ih =>
    obtain ⟨name, value⟩ := field
    rw [List.map_cons, ofField, Value.single, childrenOfItems, ih]
    rfl

/-- The children of fields in array shape are the entries, in either setting for objects. -/
theorem children_ofFields (settings : Settings) (fields : Fields) :
    children settings (ofFields fields) path = .ok (entriesFrom path 0 fields) := by
  rw [ofFields, children, childrenOfItems_ofFields]

theorem childrenOfItems_cons {name : String} {value : Value} {rest : List Value} {cs : List Child}
    (h : childrenOfItems path (index + 1) rest = .ok cs) :
    childrenOfItems path index (ofField (name, value) :: rest)
      = .ok (⟨name, value, path.entry index name⟩ :: cs) := by
  rw [ofField, Value.single, childrenOfItems, h]
  rfl

/-- The child that a side of a branch is written as. -/
def sideChild (discriminator : String) (path : Locator) (branch : Branch T) (takeThen : Bool) :
    Child :=
  ⟨if takeThen then Statement.thenBody.name else Statement.elseBody.name,
    .array (writeBody discriminator (branch.side takeThen)), Branch.bodyPath path takeThen⟩

/-- The children of a written branch that are named like a side are its sides. The `then` side is
always written, the `else` side if the branch has it. -/
theorem mem_sides_iff (discriminator : String) (path : Locator) (branch : Branch T)
    {field : String × Value} {part : Child} (hfield : Part.ofName? field.1 = some .condition) :
    (part ∈ entriesFrom path 0 (field
        :: (Statement.thenBody.name, .array (writeBody discriminator branch.thenBody))
        :: elseField discriminator branch.elseBody)
      ∧ part.name ∈ [Statement.thenBody.name, Statement.elseBody.name]) ↔
      ∃ takeThen, (takeThen = true ∨ (branch.side takeThen).isSome = true) ∧
        part = sideChild discriminator path branch takeThen := by
  obtain ⟨name, value⟩ := field
  obtain ⟨negated, condition, thenBody, elseBody⟩ := branch
  replace hfield : Part.ofName? name = some .condition := hfield
  constructor
  · rintro ⟨hpart, hside⟩
    obtain rfl | hpart := List.mem_cons.mp hpart
    · simp only [List.mem_cons, List.not_mem_nil, or_false] at hside
      obtain rfl | rfl := hside
      · exact absurd hfield (by decide)
      · exact absurd hfield (by decide)
    obtain rfl | hpart := List.mem_cons.mp hpart
    · exact ⟨true, .inl rfl, rfl⟩
    cases elseBody with
    | none => cases hpart
    | some step =>
      obtain rfl := List.mem_singleton.mp hpart
      exact ⟨false, .inr rfl, rfl⟩
  · rintro ⟨takeThen, hpresent, rfl⟩
    cases takeThen with
    | true => exact ⟨List.mem_cons_of_mem _ List.mem_cons_self, List.mem_cons_self⟩
    | false =>
      cases elseBody with
      | none =>
        obtain h | h := hpresent
        · cases h
        · cases h
      | some step =>
        exact ⟨List.mem_cons_of_mem _ (List.mem_cons_of_mem _ List.mem_cons_self),
          List.mem_cons_of_mem _ List.mem_cons_self⟩

/-- The written name tells whether a branch is negated. -/
theorem Branch.statementOf_name_inj {negated negated' : Bool}
    (h : (Branch.statementOf negated).name = (Branch.statementOf negated').name) :
    negated = negated' := by
  cases negated <;> cases negated' <;> first | rfl | exact absurd h (by decide)

/-- The branches that are read in a written branch: itself, and those that are read in its sides. -/
theorem readAt_branch_iff {levels : Nat} (branch : Branch T) {found : Branch T} {place : Locator}
    {field : String × Value}
    (hcondition : ∀ any path,
      readMember engine (readGroup engine levels) any ⟨field.1, field.2, path⟩ =
        .ok branch.condition)
    (hrestored : ∀ takeThen, Restored engine levels (branch.side takeThen) ∧
      Step.normalBody (branch.side takeThen) = branch.side takeThen)
    (hentries : ∀ takeThen, ∃ entries,
      children engine.settings
        (.array (writeBody engine.settings.discriminator (branch.side takeThen)))
        (Branch.bodyPath path takeThen) = .ok entries ∧
      ((∃ entry ∈ entries, ReadAt engine levels entry place found) ↔
        ⟨place, found⟩ ∈ Step.placesBody (Branch.bodyPath path takeThen)
          (branch.side takeThen))) :
    ReadAt engine (levels + 1) ⟨branch.statement.name, ofFields (field
        :: (Statement.thenBody.name,
          .array (writeBody engine.settings.discriminator branch.thenBody))
        :: elseField engine.settings.discriminator branch.elseBody), path⟩ place found ↔
      (place = path ∧ found = branch) ∨
        ∃ takeThen,
          ⟨place, found⟩ ∈ Step.placesBody (Branch.bodyPath path takeThen)
            (branch.side takeThen) := by
  have hread :=
    readBranch_ofFields branch.negated path hcondition (hrestored true).1 (hrestored false).1
  rw [(hrestored true).2, (hrestored false).2] at hread
  have hfield := Part.ofName?_of_readMember (hcondition false path)
  constructor
  · intro h
    cases h with
    | here hname hfound =>
      have hnegated := Branch.statementOf_name_inj hname
      rw [← hnegated] at hfound
      exact .inl ⟨rfl, Except.ok.inj (hfound.symm.trans hread)⟩
    | inside hname hparts hpart hside hentries' hentry hinside =>
      -- Only the sides of the branch are named like sides, so the child is one of them.
      cases (children_ofFields engine.settings _).symm.trans hparts
      obtain ⟨takeThen, -, rfl⟩ := (mem_sides_iff _ path branch hfield).mp ⟨hpart, hside⟩
      obtain ⟨entries, hentries, hiff⟩ := hentries takeThen
      cases hentries.symm.trans hentries'
      exact .inr ⟨takeThen, hiff.mp ⟨_, hentry, hinside⟩⟩
  · rintro (⟨rfl, rfl⟩ | ⟨takeThen, hmem⟩)
    · exact .here rfl hread
    · obtain ⟨entries, hentries, hiff⟩ := hentries takeThen
      obtain ⟨entry, hentry, hinside⟩ := hiff.mpr hmem
      obtain ⟨hpart, hside⟩ := (mem_sides_iff _ path branch hfield).mpr
        ⟨takeThen, .inr (Step.isSome_of_mem_placesBody hmem), rfl⟩
      exact .inside rfl (children_ofFields engine.settings _) hpart hside hentries hentry hinside

/-- The branches that are read in children of a body are the branches of places. -/
def ReadsPlaces (engine : Engine T) (levels : Nat) (entries : List Child) (places : List (Site T)) :
    Prop :=
  ∀ place found, (∃ entry ∈ entries, ReadAt engine levels entry place found) ↔
    ⟨place, found⟩ ∈ places

theorem readsPlaces_nil {levels : Nat} : ReadsPlaces engine levels [] [] := by
  intro place found
  simp

/-- Places are read entry by entry. -/
theorem ReadsPlaces.cons {levels : Nat} {child : Child} {entries : List Child}
    {ps qs : List (Site T)} (h : ReadsPlaces engine levels entries qs)
    (hchild : ∀ place found, ReadAt engine levels child place found ↔
      ⟨place, found⟩ ∈ ps) : ReadsPlaces engine levels (child :: entries) (ps ++ qs) := by
  intro place found
  rw [List.exists_mem_cons_iff, hchild, h, List.mem_append]

/-- No branch is read in a consumer. -/
theorem ReadAt.lookup_ne_none {levels : Nat} {child : Child} {place : Locator} {found : Branch T}
    (h : ReadAt engine levels child place found) : Statement.lookup child.name ≠ none := by
  cases h with
  | here hname =>
    rw [hname, Statement.lookup_name]
    exact Option.some_ne_none _
  | inside hname =>
    rw [hname, Statement.lookup_name]
    exact Option.some_ne_none _

/-- **The branches that are read in written entries are those of the flow, and the reader gives them
their places.** -/
theorem exists_readsPlaces (h : Composed steps) {levels : Nat}
    (hfits : ∀ step ∈ steps, FitsStep engine levels step) :
    ∃ entries, childrenOfItems body index (writeSteps engine.settings.discriminator steps)
        = .ok entries ∧ ReadsPlaces engine levels entries (Step.placesAll body index steps) := by
  induction h generalizing body index levels with
  | nil =>
    rw [writeSteps, Step.placesAll]
    exact ⟨[], rfl, readsPlaces_nil⟩
  | @consumer node rest _ ih =>
    obtain ⟨hnode, hrest⟩ := List.forall_mem_cons.mp hfits
    obtain ⟨entries, hentries, hreads⟩ := @ih body (index + 1) _ hrest
    rw [writeSteps, writeStep, Step.placesAll, Step.places]
    refine ⟨_, childrenOfItems_cons hentries, hreads.cons fun place found => ?_⟩
    -- A consumer that fits is not named like a statement, so nothing is read in it.
    have hkind := (hnode.consumer node (by simp [Step.consumers])).2
    exact iff_of_false (fun hread => hread.lookup_ne_none hkind) List.not_mem_nil
  | @branch negated condition thenSteps elseSteps rest hthen helse _ ihThen ihElse ih =>
    obtain ⟨hbranch, hrest⟩ := List.forall_mem_cons.mp hfits
    obtain ⟨entries, hentries, hreads⟩ := @ih body (index + 1) _ hrest
    have hshallow := hbranch.shallow
    rw [Step.depth] at hshallow
    obtain ⟨levels, rfl⟩ : ∃ rest, levels = rest + 1 := ⟨levels - 1, by omega⟩
    obtain ⟨hcondition, hthenFits, helseFits⟩ := fitsStep_branch_iff.mp hbranch
    obtain ⟨field, hwritten, hread⟩ := readMember_writeCondition condition hcondition
    rw [writeSteps, writeStep_branch, hwritten, Step.placesAll]
    refine ⟨_, childrenOfItems_cons hentries, hreads.cons fun place found => ?_⟩
    refine (readAt_branch_iff
      ⟨negated, condition, Step.compose thenSteps, Step.compose elseSteps⟩ hread ?_ ?_).trans ?_
    · intro takeThen
      cases takeThen with
      | true => exact ⟨restored_of_fits _ hthenFits, hthen.normalBody_eq_self⟩
      | false => exact ⟨restored_of_fits _ helseFits, helse.normalBody_eq_self⟩
    · intro takeThen
      rw [Branch.side_compose, writeBody_compose,
        Step.placesBody_compose (hthen.side helse takeThen)]
      cases takeThen with
      | true =>
        obtain ⟨entries, hentries, hreads⟩ := ihThen (fitsBody_compose_iff.mp hthenFits)
        exact ⟨entries, hentries, hreads place found⟩
      | false =>
        obtain ⟨entries, hentries, hreads⟩ := ihElse (fitsBody_compose_iff.mp helseFits)
        exact ⟨entries, hentries, hreads place found⟩
    · refine Iff.symm (Iff.trans (Step.mem_places_branch_iff
        ⟨negated, condition, Step.compose thenSteps, Step.compose elseSteps⟩) ?_)
      rw [Site.mk.injEq]
      rfl

end Document

/-! ## Decisions of a run -/

section Decisions

variable {engine : Engine T} {document : Value} {flow : Flow T} {payload after : T} {trace : Trace}

/-- While a document is read, a branch is read at a place. -/
def Engine.ReadsAt (engine : Engine T) (document : Value) (place : Locator) (branch : Branch T) :
    Prop :=
  ∃ entries, Document.children engine.settings document [] = .ok entries ∧
    ∃ entry ∈ entries, Document.ReadAt engine engine.settings.maxDepth entry place branch

/-- A flow that was read is composed of entries in normal form that fit the engine. -/
theorem Engine.exists_composed_of_read (h : engine.read document = .ok flow) :
    ∃ steps, Step.Composed steps ∧ flow.root = Step.compose steps ∧
      ∀ step ∈ steps, Document.FitsStep engine engine.settings.maxDepth step := by
  obtain ⟨hfits, hnormal⟩ := Document.fitsBody_of_readBody (Engine.read_eq_ok_iff.mp h)
  obtain ⟨steps, hsteps, hcompose⟩ := Step.exists_composed_normalBody flow.root
  have hroot : flow.root = Step.compose steps := hnormal.symm.trans hcompose
  refine ⟨steps, hsteps, hroot, ?_⟩
  rw [hroot] at hfits
  exact Document.fitsBody_compose_iff.mp hfits

/-- A flow of composed steps is written as the array of its steps. -/
theorem Engine.write_of_root {steps : List (Step T)} (hroot : flow.root = Step.compose steps) :
    engine.write flow = .array (Document.writeSteps engine.settings.discriminator steps) := by
  rw [Engine.write, Flow.write, hroot, Document.writeBody_compose]

/-- The reader finds the branches of a written flow where the flow has them. -/
theorem Engine.readsAt_write_iff {steps : List (Step T)} (hsteps : Step.Composed steps)
    (hroot : flow.root = Step.compose steps)
    (hfits : ∀ step ∈ steps, Document.FitsStep engine engine.settings.maxDepth step)
    (place : Locator) (branch : Branch T) :
    engine.ReadsAt (engine.write flow) place branch ↔
      ⟨place, branch⟩ ∈ Step.placesAll [] 0 steps := by
  obtain ⟨entries, hentries, hreads⟩ := Document.exists_readsPlaces hsteps hfits
  rw [← hreads place branch, Engine.write_of_root hroot]
  constructor
  · rintro ⟨entries', hentries', hread⟩
    cases hentries.symm.trans hentries'
    exact hread
  · exact fun hread => ⟨entries, hentries, hread⟩

/-- A decision tells of a branch in a document: its path is the place at which the reader finds the
branch, and leads from the root to the written form of the branch, under the name of the decision's
statement. -/
structure Decision.Tells (engine : Engine T) (document : Value) (branch : Branch T) (d : Decision) :
    Prop where
  statement : d.statement = branch.statement
  read : engine.ReadsAt document d.path branch
  written : Site.WrittenIn document engine.settings.discriminator ⟨d.path, branch⟩

/-- What the decisions of a run tell of the written document of its flow. -/
structure Trace.TellsOf (trace : Trace) (engine : Engine T) (flow : Flow T) (payload after : T) :
    Prop where
  /-- They tell of the branches that were evaluated, in order. -/
  branches : ∃ met, flow.met payload = .ok met after ∧
    List.Forall₂ (Decision.Tells engine (engine.write flow)) met trace.decisions
  /-- No two have the same path as a text. -/
  distinct : (trace.decisions.map (·.path.text)).Nodup
  /-- They are in document order. -/
  ordered : (trace.decisions.map (·.path)).Sublist (engine.write flow).locators
  /-- Each is in the side that ran of every branch around it. -/
  enclosed : ∀ d ∈ trace.decisions, ∀ place branch,
    engine.ReadsAt (engine.write flow) place branch →
    place <+: d.path → place ≠ d.path → ∃ outer ∈ trace.decisions, outer.path = place ∧
      (outer.outcome = .ranThen ∧ place.entry 1 "then" <+: d.path ∨
        outer.outcome = .ranElse ∧ place.entry 2 "else" <+: d.path)

/-- **The decisions of a run are where the reader finds their branches** in the written document. -/
theorem Engine.decisions_located (hread : engine.read document = .ok flow)
    (hrun : flow.runTraced payload = .ok trace after) :
    trace.TellsOf engine flow payload after := by
  obtain ⟨steps, hsteps, hroot, hfits⟩ := Engine.exists_composed_of_read hread
  have hreadsAt := Engine.readsAt_write_iff hsteps hroot hfits
  have hlocated := located_of_runBodyTraced flow.root hrun
  rw [hroot, Step.placesBody_compose hsteps] at hlocated
  have hpaths := hlocated.sublist_paths
  refine ⟨?branches, ?distinct, ?ordered, ?enclosed⟩
  case branches =>
    obtain ⟨found, hfound, hrecords, hmet⟩ := hlocated
    refine ⟨found.map (·.branch), by rw [Flow.met, hroot]; exact hmet, ?_⟩
    rw [List.forall₂_map_left_iff]
    have hplaces : ∀ p ∈ found, p ∈ Step.placesAll [] 0 steps := fun p hp => hfound.subset hp
    have hbody : (engine.write flow).at? []
        = some (.array ([] ++ Document.writeSteps engine.settings.discriminator steps)) := by
      rw [Engine.write_of_root hroot, Value.at?_nil, List.nil_append]
    refine ((List.forall₂_and_left _ _).mpr ⟨hplaces, hrecords⟩).imp ?_
    rintro p d ⟨hp, hrecord⟩
    refine ⟨hrecord.statement, ?_, ?_⟩
    · rw [hrecord.path, hreadsAt]
      exact hp
    · rw [hrecord.path]
      exact Document.writtenIn_of_mem_places hsteps hbody hp
  case distinct =>
    have hplain : ∀ place ∈ trace.decisions.map (·.path), place.Plain := by
      intro place hplace
      obtain ⟨p, hp, rfl⟩ := List.mem_map.mp (hpaths.subset hplace)
      exact Step.plain_of_mem_places hsteps Locator.plain_nil hp
    have htexts := Locator.nodup_map_text hplain (hpaths.nodup (Step.nodup_places hsteps))
    rwa [List.map_map] at htexts
  case ordered =>
    rw [Engine.write_of_root hroot]
    exact hpaths.trans ((Document.sublist_locators hsteps).cons _)
  case enclosed =>
    intro d hd place branch hplace hbelow hne
    rw [Flow.runTraced, hroot, Step.runBodyTraced_compose hsteps] at hrun
    obtain ⟨outer, houter, hpath, takeThen, houtcome, hside⟩ :=
      encloses_of_runTraced hsteps hrun d hd _ ((hreadsAt place branch).mp hplace) hbelow hne
    refine ⟨outer, houter, hpath, ?_⟩
    cases takeThen with
    | true => exact .inl ⟨houtcome, hside⟩
    | false => exact .inr ⟨houtcome, hside⟩

end Decisions

/-- A document in which a branch stands in the `then` side of another, after a consumer. -/
def Document.branchInBranch : Value := .object [
  ("if", .object [
    ("condition", .object [("type", .text "always")]),
    ("then", .object [
      ("ifNot", .object [
        ("then", .object [("trim", .object [("field", .text "name")])]),
        ("condition", .object [("type", .text "always")])]),
      ("if", .object [
        ("condition", .object [("type", .text "always"), ("value", .bool false)]),
        ("else", .object [("ifNot", .object [("allOf", .null), ("then", .null)])]),
        ("then", .null)])])])]

/-- Four decisions of a branch with branches in both of its bodies, at the places where they are
written. -/
theorem Engine.decisions_located_branchInBranch :
    ∃ flow trace, Builtin.engine.read Document.branchInBranch = .ok flow ∧
      flow.runTraced .null = .ok trace .null ∧
      trace.decisions.map (·.path.text)
        = ["$[0].if", "$[0].if[1].then[0].ifNot", "$[0].if[1].then[1].if",
          "$[0].if[1].then[1].if[2].else[0].ifNot"] ∧
      trace.TellsOf Builtin.engine flow .null .null := by
  have hread : Builtin.engine.read Document.branchInBranch = .ok _ := rfl
  exact ⟨_, _, hread, rfl, by decide, Engine.decisions_located hread rfl⟩

end DecisionFlow
