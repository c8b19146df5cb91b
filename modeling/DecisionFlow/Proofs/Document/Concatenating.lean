import DecisionFlow.Proofs.Document.Placing
import DecisionFlow.Proofs.Document.Resemblance
import DecisionFlow.Proofs.Document.Stability
import DecisionFlow.Proofs.Flow.Relocating

/-!
# Documents one after the other

The items of two documents make up one document, and its flow is the first flow followed by the
second. The body of it is composed anew, so its graph is not put together from the two graphs. What
is put together are the entries that bodies are composed of.

- `readEntry_moved`: an entry is read alike wherever it stands.
- `Engine.read_eq_ok_iff_readAs`: a document is read as the entries that its fields are read as.
- `Flow.Entries`: the entries of a flow, which tell its counts and its runs.
- `Locator.further`: the place of an entry that is moved to a later item.
- `Engine.read_append`: **concatenated documents are read as flows run in turn.**
-/

namespace DecisionFlow

variable {T : Type}

namespace Document

variable {engine : Engine T} {levels : Nat} {document : Value}

/-! ## Entries wherever they stand -/

/-- Every node resembles itself. -/
theorem resemblance_self (excused : Problem → Prop) (objects : Bool) :
    Resemblance excused objects objects fun _ v w => v = w := by
  rintro position v _ rfl
  cases listed objects v with
  | error e => exact .error rfl
  | ok fields =>
    exact .ok (List.forall₂_same.mpr fun field _ => Below.refl (fun _ _ => rfl) position field)

/-- What is read of an entry does not depend on where it stands. -/
theorem readEntry_moved (field : String × Value) {side side' : Body} {path : Locator}
    {entry : Step T}
    (h : readEntry engine (readBranch engine levels) side ⟨field.1, field.2, path⟩ = .ok entry)
    (path' : Locator) :
    readEntry engine (readBranch engine levels) side' ⟨field.1, field.2, path'⟩ =
      .ok entry := by
  have hside : readEntry engine (readBranch engine levels) side' ⟨field.1, field.2, path⟩ =
      .ok entry :=
    readEntry_eq_ok_iff.mpr (readEntry_eq_ok_iff.mp h)
  -- The node is compared with itself at another place, which only shows in errors.
  have hcomparable : Comparable (fun _ => False) Anywhere (fun _ v w => v = w) engine engine :=
    (resemblance_self (fun _ => False) engine.settings.acceptObjectShape).comparable engine
  have hbelow : BelowAt Anywhere (fun _ v w => v = w) .body ⟨field.1, field.2, path⟩
      ⟨field.1, field.2, path'⟩ := ⟨Below.refl (fun _ _ => rfl) .body field, trivial⟩
  have hcompared : Compared (fun _ => False) Anywhere
      (readEntry engine (readBranch engine levels) side' ⟨field.1, field.2, path⟩)
      (readEntry engine (readBranch engine levels) side' ⟨field.1, field.2, path'⟩) :=
    hcomparable.agree_readEntry (hcomparable.agree_readBranch levels) hbelow
  have halike : ReadAlike (fun _ => False) _ _ := hcompared.mono fun _ _ he => he.problem
  exact halike.eq_ok_iff.mp hside

/-- Children are read as their fields are wherever they stand. -/
theorem readAs_iff {side : Body} {cs : List Child} {entries : List (Step T)} :
    ReadAs engine levels (cs.map Child.field) entries ↔
      List.Forall₂
        (fun child entry => readEntry engine (readBranch engine levels) side child = .ok entry)
        cs entries := by
  rw [ReadAs, List.forall₂_map_left_iff]
  constructor
  · exact List.Forall₂.imp fun child entry h => h child.path side
  · exact List.Forall₂.imp fun child entry h path side' => readEntry_moved child.field h path

/-- Entries that are read are in normal form. -/
theorem ReadAs.composed {fields : Fields} {entries : List (Step T)}
    (h : ReadAs engine levels fields entries) : Step.Composed entries := by
  have hnormal : ∀ entry ∈ entries, entry.normalEntries = [entry] := by
    refine forall_of_forall₂ h fun field entry hentry => ?_
    obtain ⟨negated, -, branch, hbranch, rfl⟩ | ⟨-, node, -, rfl⟩ :=
      readEntry_eq_ok_iff.mp (hentry [] .root)
    · exact (fitsStep_of_readBranch hbranch).2
    · rw [Step.normalEntries]
  rw [← Step.normalEntriesAll_eq_self hnormal]
  exact Step.composed_normalEntriesAll entries

end Document

/-- A document is read as the entries that its fields are read as. -/
theorem Engine.read_eq_ok_iff_readAs {engine : Engine T} {document : Value} {flow : Flow T} :
    engine.read document = .ok flow ↔
      ∃ fields entries, Document.Lists engine.settings document fields ∧
        Document.ReadAs engine engine.settings.maxDepth fields entries ∧
        flow.root = Step.compose entries := by
  rw [Engine.read_eq_ok_iff, Document.readBody_eq_ok_iff]
  constructor
  · rintro ⟨cs, hcs, entries, hroot, hentries⟩
    exact ⟨_, entries, Document.exists_children_iff.mp ⟨cs, hcs, rfl⟩,
      Document.readAs_iff.mpr hentries, hroot⟩
  · rintro ⟨fields, entries, hlists, hentries, hroot⟩
    obtain ⟨cs, hcs, rfl⟩ := Document.exists_children_iff.mpr hlists
    exact ⟨cs, hcs, entries, hroot, Document.readAs_iff.mp hentries⟩

/-! ## The entries of a flow -/

/-- The flow is composed of these entries, and they are in normal form. -/
structure Flow.Entries (flow : Flow T) (entries : List (Step T)) : Prop where
  composed : Step.Composed entries
  root : flow.root = Step.compose entries

namespace Flow.Entries

variable {flow : Flow T} {entries : List (Step T)}

theorem statistics_eq (h : flow.Entries entries) :
    flow.statistics = Step.statisticsAll entries := by
  rw [statistics, h.root, statisticsBody_eq_elim, sequential_statistics.compose]

theorem run_eq (h : flow.Entries entries) : flow.run = Step.runAll entries := by
  rw [run, h.root, runBody_eq_elim, sequential_run.compose]

theorem runTraced_eq (h : flow.Entries entries) :
    flow.runTraced = Step.runAllTraced [] 0 entries := by
  rw [runTraced, h.root, Step.runBodyTraced_compose h.composed]

/-- Each entry is written as one item. -/
theorem length_writeSteps (h : flow.Entries entries) (discriminator : String) :
    (Document.writeSteps discriminator entries).length = entries.length := by
  rw [Document.length_writeSteps, h.composed.flattenAll_eq_self]

end Flow.Entries

/-! ## Entries further down -/

/-- The place with its first item moved further by `n`. -/
def Locator.further (n : Nat) : Locator → Locator
  | .index i :: rest => .index (i + n) :: rest
  | path => path

/-- Entries that are numbered from `n` on are recorded at places that are further by `n`. -/
theorem Step.further_runAllTraced {steps : List (Step T)} (h : Composed steps) (n : Nat) :
    viewed (Trace.moved (Locator.further n)) (runAllTraced [] 0 steps) =
      runAllTraced [] n steps := by
  have haligned : Aligned (Locator.further n) id [] 0 [] n := by
    intro i rest
    show Locator.Part.index (0 + i + n) :: rest = .index (n + i) :: rest
    rw [Nat.zero_add, Nat.add_comm]
  rw [moved_runAllTraced steps haligned fun step hstep inner heq =>
      absurd heq (h.ne_sequence step hstep inner),
    viewed_moved_id]

/-- A decision is at an item of the document. -/
theorem Flow.Entries.exists_item {flow : Flow T} {entries : List (Step T)}
    (h : flow.Entries entries) {payload after : T} {trace : Trace}
    (hrun : flow.runTraced payload = .ok trace after) :
    ∀ d ∈ trace.decisions, ∃ i rest, d.path = .index i :: rest := by
  intro d hd
  rw [h.runTraced_eq] at hrun
  obtain ⟨p, hp, hpath⟩ := (located_of_runAllTraced entries hrun).exists_place d hd
  obtain ⟨i, -, -, rest, hrest⟩ := Step.item_prefix_of_mem_places h.composed hp
  exact ⟨i, rest, hpath.trans hrest.symm⟩

/-! ## Concatenation -/

/-- The flow of concatenated documents has the entries of both. -/
theorem Engine.exists_read_append {engine : Engine T} {items more : List Value}
    {first second : Flow T} (hfirst : engine.read (.array items) = .ok first)
    (hsecond : engine.read (.array more) = .ok second) :
    ∃ both entries moreEntries, engine.read (.array (items ++ more)) = .ok both ∧
      first.Entries entries ∧ second.Entries moreEntries ∧
      both.Entries (entries ++ moreEntries) := by
  obtain ⟨fields, entries, hlists, hentries, hroot⟩ := Engine.read_eq_ok_iff_readAs.mp hfirst
  obtain ⟨moreFields, moreEntries, hmoreLists, hmoreEntries, hmoreRoot⟩ :=
    Engine.read_eq_ok_iff_readAs.mp hsecond
  have hboth : Document.ReadAs engine engine.settings.maxDepth (fields ++ moreFields)
      (entries ++ moreEntries) := List.rel_append hentries hmoreEntries
  refine ⟨⟨Step.compose (entries ++ moreEntries)⟩, entries, moreEntries, ?_,
    ⟨hentries.composed, hroot⟩,
    ⟨hmoreEntries.composed, hmoreRoot⟩, ⟨hboth.composed, rfl⟩⟩
  exact Engine.read_eq_ok_iff_readAs.mpr ⟨_, _, hlists.append hmoreLists, hboth, rfl⟩

/-- **Concatenated documents are read as flows run in turn.** If two arrays are read, so are their
items one after the other. The flow is written as the items of both flows; its counts are the sums,
and its depth is the greater one. It runs as the first flow and then, if that has not failed, as the
second on the payload that the first leaves. A record is that of the first flow followed by that of
the second, whose decisions are further by as many items as the first flow is written with. -/
theorem Engine.read_append (engine : Engine T) {items more : List Value} {first second : Flow T}
    (hfirst : engine.read (.array items) = .ok first)
    (hsecond : engine.read (.array more) = .ok second) :
    ∃ both, engine.read (.array (items ++ more)) = .ok both ∧
      both.statistics = ⟨first.statistics.branches + second.statistics.branches,
        first.statistics.groups + second.statistics.groups,
        first.statistics.predicates + second.statistics.predicates,
        first.statistics.consumers + second.statistics.consumers,
        max first.statistics.maxDepth second.statistics.maxDepth⟩ ∧
      (∀ payload, both.run payload =
        match first.run payload with
        | .ok _ between => second.run between
        | .error failure after => .error failure after) ∧
      ∃ written writtenMore, engine.write first = .array written ∧
        engine.write second = .array writtenMore ∧
        engine.write both = .array (written ++ writtenMore) ∧
        ∀ payload trace after, both.runTraced payload = .ok trace after ↔
          ∃ before between later, first.runTraced payload = .ok before between ∧
            second.runTraced between = .ok later after ∧
            (∀ d ∈ later.decisions, ∃ i rest, d.path = .index i :: rest) ∧
            trace =
              ⟨before.decisions ++
                later.decisions.map (·.moved (Locator.further written.length)),
              before.consumersInvoked + later.consumersInvoked⟩ := by
  obtain ⟨both, entries, moreEntries, hboth, hentries, hmore, happend⟩ :=
    Engine.exists_read_append hfirst hsecond
  refine ⟨both, hboth, ?counts, fun payload => ?run, _, _, Engine.write_of_root hentries.root,
    Engine.write_of_root hmore.root, ?written, fun payload trace after => ?traced⟩
  case counts =>
    rw [happend.statistics_eq, sequential_statistics.append, ← hentries.statistics_eq,
      ← hmore.statistics_eq]
    rfl
  case run =>
    rw [happend.run_eq, sequential_run.append, ← hentries.run_eq, ← hmore.run_eq, inTurn]
    cases first.run payload with
    | error failure after => rfl
    | ok _ between =>
      dsimp only
      cases second.run between <;> rfl
  case written =>
    rw [Engine.write_of_root happend.root, Document.sequential_writeStep.append]
  case traced =>
    -- The entries of the second flow are numbered on, so that its record is moved further.
    have hruns : both.runTraced = inTurn (· ++ ·) first.runTraced
        (viewed (Trace.moved (Locator.further entries.length)) second.runTraced) := by
      rw [happend.runTraced_eq, Step.runAllTraced_append, hentries.runTraced_eq, hmore.runTraced_eq,
        Step.further_runAllTraced hmore.composed, Nat.zero_add]
    rw [hruns, inTurn_eq_ok_iff, hentries.length_writeSteps]
    constructor
    · rintro ⟨before, between, hbefore, moved, hmoved, rfl⟩
      obtain ⟨later, hlater, rfl⟩ := viewed_eq_ok_iff.mp hmoved
      exact ⟨before, between, later, hbefore, hlater, hmore.exists_item hlater, rfl⟩
    · rintro ⟨before, between, later, hbefore, hlater, -, rfl⟩
      exact ⟨before, between, hbefore, _, viewed_eq_ok_iff.mpr ⟨later, hlater, rfl⟩, rfl⟩

/-- Items with a branch after a consumer. -/
def Document.trimAndBranch : List Value :=
  [.single "trim" (.single "field" (.text "name")),
    .single "if" (.object [("condition", .single "type" (.text "always")), ("then", .null)])]

theorem Engine.read_append_trimAndBranch :
    ∃ both trace,
      Builtin.engine.read (.array (Document.trimAndBranch ++ Document.trimAndBranch)) = .ok both ∧
      both.statistics = ⟨2, 0, 2, 2, 1⟩ ∧
      both.runTraced (.object []) = .ok trace (.object []) ∧
      trace.decisions.map (·.path.text) = ["$[1].if", "$[3].if"] := by
  have hread : Builtin.engine.read (.array Document.trimAndBranch) = .ok _ := rfl
  obtain ⟨both, hboth, hcounts, -, written, _, hwritten, -, -, hruns⟩ :=
    Builtin.engine.read_append hread hread
  obtain rfl := Value.array.inj hwritten
  have hrun := (hruns (.object []) _ (.object [])).mpr
    ⟨⟨[⟨[.index 1, .field "if"], .ifHolds, true, .skipped⟩], 1⟩, .object [], _, rfl, rfl,
      ?_, rfl⟩
  · exact ⟨both, _, hboth, hcounts, hrun, by decide⟩
  · exact List.forall_mem_singleton.mpr ⟨1, _, rfl⟩

end DecisionFlow
