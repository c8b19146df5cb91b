import DecisionFlow.Proofs.Builtin.Interference
import DecisionFlow.Proofs.Builtin.Renaming

/-!
# Changes that do not meet commute

What a change writes depends on what it finds at its paths. Two changes whose paths part find there
what was there at first, in either order, so they write the same in both.

- `Builtin.Change.plan`: what a change is about to write.
- `Builtin.Change.apply_object_eq_ok_iff`: **a change that succeeds makes the writes of its plan.**
- `Builtin.Change.Planned`: the writes of a plan stand at the paths of the change, and can be made.
- `Builtin.Change.plan_performAll_iff`: writes elsewhere leave the plan as it is.
- `Builtin.Change.followedBy_comm`: **changes whose paths part can be made in either order.**
-/

namespace DecisionFlow.Builtin.Change

variable {fields : Fields} {c d : Change}

/-! ## Plans -/

/-- A write at a path that finds something: what is left there depends on what it finds. -/
def replaced (left : Value → Option Value) (field : FieldPath) (fields : Fields) : List Write :=
  ((Value.object fields).lookup field).toList.map fun value => ⟨field, left value⟩

/-- What a change is about to write. -/
def plan (fields : Fields) : Change → Except Failure (List Write)
  | uppercase field => .ok (replaced (some ∘ onText Text.toUpper) field fields)
  | lowercase field => .ok (replaced (some ∘ onText Text.toLower) field fields)
  | trim field => .ok (replaced (some ∘ onText Text.trim) field fields)
  | append field suffix => .ok (replaced (some ∘ onText (· ++ suffix)) field fields)
  | set field value => ((Value.object fields).checkAssign field).map fun _ =>
      [⟨field, some value⟩]
  | remove field => .ok (replaced (fun _ => none) field fields)
  | rename source target =>
    match (Value.object fields).lookup source with
    | none => .ok []
    | some value =>
      ((Value.object (fields.perform ⟨source, none⟩)).checkAssign target).map fun _ =>
        [⟨source, none⟩, ⟨target, some value⟩]

/-- Changing a text replaces what is found at the field, if anything is. -/
theorem mapText_object (f : String → String) (field : FieldPath) :
    mapText f field (.object fields)
      = .ok () (.object (fields.performAll (replaced (some ∘ onText f) field fields))) := by
  rw [mapText_eq_attempted, attempted]
  simp only [Value.requireObject, Except.map]
  rw [Value.modify?_object_eq, replaced]
  cases (Value.object fields).lookup field <;> rfl

/-- Removing a field writes nothing over what is found there. -/
theorem removeField_object (field : FieldPath) :
    removeField field (.object fields)
      = .ok () (.object (fields.performAll (replaced (fun _ => none) field fields))) := by
  rw [removeField, Value.take_object_eq, replaced]
  cases (Value.object fields).lookup field <;> rfl

/-- A change that always succeeds has done its writes. -/
theorem ok_performAll_iff {result : EStateM.Result Failure Value Unit} {writes : List Write}
    {after : Value} (h : result = .ok () (.object (fields.performAll writes))) :
    result = .ok () after ↔
      ∃ planned, (.ok writes : Except Failure (List Write)) = .ok planned ∧
      after = .object (fields.performAll planned) := by
  rw [h]
  constructor
  · rintro ⟨⟩
    exact ⟨writes, rfl, rfl⟩
  · rintro ⟨_, ⟨⟩, rfl⟩
    rfl

theorem error_performAll_iff {failure : Failure} {left after : Value} :
    (.error failure left : EStateM.Result Failure Value Unit) = .ok () after ↔
      ∃ planned, (.error failure : Except Failure (List Write)) = .ok planned ∧
        after = .object (fields.performAll planned) := by
  constructor
  · intro h
    cases h
  · rintro ⟨_, h, -⟩
    cases h

/-- **A change that succeeds makes the writes of its plan.** -/
theorem apply_object_eq_ok_iff (hdistinct : (Value.object fields).Distinct) (c : Change)
    {after : Value} :
    c.apply (.object fields) = .ok () after ↔
      ∃ writes, c.plan fields = .ok writes ∧ after = .object (fields.performAll writes) := by
  cases c with
  | uppercase field => exact ok_performAll_iff (mapText_object _ field)
  | lowercase field => exact ok_performAll_iff (mapText_object _ field)
  | trim field => exact ok_performAll_iff (mapText_object _ field)
  | append field suffix => exact ok_performAll_iff (mapText_object _ field)
  | set field value =>
    rw [apply, setField_object, plan]
    cases (Value.object fields).checkAssign field with
    | ok _ => exact ok_performAll_iff rfl
    | error failure => exact error_performAll_iff
  | remove field => exact ok_performAll_iff (removeField_object field)
  | rename source target =>
    rw [apply, renameField_object hdistinct, plan]
    cases (Value.object fields).lookup source with
    | none => exact ok_performAll_iff rfl
    | some value =>
      dsimp only
      cases (Value.object (fields.perform ⟨source, none⟩)).checkAssign target with
      | ok _ => exact ok_performAll_iff rfl
      | error failure => exact error_performAll_iff

/-- A payload that is no object stays as it is. -/
theorem apply_of_kind {payload : Value} (h : payload.kind ≠ .object) (c : Change) :
    c.apply payload = .error (.expectedObject payload.kind) payload := by
  cases payload with
  | object fields => exact absurd rfl h
  | _ => cases c <;> rfl

/-! ## What is planned -/

/-- What the change sets repeats no field. -/
def Distinct (c : Change) : Prop := ∀ field value, c = set field value → value.Distinct

/-- Writes that stand at the paths of a change and can be made one after the other. -/
structure Planned (c : Change) (fields : Fields) (writes : List Write) : Prop where
  paths : ∀ w ∈ writes, w.path ∈ c.paths
  distinct : ∀ w ∈ writes, w.Distinct
  feasible : Feasible (Value.object fields).view writes

/-- A replacement is planned where something is found, and nowhere else. -/
theorem mem_replaced_iff {left : Value → Option Value} {field : FieldPath} {w : Write} :
    w ∈ replaced left field fields ↔
      ∃ value, (Value.object fields).lookup field = some value ∧
        w = ⟨field, left value⟩ := by
  simp only [replaced, List.mem_map, Option.mem_toList, eq_comm]

/-- Objects lead to what is found, so it can be replaced. -/
theorem feasible_replaced (left : Value → Option Value) (field : FieldPath) (fields : Fields) :
    Feasible (Value.object fields).view (replaced left field fields) := by
  rw [replaced]
  cases hheld : (Value.object fields).lookup field with
  | none => exact .nil _
  | some value => exact .cons (Value.clear_of_lookup field hheld) (.nil _)

/-- Replacements of what is found at a path of the change are a plan for it. -/
theorem planned_replaced {left : Value → Option Value} {field : FieldPath}
    (hfield : field ∈ c.paths)
    (hleft : ∀ value, (Value.object fields).lookup field = some value →
      Write.Distinct ⟨field, left value⟩) :
    c.Planned fields (replaced left field fields) := by
  refine ⟨fun w hw => ?_, fun w hw => ?_, feasible_replaced left field fields⟩
  · obtain ⟨value, -, rfl⟩ := mem_replaced_iff.mp hw
    exact hfield
  · obtain ⟨value, hvalue, rfl⟩ := mem_replaced_iff.mp hw
    exact hleft value hvalue

theorem distinct_onText (f : String → String) {value : Value} (h : value.Distinct) :
    (onText f value).Distinct := by
  cases value with
  | text s => exact trivial
  | _ => exact h

theorem planned_onText (hdistinct : (Value.object fields).Distinct) (f : String → String)
    {field : FieldPath} (hfield : field ∈ c.paths) :
    c.Planned fields (replaced (some ∘ onText f) field fields) :=
  planned_replaced hfield fun _ hvalue =>
    Write.distinct_some (distinct_onText f (Fields.distinct_of_lookupAll hdistinct hvalue)) field

theorem checked_map_eq_ok_iff {checked : Except Failure Unit} {writes writes' : List Write} :
    (checked.map fun _ => writes) = .ok writes' ↔ checked = .ok () ∧ writes' = writes := by
  cases checked with
  | ok _ =>
    exact ⟨fun h => ⟨rfl, (Except.ok.inj h).symm⟩, fun h => congrArg Except.ok h.2.symm⟩
  | error failure => exact ⟨nofun, nofun⟩

/-- **A plan stands at the paths of its change, and it can be carried out.** -/
theorem planned_of_plan (hdistinct : (Value.object fields).Distinct) (hc : c.Distinct)
    {writes : List Write} (h : c.plan fields = .ok writes) : c.Planned fields writes := by
  cases c with
  | uppercase field =>
    cases h
    exact planned_onText hdistinct _ (List.mem_singleton_self field)
  | lowercase field =>
    cases h
    exact planned_onText hdistinct _ (List.mem_singleton_self field)
  | trim field =>
    cases h
    exact planned_onText hdistinct _ (List.mem_singleton_self field)
  | append field suffix =>
    cases h
    exact planned_onText hdistinct _ (List.mem_singleton_self field)
  | remove field =>
    cases h
    exact planned_replaced (List.mem_singleton_self field) fun _ _ => Write.distinct_none field
  | set field value =>
    obtain ⟨hcheck, rfl⟩ := checked_map_eq_ok_iff.mp h
    exact {
      paths := List.forall_mem_singleton.mpr (List.mem_singleton_self field)
      distinct := List.forall_mem_singleton.mpr (Write.distinct_some (hc field value rfl) field)
      feasible := .cons ((Value.checkAssign_eq_ok_iff field).mp hcheck) (.nil _) }
  | rename source target =>
    rw [plan] at h
    cases hvalue : (Value.object fields).lookup source with
    | none =>
      rw [hvalue] at h
      cases h
      exact ⟨nofun, nofun, .nil _⟩
    | some value =>
      rw [hvalue] at h
      obtain ⟨hcheck, rfl⟩ := checked_map_eq_ok_iff.mp h
      have hheld := Fields.distinct_of_lookupAll hdistinct hvalue
      have hclear := (Value.checkAssign_eq_ok_iff target).mp hcheck
      rw [Fields.view_perform hdistinct] at hclear
      exact {
        paths := by simp [paths]
        distinct := List.forall_mem_cons.mpr ⟨Write.distinct_none source,
          List.forall_mem_singleton.mpr (Write.distinct_some hheld target)⟩
        feasible := .cons (Value.clear_of_lookup source hvalue) (.cons hclear (.nil _)) }

/-! ## Plans beside other writes -/

/-- Each path of one change parts from each path of the other. -/
def Apart (c d : Change) : Prop := ∀ p ∈ c.paths, ∀ q ∈ d.paths, p.Incomparable q

instance (c d : Change) : Decidable (Apart c d) :=
  inferInstanceAs (Decidable (∀ p ∈ c.paths, ∀ q ∈ d.paths, p.Incomparable q))

theorem Apart.symm (h : Apart c d) : Apart d c := fun q hq p hp => (h p hp q hq).symm

/-- **Writes elsewhere leave a plan as it is.** -/
theorem plan_performAll_iff (hdistinct : (Value.object fields).Distinct) {others : List Write}
    (hothers : d.Planned fields others) (hapart : Apart c d) {writes : List Write} :
    c.plan (fields.performAll others) = .ok writes ↔ c.plan fields = .ok writes := by
  have hpath : ∀ p ∈ c.paths, ∀ w ∈ others, w.path.Incomparable p :=
    fun p hp w hw => (hapart p hp _ (hothers.paths w hw)).symm
  have hlookup : ∀ p ∈ c.paths,
      (Value.object (fields.performAll others)).lookup p = (Value.object fields).lookup p :=
    fun p hp => Fields.lookup_performAll hdistinct hothers.distinct (hpath p hp)
  have hreplaced : ∀ left, ∀ p ∈ c.paths,
      replaced left p (fields.performAll others) = replaced left p fields :=
    fun left p hp => by rw [replaced, replaced, hlookup p hp]
  cases c with
  | uppercase field => rw [plan, plan, hreplaced _ field (List.mem_singleton_self field)]
  | lowercase field => rw [plan, plan, hreplaced _ field (List.mem_singleton_self field)]
  | trim field => rw [plan, plan, hreplaced _ field (List.mem_singleton_self field)]
  | append field suffix => rw [plan, plan, hreplaced _ field (List.mem_singleton_self field)]
  | remove field => rw [plan, plan, hreplaced _ field (List.mem_singleton_self field)]
  | set field value =>
    have hcheck := Fields.checkAssign_performAll_iff hdistinct hothers.distinct hothers.feasible
      (hpath field (List.mem_singleton_self field))
    rw [plan, plan, checked_map_eq_ok_iff, checked_map_eq_ok_iff, hcheck]
  | rename source target =>
    have hsource : source ∈ (rename source target).paths := by simp [paths]
    have htarget : target ∈ (rename source target).paths := by simp [paths]
    rw [plan, plan, hlookup source hsource]
    cases hvalue : (Value.object fields).lookup source with
    | none => rfl
    | some value =>
      -- The value is taken out beside the other writes, and the target is asked for after that.
      have hcheck := Fields.checkAssign_perform_performAll_iff (w := ⟨source, none⟩) hdistinct
        hothers.distinct hothers.feasible (Value.clear_of_lookup source hvalue)
        (fun w hw => (hpath source hsource w hw).symm) (hpath target htarget)
      dsimp only
      rw [checked_map_eq_ok_iff, checked_map_eq_ok_iff, hcheck]

/-! ## Changes one after the other -/

/-- A change, and then another unless the first has failed. -/
def followedBy (c d : Change) : EStateM Failure Value Unit := do
  c.apply
  d.apply

/-- Two changes in turn succeed if each of them does. -/
theorem followedBy_eq_ok_iff {payload after : Value} :
    c.followedBy d payload = .ok () after ↔
      ∃ between, c.apply payload = .ok () between ∧ d.apply between = .ok () after := by
  show EStateM.bind c.apply (fun _ => d.apply) payload = _ ↔ _
  rw [EStateM.bind]
  cases c.apply payload with
  | ok _ between =>
    constructor
    · intro h
      exact ⟨between, rfl, h⟩
    · rintro ⟨_, ⟨⟩, h⟩
      exact h
  | error failure left => exact ⟨nofun, nofun⟩

/-- Two changes whose paths part make the writes that each of them plans at first. -/
theorem followedBy_object_eq_ok_iff (hdistinct : (Value.object fields).Distinct) (hc : c.Distinct)
    (hapart : Apart c d) {after : Value} :
    c.followedBy d (.object fields) = .ok () after ↔
      ∃ writes others, c.plan fields = .ok writes ∧ d.plan fields = .ok others ∧
        after = .object ((fields.performAll writes).performAll others) := by
  rw [followedBy_eq_ok_iff]
  constructor
  · rintro ⟨between, hfirst, hsecond⟩
    obtain ⟨writes, hwrites, rfl⟩ := (apply_object_eq_ok_iff hdistinct c).mp hfirst
    have hplanned := planned_of_plan hdistinct hc hwrites
    have hbetween := Fields.distinct_performAll hdistinct hplanned.distinct
    obtain ⟨others, hothers, rfl⟩ := (apply_object_eq_ok_iff hbetween d).mp hsecond
    have hfirst := (plan_performAll_iff hdistinct hplanned hapart.symm).mp hothers
    exact ⟨writes, others, hwrites, hfirst, rfl⟩
  · rintro ⟨writes, others, hwrites, hothers, rfl⟩
    have hplanned := planned_of_plan hdistinct hc hwrites
    have hbetween := Fields.distinct_performAll hdistinct hplanned.distinct
    have hstill := (plan_performAll_iff hdistinct hplanned hapart.symm).mpr hothers
    exact ⟨_, (apply_object_eq_ok_iff hdistinct c).mpr ⟨writes, hwrites, rfl⟩,
      (apply_object_eq_ok_iff hbetween d).mpr ⟨others, hstill, rfl⟩⟩

/-- What two plans write looks the same in either order. -/
theorem reordered_performAll {writes others : List Write}
    (hdistinct : (Value.object fields).Distinct) (hwrites : c.Planned fields writes)
    (hothers : d.Planned fields others) (hapart : Apart c d) :
    (Value.object ((fields.performAll writes).performAll others)).Reordered
      (.object ((fields.performAll others).performAll writes)) := by
  have hparted : ∀ w ∈ writes, ∀ w' ∈ others, w.path.Incomparable w'.path :=
    fun w hw w' hw' => hapart _ (hwrites.paths w hw) _ (hothers.paths w' hw')
  rw [Value.Reordered,
    Fields.view_performAll (Fields.distinct_performAll hdistinct hwrites.distinct) hothers.distinct,
    Fields.view_performAll hdistinct hwrites.distinct,
    Fields.view_performAll (Fields.distinct_performAll hdistinct hothers.distinct) hwrites.distinct,
    Fields.view_performAll hdistinct hothers.distinct]
  exact (Write.graftAll_comm hparted _).symm

/-- Where one order of two changes succeeds, so does the other. -/
theorem exists_followedBy (hc : c.Distinct) (hd : d.Distinct) (hapart : Apart c d)
    {payload after : Value} (hdistinct : payload.Distinct)
    (h : c.followedBy d payload = .ok () after) :
    ∃ after', d.followedBy c payload = .ok () after' ∧ after.Reordered after' := by
  by_cases hkind : payload.kind = .object
  · cases payload with
    | object fields =>
      obtain ⟨writes, others, hwrites, hothers, rfl⟩ :=
        (followedBy_object_eq_ok_iff hdistinct hc hapart).mp h
      have hplanned := planned_of_plan hdistinct hc hwrites
      have hplanned' := planned_of_plan hdistinct hd hothers
      exact ⟨_, (followedBy_object_eq_ok_iff hdistinct hd hapart.symm).mpr
          ⟨others, writes, hothers, hwrites, rfl⟩,
        reordered_performAll hdistinct hplanned hplanned' hapart⟩
    | _ => cases hkind
  · obtain ⟨between, hfirst, -⟩ := followedBy_eq_ok_iff.mp h
    rw [apply_of_kind hkind] at hfirst
    cases hfirst

/-- **Changes whose paths part can be made in either order.** Both orders succeed or both fail. If
they succeed, they leave payloads that are equal but for the order of fields. -/
theorem followedBy_comm (hc : c.Distinct) (hd : d.Distinct) (hapart : Apart c d) {payload : Value}
    (hdistinct : payload.Distinct) :
    ((∃ after, c.followedBy d payload = .ok () after) ↔
      ∃ after, d.followedBy c payload = .ok () after) ∧
    ∀ after after', c.followedBy d payload = .ok () after →
      d.followedBy c payload = .ok () after' →
      after.Reordered after' := by
  refine ⟨⟨?_, ?_⟩, fun after after' h h' => ?_⟩
  · rintro ⟨after, h⟩
    obtain ⟨after', h', -⟩ := exists_followedBy hc hd hapart hdistinct h
    exact ⟨after', h'⟩
  · rintro ⟨after, h⟩
    obtain ⟨after', h', -⟩ := exists_followedBy hd hc hapart.symm hdistinct h
    exact ⟨after', h'⟩
  · obtain ⟨other, hother, hreordered⟩ := exists_followedBy hc hd hapart hdistinct h
    cases hother.symm.trans h'
    exact hreordered

/-- A move of the note in `labelled`. -/
def retitled : Change := rename (.ofText "home.note") (.ofText "home.title")

/-- A field that is set beside the note in `labelled`. -/
def measured : Change := set (.ofText "home.size") .null

/-- The orders of two changes may leave the fields of an object in different orders. -/
theorem followedBy_comm_labelled :
    retitled.Distinct ∧ measured.Distinct ∧ Apart retitled measured ∧ labelled.Distinct ∧
    ∃ after after', retitled.followedBy measured labelled = .ok () after ∧
      measured.followedBy retitled labelled = .ok () after' ∧ after.Reordered after' ∧
      (after.lookupAll ["home"]).bind (·.fields?.map Fields.names)
        = some ["rooms", "floor", "title", "size"] ∧
      (after'.lookupAll ["home"]).bind (·.fields?.map Fields.names)
        = some ["size", "floor", "rooms", "title"] := by
  have hretitled : retitled.Distinct := nofun
  have hmeasured : measured.Distinct := by
    rintro _ _ ⟨⟩
    exact trivial
  have hapart : Apart retitled measured := by decide
  obtain ⟨-, hequal⟩ := followedBy_comm hretitled hmeasured hapart distinct_labelled
  exact ⟨hretitled, hmeasured, hapart, distinct_labelled, _, _, rfl, rfl,
    hequal _ _ rfl rfl, rfl, rfl⟩

end DecisionFlow.Builtin.Change
