import DecisionFlow.Builtin.Change
import DecisionFlow.Proofs.Payload.Writes

/-!
# Moving a value

A move takes a value out of a payload, asks whether the target can be set without it, and puts it
there, or back where it was. No value is lost on the way.

- `Fields.order_restore`: a value put back where it was taken stands last in its object, and every
  other object keeps its order.
- `Builtin.Change.renameField_object`: **what a move comes to**, by what the source holds and what
  the check says of the target.
- `Builtin.Change.renameField_loses_nothing`: when a move fails, and that it then leaves the payload
  as it was but for that order.
- `Builtin.Change.renameField_moves_value`: what a move that succeeds leaves at the source, at the
  target and elsewhere, and when moving back restores the payload.
-/

namespace DecisionFlow

/-! ## Order -/

/-- Every object but the one at the end of these segments has the same fields in the same order. -/
def Value.SameOrderBut (parent : List String) (payload after : Value) : Prop :=
  ∀ segments : List String, segments ≠ parent →
    (after.lookupAll segments).bind (·.fields?.map Fields.names)
      = (payload.lookupAll segments).bind (·.fields?.map Fields.names)

/-- A field with more behind it is settled twice by settling twice inside. -/
theorem Fields.settle_settle_cons (left left' : Option Value) (name next : String)
    (rest : List String) (fields : Fields) :
    (fields.settle left name (next :: rest)).settle left' name (next :: rest)
      = fields.insert name (.object
          (((inside (fields.get? name)).settle left next rest).settle left' next rest)) := by
  rw [settle, settle, get?_insert_self, insert_insert]
  rfl

/-- A value that is put back where it was taken is moved within its object. No other object shows
it. -/
theorem Fields.order_restore {fields : Fields} {name : String} {rest : List String}
    (hdistinct : (Value.object fields).Distinct) {value : Value}
    (hvalue : (Value.object fields).lookupAll (name :: rest) = some value) :
    Value.SameOrderBut (name :: rest).dropLast (.object fields)
      (.object ((fields.settle none name rest).settle (some value) name rest)) := by
  induction rest generalizing name fields with
  | nil =>
    intro segments hne
    cases segments with
    | nil => exact absurd rfl hne
    | cons key others =>
      have hnames := (Value.distinct_object_iff.mp hdistinct).1
      rw [lookupAll_object] at hvalue
      obtain ⟨held, hheld, hrest⟩ := Option.bind_eq_some_iff.mp hvalue
      rw [Value.lookupAll_nil] at hrest
      obtain rfl := Option.some.inj hrest
      have hkey : get? (settle (some held) name [] (settle none name [] fields)) key =
          fields.get? key := by
        rw [settle, settle, get?_put (nodup_names_put hnames none), get?_put hnames]
        by_cases hname : name = key
        · rw [if_pos hname, ← hname, hheld]
        · rw [if_neg hname, if_neg hname]
      rw [lookupAll_object, lookupAll_object, hkey]
  | cons next rest ih =>
    intro segments hne
    rw [lookupAll_object] at hvalue
    obtain ⟨held, hheld, hrest⟩ := Option.bind_eq_some_iff.mp hvalue
    have hmem : name ∈ names fields := List.mem_map_of_mem (mem_of_get?_eq_some hheld)
    rw [settle_settle_cons]
    cases segments with
    | nil =>
      rw [Value.lookupAll_nil, Value.lookupAll_nil]
      show some (names (insert fields name _)) = some (names fields)
      rw [names_insert, if_pos hmem]
    | cons key others =>
      rw [lookupAll_object, lookupAll_object]
      by_cases hname : name = key
      · subst hname
        have hinner := distinct_inside hdistinct name
        cases held with
        | object inner =>
          rw [hheld] at hinner
          rw [get?_insert_self, hheld]
          exact ih hinner hrest others fun heq => hne (congrArg (name :: ·) heq)
        | _ => cases hrest
      · rw [get?_insert_of_ne _ _ hname]

namespace Builtin.Change

/-! ## What a move comes to -/

section

variable {fields : Fields}

/-- Taking a value away leaves fields that do not repeat. -/
theorem distinct_taken (hdistinct : (Value.object fields).Distinct) (source : FieldPath) :
    (Value.object (fields.perform ⟨source, none⟩)).Distinct :=
  Fields.distinct_perform hdistinct (Write.distinct_none source)

/-- What is left of an object once a value is moved. -/
def moved (source target : FieldPath) (value : Value) (fields : Fields) : Fields :=
  (fields.perform ⟨source, none⟩).perform ⟨target, some value⟩

/-- A field of an object is set if the check succeeds, and the object is left alone otherwise. -/
theorem setField_object (field : FieldPath) (value : Value) :
    setField field value (.object fields)
      = match (Value.object fields).checkAssign field with
        | .ok () => .ok () (.object (fields.perform ⟨field, some value⟩))
        | .error failure => .error failure (.object fields) :=
  Value.assignInPlace_object field value

/-- Where the check succeeds, so does setting the field. -/
theorem setField_of_checkAssign {field : FieldPath}
    (h : (Value.object fields).checkAssign field = .ok ()) (value : Value) :
    setField field value (.object fields) =
      .ok () (.object (fields.perform ⟨field, some value⟩)) := by
  rw [setField_object, h]

/-- A value that was taken out can be put back. -/
theorem setField_taken (hdistinct : (Value.object fields).Distinct) (source : FieldPath)
    (value : Value) :
    setField source value (.object (fields.perform ⟨source, none⟩))
      = .ok () (.object (moved source source value fields)) :=
  setField_of_checkAssign
    (Fields.checkAssign_perform_self (w := ⟨source, none⟩) hdistinct) value

/-- What is found is taken, and nothing else goes with it. -/
theorem take_of_lookup {source : FieldPath} {value : Value}
    (h : (Value.object fields).lookup source = some value) :
    (Value.object fields).take source =
      .ok (some value, .object (fields.perform ⟨source, none⟩)) := by
  rw [Value.take_object_eq, h]
  rfl

/-- Where nothing is found, nothing is taken. -/
theorem take_of_lookup_eq_none {source : FieldPath}
    (h : (Value.object fields).lookup source = none) :
    (Value.object fields).take source = .ok (none, .object fields) := by
  rw [Value.take_object_eq, h]
  rfl

/-- **A move of a value that is there: the value is at the target, or it is put back.** -/
theorem renameField_object (hdistinct : (Value.object fields).Distinct)
    (source target : FieldPath) :
    renameField source target (.object fields)
      = match (Value.object fields).lookup source with
        | none => .ok () (.object fields)
        | some value =>
          match (Value.object (fields.perform ⟨source, none⟩)).checkAssign target with
          | .ok () => .ok () (.object (moved source target value fields))
          | .error failure => .error failure (.object (moved source source value fields)) := by
  rw [renameField]
  cases hvalue : (Value.object fields).lookup source with
  | none => rw [take_of_lookup_eq_none hvalue]
  | some value =>
    rw [take_of_lookup hvalue]
    dsimp only
    rw [setField_taken hdistinct, setField_object]
    cases (Value.object (fields.perform ⟨source, none⟩)).checkAssign target <;> rfl

/-- A move fails if the target is blocked once the source was taken, and the value is then put back.
-/
theorem renameField_eq_error_iff (hdistinct : (Value.object fields).Distinct)
    {source target : FieldPath} {failure : Failure} {after : Value} :
    renameField source target (.object fields) = .error failure after ↔
      ∃ value, (Value.object fields).lookup source = some value ∧
        (Value.object (fields.perform ⟨source, none⟩)).checkAssign target = .error failure ∧
        after = .object (moved source source value fields) := by
  rw [renameField_object hdistinct]
  cases (Value.object fields).lookup source with
  | none => exact ⟨nofun, nofun⟩
  | some value =>
    dsimp only
    cases (Value.object (fields.perform ⟨source, none⟩)).checkAssign target with
    | ok _ => exact ⟨nofun, nofun⟩
    | error _ =>
      constructor
      · rintro ⟨⟩
        exact ⟨value, rfl, rfl, rfl⟩
      · rintro ⟨_, ⟨⟩, ⟨⟩, rfl⟩
        rfl

/-- A move succeeds if nothing blocks the target once the source was taken. -/
theorem renameField_eq_ok_iff (hdistinct : (Value.object fields).Distinct)
    {source target : FieldPath} {value after : Value}
    (hvalue : (Value.object fields).lookup source = some value) :
    renameField source target (.object fields) = .ok () after ↔
      (Value.object (fields.perform ⟨source, none⟩)).checkAssign target = .ok () ∧
        after = .object (moved source target value fields) := by
  rw [renameField_object hdistinct, hvalue]
  dsimp only
  cases (Value.object (fields.perform ⟨source, none⟩)).checkAssign target with
  | error _ => exact ⟨nofun, nofun⟩
  | ok _ =>
    constructor
    · rintro ⟨⟩
      exact ⟨rfl, rfl⟩
    · rintro ⟨-, rfl⟩
      rfl

theorem take_object_eq_some_iff {source : FieldPath} {value remainder : Value} :
    (Value.object fields).take source = .ok (some value, remainder) ↔
      (Value.object fields).lookup source = some value ∧
        remainder = .object (fields.perform ⟨source, none⟩) := by
  constructor
  · intro h
    cases hvalue : (Value.object fields).lookup source with
    | none =>
      rw [take_of_lookup_eq_none hvalue] at h
      cases h
    | some found =>
      rw [take_of_lookup hvalue] at h
      cases h
      exact ⟨rfl, rfl⟩
  · rintro ⟨hvalue, rfl⟩
    exact take_of_lookup hvalue

/-- A payload that is no object is left as it was. -/
theorem renameField_of_kind {payload : Value} (h : payload.kind ≠ .object)
    (source target : FieldPath) :
    renameField source target payload = .error (.expectedObject payload.kind) payload := by
  cases payload with
  | object fields => exact absurd rfl h
  | _ => rfl

theorem take_ne_ok {payload : Value} (h : payload.kind ≠ .object) {source : FieldPath}
    (taken : Option Value × Value) : payload.take source ≠ .ok taken := by
  cases payload with
  | object fields => exact absurd rfl h
  | _ => intro htake; cases htake

/-- A move takes what is at the source and grafts it at the target. -/
theorem view_moved (hdistinct : (Value.object fields).Distinct) (source target : FieldPath)
    (value : Value) :
    (Value.object (moved source target value fields)).view
      = View.graft target value.view
          (View.graft source (fun _ => none) (Value.object fields).view) := by
  rw [moved, Fields.view_perform (distinct_taken hdistinct source), Fields.view_perform hdistinct]
  rfl

theorem distinct_moved (hdistinct : (Value.object fields).Distinct) {source : FieldPath}
    {value : Value} (hvalue : (Value.object fields).lookup source = some value)
    (target : FieldPath) :
    (Value.object (moved source target value fields)).Distinct := by
  have hheld := Fields.distinct_of_lookupAll hdistinct hvalue
  exact Fields.distinct_perform (distinct_taken hdistinct source) (Write.distinct_some hheld target)

/-- A value that is put back makes the payload what it was, but for an order of fields. -/
theorem reordered_moved_back (hdistinct : (Value.object fields).Distinct) {source : FieldPath}
    {value : Value} (hvalue : (Value.object fields).lookup source = some value) :
    (Value.object fields).Reordered (.object (moved source source value fields)) := by
  rw [Value.Reordered, view_moved hdistinct, View.graft_graft, Value.graft_lookup source hvalue]

/-! ## Failing moves -/

/-- **A move that fails loses nothing.** It fails for a payload that is no object, or with what the
check says of the target once the value is taken out, and only then. The payload is then what it
was, but for the order of fields in the object that holds the end of the source. Setting the value
back never fails, nor does setting the target where the check allows it. Where there is no value,
nothing happens. -/
theorem renameField_loses_nothing {payload : Value} (hdistinct : payload.Distinct)
    (source target : FieldPath) :
    (∀ failure, (∃ after, renameField source target payload = .error failure after) ↔
      payload.kind ≠ .object ∧ failure = .expectedObject payload.kind ∨
        ∃ value remainder, payload.take source = .ok (some value, remainder) ∧
          remainder.checkAssign target = .error failure) ∧
    (∀ failure after, renameField source target payload = .error failure after →
      payload.Reordered after ∧ Value.SameOrderBut source.segments.dropLast payload after ∧
        (payload.kind ≠ .object → after = payload)) ∧
    (∀ value remainder, payload.take source = .ok (some value, remainder) →
      (∃ restored, setField source value remainder = .ok () restored) ∧
        (remainder.checkAssign target = .ok () →
          ∃ moved, setField target value remainder = .ok () moved)) ∧
    (payload.kind = .object → payload.lookup source = none →
      renameField source target payload = .ok () payload) := by
  by_cases hkind : payload.kind = .object
  · cases payload with
    | object fields =>
      refine ⟨fun failure => ⟨?_, ?_⟩, ?_, ?_, fun _ hnone => ?_⟩
      · rintro ⟨after, h⟩
        obtain ⟨value, hvalue, hcheck, -⟩ := (renameField_eq_error_iff hdistinct).mp h
        exact .inr ⟨value, _, take_object_eq_some_iff.mpr ⟨hvalue, rfl⟩, hcheck⟩
      · rintro (⟨hne, -⟩ | ⟨value, remainder, htake, hcheck⟩)
        · exact absurd hkind hne
        · obtain ⟨hvalue, rfl⟩ := take_object_eq_some_iff.mp htake
          exact ⟨_, (renameField_eq_error_iff hdistinct).mpr ⟨value, hvalue, hcheck, rfl⟩⟩
      · intro failure after h
        obtain ⟨value, hvalue, -, rfl⟩ := (renameField_eq_error_iff hdistinct).mp h
        exact ⟨reordered_moved_back hdistinct hvalue, Fields.order_restore hdistinct hvalue,
          absurd hkind⟩
      · intro value remainder htake
        obtain ⟨hvalue, rfl⟩ := take_object_eq_some_iff.mp htake
        exact ⟨⟨_, setField_taken hdistinct source value⟩,
          fun hcheck => ⟨_, setField_of_checkAssign hcheck value⟩⟩
      · rw [renameField_object hdistinct, hnone]
    | _ => cases hkind
  · rw [renameField_of_kind hkind]
    refine ⟨fun failure => ⟨?_, ?_⟩, ?_, fun value remainder htake => ?_,
      fun h => absurd h hkind⟩
    · rintro ⟨after, ⟨⟩⟩
      exact .inl ⟨hkind, rfl⟩
    · rintro (⟨-, rfl⟩ | ⟨value, remainder, htake, -⟩)
      · exact ⟨payload, rfl⟩
      · exact absurd htake (take_ne_ok hkind _)
    · rintro failure after ⟨⟩
      exact ⟨Value.Reordered.refl _, fun _ _ => rfl, fun _ => rfl⟩
    · exact absurd htake (take_ne_ok hkind _)

/-- A payload with a note in an object, and a label beside it. -/
def labelled : Value :=
  .object [("home", .object [("note", .text "keep"), ("floor", .null), ("rooms", .array [])]),
    ("label", .text "scalar")]

theorem distinct_labelled : labelled.Distinct := by
  simp [labelled, Value.Distinct, Value.DistinctFields, Value.DistinctItems, Fields.names]

/-- A move to a place behind a text fails, and the value is back at its source. -/
theorem renameField_loses_nothing_labelled :
    labelled.Distinct ∧
    ∃ after, renameField (.ofText "home.note") (.ofText "label.text") labelled
        = .error (.blocked "label.text" "label") after ∧
      labelled.Reordered after ∧
      (after.lookupAll []).bind (·.fields?.map Fields.names) = some ["home", "label"] := by
  obtain ⟨-, hkept, -⟩ :=
    renameField_loses_nothing distinct_labelled (.ofText "home.note") (.ofText "label.text")
  obtain ⟨hreordered, horder, -⟩ := hkept (.blocked "label.text" "label") _ rfl
  exact ⟨distinct_labelled, _, rfl, hreordered, (horder [] (by decide)).trans rfl⟩

/-! ## Moves that succeed -/

/-- After a move the value is at the target. -/
theorem lookup_moved_target (hdistinct : (Value.object fields).Distinct) (source target : FieldPath)
    (value : Value) :
    (Value.object (moved source target value fields)).lookup target = some value :=
  Value.lookup_settle_self target (some value) (distinct_taken hdistinct source)

/-- The source is empty after a move to somewhere else. -/
theorem lookup_moved_source (hdistinct : (Value.object fields).Distinct) {source target : FieldPath}
    (hparted : source.Incomparable target) (value : Value) :
    (Value.object (moved source target value fields)).lookup source = none :=
  (Value.sameElsewhere_settle target (some value) (distinct_taken hdistinct source) source
    hparted.symm).trans (Value.lookup_settle_self source none hdistinct)

/-- Places apart from both keep what they held. -/
theorem lookup_moved_other (hdistinct : (Value.object fields).Distinct)
    {source target other : FieldPath} (hsource : source.Incomparable other)
    (htarget : target.Incomparable other) (value : Value) :
    (Value.object (moved source target value fields)).lookup other =
      (Value.object fields).lookup other :=
  (Value.sameElsewhere_settle target (some value) (distinct_taken hdistinct source) other
    htarget).trans (Value.sameElsewhere_settle source none hdistinct other hsource)

/-- A value that was moved to a place where there was none can be moved back, and nothing shows. -/
theorem exists_moved_back (hdistinct : (Value.object fields).Distinct) {source target : FieldPath}
    (hparted : source.Incomparable target) {value : Value}
    (hvalue : (Value.object fields).lookup source = some value)
    (htarget : (Value.object fields).lookup target = none) {inner : Fields}
    (hparent : (Value.object fields).lookupAll target.segments.dropLast = some (.object inner)) :
    ∃ back, renameField target source (.object (moved source target value fields)) =
      .ok () back ∧
      (Value.object fields).Reordered back := by
  have hmoved := distinct_moved hdistinct hvalue target
  have hthere := lookup_moved_target hdistinct source target value
  -- Taking the value out again leaves what taking it out of the source left.
  have htaken : (Value.object ((moved source target value fields).perform ⟨target, none⟩)).view
      = View.graft source (fun _ => none) (Value.object fields).view := by
    rw [Fields.view_perform hmoved, view_moved hdistinct]
    show View.graft target (fun _ => none) _ = _
    rw [View.graft_graft, View.graft_comm hparted.symm,
      Value.graft_none_of_lookup target htarget hparent]
  have hcheck :
    (Value.object ((moved source target value fields).perform ⟨target, none⟩)).checkAssign
      source = .ok () := by
    rw [Value.checkAssign_eq_ok_iff, htaken]
    exact View.clear_graft_self _ _ _
  refine ⟨_, (renameField_eq_ok_iff hmoved hthere).mpr ⟨hcheck, rfl⟩, ?_⟩
  rw [Value.Reordered, moved, Fields.view_perform (distinct_taken hmoved target), htaken]
  show _ = View.graft source value.view _
  rw [View.graft_graft, Value.graft_lookup source hvalue]

/-- **A move that succeeds moves one value.** The target then holds what the source held, also where
one of them leads through the other. If they part, the source holds nothing any more; paths that
part from both find what they found before. Moving a value to where it is changes at most the order
of fields. If the paths part, and the target held nothing within an object that was there, moving
the value back succeeds and restores the payload but for that order. -/
theorem renameField_moves_value {payload after value : Value} (hdistinct : payload.Distinct)
    {source target : FieldPath} (hvalue : payload.lookup source = some value)
    (h : renameField source target payload = .ok () after) :
    after.lookup target = some value ∧
    (source.Incomparable target → after.lookup source = none) ∧
    (∀ other : FieldPath, source.Incomparable other → target.Incomparable other →
      after.lookup other = payload.lookup other) ∧
    (source = target → payload.Reordered after) ∧
    (source.Incomparable target → payload.lookup target = none →
      (∃ inner, payload.lookupAll target.segments.dropLast = some (.object inner)) →
        ∃ back, renameField target source after = .ok () back ∧ payload.Reordered back) := by
  cases payload with
  | object fields =>
    obtain ⟨-, rfl⟩ := (renameField_eq_ok_iff hdistinct hvalue).mp h
    refine ⟨lookup_moved_target hdistinct source target value,
      fun hparted => lookup_moved_source hdistinct hparted value,
      fun other hsource htarget => lookup_moved_other hdistinct hsource htarget value, ?_, ?_⟩
    · rintro rfl
      exact reordered_moved_back hdistinct hvalue
    · rintro hparted htarget ⟨inner, hparent⟩
      exact exists_moved_back hdistinct hparted hvalue htarget hparent
  | _ => cases hvalue

/-- A note becomes a title, and a note again. -/
theorem renameField_moves_value_labelled :
    labelled.Distinct ∧ labelled.lookup (.ofText "home.note") = some (.text "keep") ∧
    ∃ after, renameField (.ofText "home.note") (.ofText "home.title") labelled = .ok () after ∧
      after.lookup (.ofText "home.title") = some (.text "keep") ∧
      after.lookup (.ofText "home.note") = none ∧
      after.lookup (.ofText "home.floor") = some .null ∧
      ∃ back, renameField (.ofText "home.title") (.ofText "home.note") after = .ok () back ∧
        labelled.Reordered back := by
  have hvalue : labelled.lookup (.ofText "home.note") = some (.text "keep") := rfl
  have hmoved : renameField (.ofText "home.note") (.ofText "home.title") labelled = .ok () _ := rfl
  have hparted : (FieldPath.ofText "home.note").Incomparable (.ofText "home.title") := by decide
  obtain ⟨htarget, hsource, hother, -, hback⟩ :=
    renameField_moves_value distinct_labelled hvalue hmoved
  have hfloor := (hother (.ofText "home.floor") (by decide) (by decide)).trans rfl
  exact ⟨distinct_labelled, hvalue, _, hmoved, htarget, hsource hparted, hfloor,
    hback hparted rfl ⟨_, rfl⟩⟩

end

end Builtin.Change

end DecisionFlow
