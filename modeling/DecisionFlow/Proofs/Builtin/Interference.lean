import DecisionFlow.Proofs.Builtin.Mentioned
import DecisionFlow.Proofs.Document.RoundTrip
import DecisionFlow.Proofs.Payload.Confined
import DecisionFlow.Proofs.Payload.Paths

/-!
# Flows do not see the keys that they do not mention

The built-in tests and changes look at nothing but the fields that they name. A flow of them is
therefore confined to the keys that it mentions: what else is in a payload neither decides what a
run does nor is changed by it, also when the run fails midway.

- `Builtin.Test.steady_predicate`: a test reads the keys of its fields.
- `Builtin.Change.confined_apply`: a change is confined to the keys of its fields.
- `Flow.confined_runTraced`: a flow of built-in nodes is confined to the keys that it mentions.
- `Flow.runTraced_noninterference`: the same in terms of two payloads and what becomes of their
  fields.
-/

namespace DecisionFlow

variable {keys : List String}

/-! ## Readings -/

/-- What is found at a path is told by the key that the path begins with. -/
theorem steady_lookup {path : FieldPath} (hpath : path.first ∈ keys) :
    Steady keys fun payload => payload.lookup path := by
  rintro _ _ ⟨-, -, hagree⟩
  show Value.lookup _ path = Value.lookup _ path
  rw [Value.lookup_object, Value.lookup_object, hagree path.first hpath]

/-- So is whether a value can be set there. -/
theorem steady_checkAssign {path : FieldPath} (hpath : path.first ∈ keys) :
    Steady keys fun payload => payload.checkAssign path := by
  rintro _ _ ⟨-, -, hagree⟩
  exact Value.checkAssign_congr (hagree path.first hpath)

namespace Builtin

/-- A test that does not count fields turns on the values of its own fields. -/
theorem Test.holds_congr {t : Test} (hcounts : ∀ size, t ≠ .sizeEquals size) {p p' : Value}
    (h : ∀ path ∈ t.paths, p.lookup path = p'.lookup path) : t.holds p = t.holds p' := by
  cases t with
  | sizeEquals size => exact absurd rfl (hcounts size)
  | always value => rfl
  | fieldExists field => rw [holds, holds, h field (by simp [paths])]
  | fieldEquals field value => rw [holds, holds, h field (by simp [paths])]
  | fieldGreaterThan field bound => rw [holds, holds, numberAt, numberAt, h field (by simp [paths])]
  | fieldLessThan field bound => rw [holds, holds, numberAt, numberAt, h field (by simp [paths])]
  | fieldContains field part => rw [holds, holds, textAt, textAt, h field (by simp [paths])]
  | fieldMatches field pattern => rw [holds, holds, textAt, textAt, h field (by simp [paths])]

/-- **A test reads the keys of its fields.** -/
theorem Test.steady_predicate {t : Test} (h : t.Within keys) : Steady keys t.predicate := by
  intro p p' halike
  have hfields : ∀ path ∈ t.paths, p.lookup path = p'.lookup path :=
    fun path hpath => steady_lookup (h.paths path hpath) halike
  rw [predicate, predicate, Test.holds_congr h.counts hfields]

/-! ## Changes as attempts -/

namespace Change

/-- Takes a value out of a payload. -/
def taken (path : FieldPath) : EStateM Failure Value (Option Value) :=
  attempted fun payload => payload.take path

/-- Sets the target of a move, or puts the value back if the target was refused. -/
def settled (source target : FieldPath) (value : Value) : Except Failure Unit → Consumer Value
  | .ok () => setField target value
  | .error failure => andThen (setField source value) fun _ payload => .error failure payload

/-- Removing a field is taking its value and forgetting it. -/
theorem removeField_eq_viewed (field : FieldPath) :
    removeField field = viewed (fun _ => ()) (taken field) := by
  funext payload
  rw [removeField, viewed, taken, attempted]
  cases payload.take field with
  | error failure => rfl
  | ok result => rfl

/-- Where there is nothing to take out, the payload stays as it is. -/
theorem eq_of_take_eq_none {payload remainder : Value} {path : FieldPath}
    (h : payload.take path = .ok (none, remainder)) : remainder = payload := by
  cases payload with
  | object fields =>
    rw [Value.take_object] at h
    cases hheld : Value.takeHeld path.rest (Fields.get? fields path.first) with
    | none =>
      rw [hheld] at h
      cases h
      rfl
    | some result =>
      rw [hheld] at h
      cases h
  | _ => cases h

/-- A move takes the value out, and then does what the target allows. -/
theorem renameField_eq_andThen (source target : FieldPath) :
    renameField source target = andThen (taken source) fun held => held.elim Consumer.skip
      fun value payload => settled source target value (payload.checkAssign target) payload := by
  funext payload
  rw [renameField, andThen, taken, attempted]
  cases htake : payload.take source with
  | error failure => rfl
  | ok result =>
    obtain ⟨held, remainder⟩ := result
    cases held with
    | none => rw [eq_of_take_eq_none htake]; rfl
    | some value =>
      simp only [Option.elim]
      cases remainder.checkAssign target with
      | ok _ => rfl
      | error failure =>
        simp only [settled, andThen]
        cases setField source value remainder <;> rfl

/-- What a change of texts does to a value. -/
def onText (f : String → String) : Value → Value
  | .text s => .text (f s)
  | other => other

theorem mapText_eq_attempted (f : String → String) (field : FieldPath) :
    mapText f field = attempted fun payload => payload.requireObject.map fun _ =>
      ((), (payload.modify? field (onText f)).getD payload) := by
  have honText : (fun value : Value => match value with
      | .text s => .text (f s)
      | other => other) = onText f := by
    funext value
    cases value <;> rfl
  funext payload
  rw [← honText, mapText, attempted]
  cases payload <;> rfl

/-- Setting a field is an attempt that changes nothing if it fails. -/
theorem setField_eq_attempted (field : FieldPath) (value : Value) :
    setField field value
      = attempted fun payload => (payload.assign field value).map fun changed => ((), changed) := by
  funext payload
  rw [setField, attempted, Value.assignInPlace_eq_assign]
  cases payload.assign field value <;> rfl

/-! ## Changes are confined -/

theorem confined_mapText (f : String → String) {field : FieldPath}
    (hfield : field.first ∈ keys) : Confined keys (mapText f field) := by
  rw [mapText_eq_attempted]
  refine confined_attempted hfield
    (fun held => .ok ((), (Value.modifyHeld (onText f) field.rest held).or held)) fun fields => ?_
  rw [Value.modify?_object, atKey]
  cases Value.modifyHeld (onText f) field.rest (fields.get? field.first) with
  | none =>
    -- The path leads nowhere, and what is held is put back.
    rw [Option.none_or, Except.map, Fields.put_get?_self]
    rfl
  | some value => rfl

theorem confined_setField {field : FieldPath} (hfield : field.first ∈ keys) (value : Value) :
    Confined keys (setField field value) := by
  rw [setField_eq_attempted]
  refine confined_attempted hfield
    (fun held => ((Value.assignHeld value field.first field.rest held).map fun changed =>
      ((), some changed)).mapError (.blocked field.text)) fun fields => ?_
  rw [Value.assign_object, atKey]
  cases Value.assignHeld value field.first field.rest (fields.get? field.first) <;> rfl

/-- Taking a value is confined to the key that its path begins with. -/
theorem confined_taken {field : FieldPath} (hfield : field.first ∈ keys) :
    Confined keys (taken field) := by
  refine confined_attempted hfield
    (fun held => .ok ((Value.takeHeld field.rest held).elim (none, held) fun taken =>
      (some taken.1, taken.2))) fun fields => ?_
  rw [Value.take_object, atKey]
  cases Value.takeHeld field.rest (fields.get? field.first) with
  | none =>
    rw [Option.elim_none, Option.elim_none, Except.map, Fields.put_get?_self]
  | some taken => rfl

theorem confined_settled {source target : FieldPath} (hsource : source.first ∈ keys)
    (htarget : target.first ∈ keys) (value : Value) (checked : Except Failure Unit) :
    Confined keys (settled source target value checked) := by
  cases checked with
  | ok _ => exact confined_setField htarget value
  | error failure => exact (confined_setField hsource value).andThen fun _ => .throw failure

/-- A move is confined to the keys of both paths. -/
theorem confined_renameField {source target : FieldPath} (hsource : source.first ∈ keys)
    (htarget : target.first ∈ keys) : Confined keys (renameField source target) := by
  rw [renameField_eq_andThen]
  refine (confined_taken hsource).andThen fun held => ?_
  cases held with
  | none => exact Confined.pure ()
  | some value =>
    -- The target is asked for on what is left without the value, which agrees again.
    have hsettled :=
      Confined.read (steady_checkAssign htarget) (confined_settled hsource htarget value)
    exact hsettled

/-- **A change is confined to the keys of its fields.** -/
theorem confined_apply {c : Change} (h : c.Within keys) : Confined keys c.apply := by
  cases c with
  | uppercase field => exact confined_mapText _ (h field (by simp [paths]))
  | lowercase field => exact confined_mapText _ (h field (by simp [paths]))
  | trim field => exact confined_mapText _ (h field (by simp [paths]))
  | append field suffix => exact confined_mapText _ (h field (by simp [paths]))
  | set field value => exact confined_setField (h field (by simp [paths])) value
  | remove field =>
    rw [apply, removeField_eq_viewed]
    exact (confined_taken (h field (by simp [paths]))).viewed _
  | rename source target =>
    exact confined_renameField (h source (by simp [paths])) (h target (by simp [paths]))

end Change

end Builtin

/-! ## Flows -/

/-- A flow whose conditions and consumers are of built-in types, none of which counts fields. -/
structure Flow.OfBuiltins (flow : Flow Value) : Prop where
  predicates : ∀ node ∈ flow.predicates,
    Builtin.conditions.Supplies node ∧ node.kind ≠ "size_equals"
  consumers : ∀ node ∈ flow.consumers, Builtin.consumers.Supplies node

/-- What is read with the built-in types is a flow of built-in nodes, whatever the settings. -/
theorem Flow.ofBuiltins_of_read {settings : Settings} {document : Value} {flow : Flow Value}
    (h : Engine.read { Builtin.engine with settings } document = .ok flow)
    (hkinds : ∀ node ∈ flow.predicates, node.kind ≠ "size_equals") : flow.OfBuiltins := by
  obtain ⟨hfits, -⟩ := Document.fitsBody_of_readBody (Engine.read_eq_ok_iff.mp h)
  refine ⟨fun node hnode => ⟨?_, hkinds node hnode⟩, fun node hnode => ?_⟩
  · exact ⟨node, (hfits.predicate node hnode).1, fun _ => rfl⟩
  · exact ⟨node, (hfits.consumer node hnode).1, fun _ => rfl⟩

/-- **A flow of built-in nodes is confined to the keys that it mentions.** -/
theorem Flow.confined_runTraced {flow : Flow Value} (h : flow.OfBuiltins) :
    Confined flow.mentioned flow.runTraced := by
  refine Step.confined_runBodyTraced flow.root [] ?_ ?_
  · intro node hnode
    obtain ⟨hsupplies, hkind⟩ := h.predicates node hnode
    obtain ⟨t, hwithin, hbehaviour⟩ :=
      Builtin.exists_test_of_build (Registry.build_of_supplies hsupplies)
    rw [← hbehaviour]
    exact Builtin.Test.steady_predicate ((hwithin hkind).mono (Flow.mentioned_of_predicate hnode))
  · intro node hnode
    obtain ⟨c, ⟨hwithin, -⟩, hbehaviour⟩ :=
      Builtin.exists_change_of_build (Registry.build_of_supplies (h.consumers node hnode))
    rw [← hbehaviour]
    exact Builtin.Change.confined_apply (hwithin.mono (Flow.mentioned_of_consumer hnode))

/-- What a run came to: what it yields, or why it failed. -/
def Consumer.ending {T A : Type} : EStateM.Result Failure T A → Except Failure A
  | .ok a _ => .ok a
  | .error failure _ => .error failure

/-- **A flow of built-in nodes does not see the keys that it does not mention.** Take two payloads
that agree on the keys that are mentioned: both lack a key, or both hold the same value under it.
The runs take the same decisions and succeed alike, or fail with the same failure. Either way, the
payloads that they leave agree on the mentioned keys again, and each run leaves every other key as
it was: no value changes, and none appears or is lost. -/
theorem Flow.runTraced_noninterference {flow : Flow Value} (h : flow.OfBuiltins)
    {fields fields' : Fields} (hnames : (Fields.names fields).Nodup)
    (hnames' : (Fields.names fields').Nodup)
    (hagree : ∀ key ∈ flow.mentioned, fields.get? key = fields'.get? key) :
    Consumer.ending (flow.runTraced (.object fields))
        = Consumer.ending (flow.runTraced (.object fields')) ∧
      ∃ after after' : Fields,
        Consumer.payloadAfter (flow.runTraced (.object fields)) = .object after ∧
        Consumer.payloadAfter (flow.runTraced (.object fields')) = .object after' ∧
        (∀ key ∈ flow.mentioned, after.get? key = after'.get? key) ∧
        ∀ key, key ∉ flow.mentioned →
          after.get? key = fields.get? key ∧ after'.get? key = fields'.get? key := by
  have hruns := Flow.confined_runTraced h (.intro hnames hnames' hagree)
  have hmoves : ∀ {q q' : Value}, Moves flow.mentioned (.object fields) (.object fields') q q' →
      ∃ after after' : Fields, q = .object after ∧ q' = .object after' ∧
        (∀ key ∈ flow.mentioned, after.get? key = after'.get? key) ∧
        ∀ key, key ∉ flow.mentioned →
          after.get? key = fields.get? key ∧ after'.get? key = fields'.get? key := by
    rintro q q' ⟨⟨-, -, hafter⟩, ⟨hkept⟩, ⟨hkept'⟩⟩
    exact ⟨_, _, rfl, rfl, hafter, fun key hkey => ⟨hkept key hkey, hkept' key hkey⟩⟩
  revert hruns
  generalize flow.runTraced (.object fields) = r, flow.runTraced (.object fields') = r'
  intro hruns
  cases hruns with
  | ok trace moves => exact ⟨rfl, hmoves moves⟩
  | error failure moves => exact ⟨rfl, hmoves moves⟩

open Builtin in
/-- A flow that moves a name to a title, and then takes the title for an object. -/
def Flow.misnamed : Flow Value := ⟨some (.sequence [
  .branch false
    (.predicate ⟨"field_exists", [("field", .text "user.name")],
      (Test.fieldExists ⟨"user", ["name"]⟩).predicate⟩)
    (some (.consumer ⟨"rename", [("from", .text "user.name"), ("to", .text "title")],
      (Change.rename ⟨"user", ["name"]⟩ ⟨"title", []⟩).apply⟩))
    none,
  .consumer ⟨"set", [("field", .text "title.text")],
    (Change.set ⟨"title", ["text"]⟩ .null).apply⟩])⟩

/-- The flow is one of built-in nodes, whatever these are called. -/
theorem Flow.ofBuiltins_misnamed : Flow.misnamed.OfBuiltins where
  predicates node hnode := by
    obtain rfl : node = _ := List.mem_singleton.mp hnode
    exact ⟨⟨_, rfl, fun _ => rfl⟩, by decide⟩
  consumers node hnode := by
    obtain rfl | hnode := List.mem_cons.mp hnode
    · exact ⟨_, rfl, fun _ => rfl⟩
    · obtain rfl : node = _ := List.mem_singleton.mp hnode
      exact ⟨_, rfl, fun _ => rfl⟩

/-- Both runs of this flow fail midway, after the name has been moved. Neither loses or touches what
it does not mention. -/
theorem Flow.runTraced_misnamed :
    ∃ after after' : Fields,
      Flow.misnamed.runTraced (.object [("user", .object [("name", .text "Ada")]), ("id", .null)])
        = .error (.blocked "title.text" "title") (.object after) ∧
      Flow.misnamed.runTraced
        (.object [("tags", .array []), ("user", .object [("name", .text "Ada")])])
        = .error (.blocked "title.text" "title") (.object after') ∧
      after.get? "title" = after'.get? "title" ∧
      after.get? "id" = some .null ∧ after'.get? "tags" = some (.array []) := by
  have hrun : Flow.misnamed.runTraced
      (.object [("user", .object [("name", .text "Ada")]), ("id", .null)])
        = .error (.blocked "title.text" "title")
            (.object [("user", .object []), ("id", .null), ("title", .text "Ada")]) := rfl
  have hrun' : Flow.misnamed.runTraced
      (.object [("tags", .array []), ("user", .object [("name", .text "Ada")])])
        = .error (.blocked "title.text" "title")
            (.object [("tags", .array []), ("user", .object []), ("title", .text "Ada")]) := rfl
  have hagree : ∀ key ∈ Flow.misnamed.mentioned,
      Fields.get? [("user", .object [("name", .text "Ada")]), ("id", .null)] key
        = Fields.get? [("tags", .array []), ("user", .object [("name", .text "Ada")])] key := by
    intro key hkey
    have hkeys : key ∈ ["user", "user", "title", "title"] := hkey
    simp only [List.mem_cons, List.not_mem_nil, or_false] at hkeys
    obtain rfl | rfl | rfl | rfl := hkeys <;> rfl
  obtain ⟨-, after, after', hafter, hafter', hmentioned, hothers⟩ :=
    Flow.runTraced_noninterference Flow.ofBuiltins_misnamed (by decide) (by decide) hagree
  rw [hrun, Consumer.payloadAfter] at hafter
  rw [hrun', Consumer.payloadAfter] at hafter'
  rw [hrun, hrun', hafter, hafter']
  have hid := (hothers "id" (by decide)).1
  have htags := (hothers "tags" (by decide)).2
  exact ⟨after, after', rfl, rfl, hmentioned "title" (by decide), hid, htags⟩

end DecisionFlow
