import DecisionFlow.Proofs.Json.Repeats
import DecisionFlow.Proofs.Payload.Assigning

/-!
# A payload is a store

Dotted paths address a payload as names address the cells of a store: what is written at a path is
what is then read there, and paths that lead elsewhere read what they read before.

- `FieldPath.segments_ofText`: a text is a path of the parts between its dots.
- `Fields.settle`: **what writing at a path comes to**, whether it sets, changes or removes a value.
  One value or none is left at the end of the path, and the objects on the way hold the same
  otherwise.
- `Fields.lookupAll_settle_self`, `Fields.lookupAll_settle_other`: what is then read.
- `Fields.order_settle`: fields that were there before keep their places.
- `Fields.assignAt_eq_settle`, `Fields.modifyAt_eq_settle`, `Fields.takeAt_eq_settle`: the functions
  on fields, when they succeed and what they come to.
- `Value.store_laws`: **the laws of a store**, for payloads.
-/

namespace DecisionFlow

/-! ## Texts as paths -/

namespace FieldPath

theorem cons_split (chars : List Char) :
    (split chars).1 :: (split chars).2 = chars.splitOn '.' := by
  induction chars with
  | nil => rfl
  | cons c chars ih =>
    rw [List.splitOn, List.splitOnP_cons_eq_if_modifyHead, ← List.splitOn, ← ih]
    by_cases hc : c = '.'
    · simp [split, hc]
    · simp [split, hc]

/-- The segments are what stands between the dots, whether or not it is empty. -/
theorem segments_ofText (s : String) :
    (ofText s).segments = (s.toList.splitOn '.').map String.ofList := by
  rw [← cons_split, List.map_cons]
  rfl

theorem text_ofText (s : String) : (ofText s).text = s := by
  have hparts : ((s.toList.splitOn '.').map String.ofList).map String.toList =
      s.toList.splitOn '.' := by
    rw [List.map_map]
    exact List.map_id'' (fun _ => String.toList_ofList) _
  rw [text, segments_ofText, ← String.toList_inj, String.toList_intercalate, hparts]
  exact List.intercalate_splitOn '.'

end FieldPath

namespace Fields

variable {fields : Fields} {name : String} {rest : List String}

/-! ## Inside an object -/

/-- The fields of the object that is held; none if nothing or something else is held. -/
def inside (held : Option Value) : Fields := (held.bind Value.fields?).getD []

/-- A way into an object goes through the field that it begins with. -/
theorem lookupAll_object (fields : Fields) (name : String) (rest : List String) :
    (Value.object fields).lookupAll (name :: rest)
      = (fields.get? name).bind (·.lookupAll rest) := by
  rw [Value.lookupAll]

/-- A path that goes on leads through the fields of an object, or nowhere. -/
theorem lookupAll_inside (held : Option Value) (name : String) (rest : List String) :
    held.bind (·.lookupAll (name :: rest)) =
      (Value.object (inside held)).lookupAll (name :: rest) := by
  have hnone : (Value.object []).lookupAll (name :: rest) = none := by
    rw [lookupAll_object, get?_nil, Option.bind_none]
  cases held with
  | none => exact hnone.symm
  | some value =>
    cases value with
    | object inner => rfl
    | _ => exact hnone.symm

theorem distinct_inside (h : (Value.object fields).Distinct) (name : String) :
    (Value.object (inside (fields.get? name))).Distinct := by
  have hempty : (Value.object []).Distinct :=
    Value.distinct_object_iff.mpr ⟨List.nodup_nil, List.forall_mem_nil _⟩
  cases hheld : fields.get? name with
  | none => exact hempty
  | some value =>
    have hvalue := (Value.distinct_object_iff.mp h).2 _ (mem_of_get?_eq_some hheld)
    cases value with
    | object inner => exact hvalue
    | _ => exact hempty

/-- What is found in a value that repeats no field does not either. -/
theorem distinct_of_lookupAll {v w : Value} {segments : List String} (hv : v.Distinct)
    (h : v.lookupAll segments = some w) : w.Distinct := by
  induction segments generalizing v with
  | nil =>
    rw [Value.lookupAll, Option.some.injEq] at h
    exact h ▸ hv
  | cons name rest ih =>
    cases v with
    | object fields =>
      rw [lookupAll_object] at h
      obtain ⟨held, hheld, hrest⟩ := Option.bind_eq_some_iff.mp h
      exact ih ((Value.distinct_object_iff.mp hv).2 _ (mem_of_get?_eq_some hheld)) hrest
    | _ => cases h

/-! ## Writing at the end of a path -/

/-- The fields once the end of a path has what is `left` there, a value or none. -/
def settle (left : Option Value) : String → List String → Fields → Fields
  | name, [], fields => fields.put name left
  | name, next :: rest, fields =>
    fields.insert name (.object (settle left next rest (inside (fields.get? name))))

theorem distinct_put (h : (Value.object fields).Distinct) {left : Option Value}
    (hleft : ∀ value ∈ left, value.Distinct) :
    (Value.object (fields.put name left)).Distinct := by
  obtain ⟨hnames, hvalues⟩ := Value.distinct_object_iff.mp h
  have hput : (names (fields.put name left)).Nodup := nodup_names_put hnames left
  refine Value.distinct_object_iff.mpr ⟨hput, fun field hfield => ?_⟩
  have hheld := get?_eq_some_of_mem hput (show (field.1, field.2) ∈ _ from hfield)
  rw [get?_put hnames] at hheld
  by_cases hname : name = field.1
  · rw [if_pos hname] at hheld
    exact hleft _ hheld
  · rw [if_neg hname] at hheld
    exact hvalues _ (mem_of_get?_eq_some hheld)

/-- Writing in a payload repeats no field. -/
theorem distinct_settle (h : (Value.object fields).Distinct) {left : Option Value}
    (hleft : ∀ value ∈ left, value.Distinct) :
    (Value.object (fields.settle left name rest)).Distinct := by
  induction rest generalizing name fields with
  | nil => exact distinct_put h hleft
  | cons next rest ih =>
    have hinner : (Value.object (settle left next rest (inside (fields.get? name)))).Distinct :=
      ih (distinct_inside h name)
    show (Value.object (fields.put name (some _))).Distinct
    refine distinct_put h fun value hvalue => ?_
    obtain rfl := Option.mem_some.mp hvalue
    exact hinner

/-- What is left at the end of the path is what is found there. -/
theorem lookupAll_settle_self (left : Option Value) (hdistinct : (Value.object fields).Distinct) :
    (Value.object (fields.settle left name rest)).lookupAll (name :: rest) = left := by
  induction rest generalizing name fields with
  | nil =>
    have hnames := (Value.distinct_object_iff.mp hdistinct).1
    rw [lookupAll_object, settle, get?_put hnames, if_pos rfl]
    cases left with
    | none => rfl
    | some value => rw [Option.bind_some, Value.lookupAll]
  | cons next rest ih =>
    rw [lookupAll_object, settle, get?_insert_self, Option.bind_some]
    exact ih (distinct_inside hdistinct name)

/-- Only what is held under the first segment is another afterwards. -/
theorem get?_settle_of_ne (left : Option Value) (hdistinct : (Value.object fields).Distinct)
    {key : String} (hkey : name ≠ key) :
    (fields.settle left name rest).get? key = fields.get? key := by
  cases rest with
  | nil =>
    have hnames := (Value.distinct_object_iff.mp hdistinct).1
    rw [settle, get?_put hnames, if_neg hkey]
  | cons next rest => rw [settle, get?_insert_of_ne _ _ hkey]

/-- Segments that lead elsewhere find what they found before. -/
theorem lookupAll_settle_other (left : Option Value) (hdistinct : (Value.object fields).Distinct)
    {other : List String} (hpath : ¬ name :: rest <+: other) (hother : ¬ other <+: name :: rest) :
    (Value.object (fields.settle left name rest)).lookupAll other
      = (Value.object fields).lookupAll other := by
  induction other generalizing name rest fields with
  | nil => exact absurd List.nil_prefix hother
  | cons key others ih =>
    rw [lookupAll_object, lookupAll_object]
    by_cases hkey : name = key
    · subst hkey
      rw [List.prefix_cons_inj] at hpath hother
      -- The paths part further on, so neither of them ends here.
      cases rest with
      | nil => exact absurd List.nil_prefix hpath
      | cons next rest =>
        rw [settle, get?_insert_self, Option.bind_some,
          ih (distinct_inside hdistinct name) hpath hother]
        cases others with
        | nil => exact absurd List.nil_prefix hother
        | cons key others => exact (lookupAll_inside _ key others).symm
    · rw [get?_settle_of_ne left hdistinct hkey]

/-- A value that replaces another stands in its place. -/
theorem names_settle (value : Value) {old : Value}
    (hold : (Value.object fields).lookupAll (name :: rest) = some old) :
    names (fields.settle (some value) name rest) = names fields := by
  rw [lookupAll_object] at hold
  obtain ⟨held, hheld, -⟩ := Option.bind_eq_some_iff.mp hold
  have hmem : name ∈ names fields := List.mem_map_of_mem (mem_of_get?_eq_some hheld)
  cases rest with
  | nil => rw [settle, put, names_insert, if_pos hmem]
  | cons next rest => rw [settle, names_insert, if_pos hmem]

/-- If a value is replaced by another, every object that is not in the value keeps its fields, in
order. -/
theorem order_settle (value : Value) (hdistinct : (Value.object fields).Distinct) {old : Value}
    (hold : (Value.object fields).lookupAll (name :: rest) = some old) {other : List String}
    (hother : ¬ name :: rest <+: other) :
    ((Value.object (fields.settle (some value) name rest)).lookupAll other).bind
      (·.fields?.map names)
      = ((Value.object fields).lookupAll other).bind (·.fields?.map names) := by
  induction other generalizing name rest fields with
  | nil =>
    rw [Value.lookupAll, Value.lookupAll]
    exact congrArg some (names_settle value hold)
  | cons key others ih =>
    rw [lookupAll_object, lookupAll_object]
    by_cases hkey : name = key
    · subst hkey
      rw [List.prefix_cons_inj] at hother
      cases rest with
      | nil => exact absurd List.nil_prefix hother
      | cons next rest =>
        have hinner := distinct_inside hdistinct name
        rw [lookupAll_object] at hold
        obtain ⟨held, hheld, hrest⟩ := Option.bind_eq_some_iff.mp hold
        cases held with
        | object inner =>
          rw [settle, get?_insert_self, Option.bind_some]
          rw [hheld] at hinner ⊢
          exact ih hinner hrest hother
        | _ => cases hrest
    · rw [get?_settle_of_ne _ hdistinct hkey]

/-! ## The functions on fields -/

/-- Setting a value succeeds where the check does. -/
theorem assignAt_eq_settle (value : Value) :
    fields.assignAt value name rest
      = (fields.checkAssignAt name rest).map fun _ => fields.settle (some value) name rest := by
  induction rest generalizing name fields with
  | nil => rw [assignAt, checkAssignAt]; rfl
  | cons next rest ih =>
    rw [assignAt, checkAssignAt, settle]
    cases fields.get? name with
    | none =>
      dsimp only
      rw [ih, checkAssignAt_nil]
      rfl
    | some held =>
      cases held with
      | object inner =>
        dsimp only
        rw [ih]
        cases checkAssignAt next rest inner with
        | ok _ => rfl
        | error segment => rfl
      | _ => rfl

/-- A value is changed where one is found. -/
theorem modifyAt_eq_settle (f : Value → Value) :
    fields.modifyAt f name rest
      = ((Value.object fields).lookupAll (name :: rest)).map fun old =>
          fields.settle (some (f old)) name rest := by
  induction rest generalizing name fields with
  | nil =>
    rw [modifyAt, lookupAll_object]
    cases fields.get? name with
    | none => rfl
    | some held => rw [Option.bind_some, Value.lookupAll]; rfl
  | cons next rest ih =>
    rw [modifyAt, lookupAll_object]
    simp only [settle]
    cases hheld : fields.get? name with
    | none => rfl
    | some held =>
      cases held with
      | object inner =>
        dsimp only
        rw [ih, Option.map_map]
        rfl
      | _ => rfl

/-- A value is taken where one is found. -/
theorem takeAt_eq_settle :
    fields.takeAt name rest
      = ((Value.object fields).lookupAll (name :: rest)).map fun old =>
          (old, fields.settle none name rest) := by
  induction rest generalizing name fields with
  | nil =>
    rw [takeAt, lookupAll_object]
    cases fields.get? name with
    | none => rfl
    | some held => rw [Option.bind_some, Value.lookupAll]; rfl
  | cons next rest ih =>
    rw [takeAt, lookupAll_object]
    simp only [settle]
    cases hheld : fields.get? name with
    | none => rfl
    | some held =>
      cases held with
      | object inner =>
        dsimp only
        rw [ih, Option.map_map]
        rfl
      | _ => rfl

end Fields

/-! ## Payloads -/

namespace Value

/-- Paths that lead elsewhere find the same in both payloads. -/
def SameElsewhere (path : FieldPath) (payload after : Value) : Prop :=
  ∀ other : FieldPath, path.Incomparable other → after.lookup other = payload.lookup other

/-- Objects that are not part of what lies at a path have the same fields in the same order. -/
def SameOrder (path : FieldPath) (payload after : Value) : Prop :=
  ∀ segments : List String, ¬ path.segments <+: segments →
    (after.lookupAll segments).bind (·.fields?.map Fields.names)
      = (payload.lookupAll segments).bind (·.fields?.map Fields.names)

/-- The payload once the end of a path has what is `left` there. -/
def settle (left : Option Value) (path : FieldPath) (fields : Fields) : Value :=
  .object (fields.settle left path.first path.rest)

section settle

variable {fields : Fields} (path : FieldPath)

/-- What is settled at a path is found there. -/
theorem lookup_settle_self (left : Option Value) (hdistinct : (Value.object fields).Distinct) :
    (settle left path fields).lookup path = left :=
  Fields.lookupAll_settle_self left hdistinct

/-- Settling one path leaves every path apart from it as it was. -/
theorem sameElsewhere_settle (left : Option Value) (hdistinct : (Value.object fields).Distinct) :
    SameElsewhere path (.object fields) (settle left path fields) :=
  fun _ h => Fields.lookupAll_settle_other left hdistinct h.1 h.2

theorem assign_object_ok {value after : Value}
    (h : (Value.object fields).assign path value = .ok after) :
    after = settle (some value) path fields := by
  rw [assign_object_eq, Fields.assignAt_eq_settle] at h
  cases hcheck : fields.checkAssignAt path.first path.rest with
  | ok _ =>
    rw [hcheck] at h
    exact (Except.ok.inj h).symm
  | error segment =>
    rw [hcheck] at h
    cases h

/-- Setting a value, where the check allows it, writes it. -/
theorem assignInPlace_object (value : Value) :
    assignInPlace path value (.object fields)
      = match (Value.object fields).checkAssign path with
        | .ok () => .ok () (settle (some value) path fields)
        | .error failure => .error failure (.object fields) := by
  rw [assignInPlace_eq_assign, checkAssign_eq_assign path value]
  cases hassign : (Value.object fields).assign path value with
  | ok after => rw [assign_object_ok path hassign]; rfl
  | error failure => rfl

theorem modify?_object_eq (f : Value → Value) :
    (Value.object fields).modify? path f
      = ((Value.object fields).lookup path).map fun old => settle (some (f old)) path fields := by
  rw [modify?, Fields.modifyAt_eq_settle, Option.map_map]
  rfl

theorem take_object_eq :
    (Value.object fields).take path
      = .ok ((Value.object fields).lookup path,
          if ((Value.object fields).lookup path).isSome then settle none path fields
          else .object fields) := by
  simp only [take, requireObject, bind, Except.bind, Fields.takeAt_eq_settle]
  rw [lookup, FieldPath.segments]
  cases (Value.object fields).lookupAll (path.first :: path.rest) with
  | none => rfl
  | some value => rfl

end settle

/-- Setting, taking and changing what lies at a path: it is what the path finds afterwards, and
paths that lead elsewhere find what they found before. Nothing moves when a value is changed. -/
theorem store_laws {payload : Value} (hdistinct : payload.Distinct) (path : FieldPath) :
    (∀ value after, payload.assign path value = .ok after →
      after.lookup path = some value ∧ SameElsewhere path payload after) ∧
    (payload.kind = .object → ∃ after, payload.take path = .ok (payload.lookup path, after) ∧
      after.lookup path = none ∧ SameElsewhere path payload after ∧
      (payload.lookup path = none → after = payload)) ∧
    (∀ f, (payload.modify? path f).isSome = (payload.lookup path).isSome) ∧
    (∀ f after, payload.modify? path f = some after →
      after.lookup path = (payload.lookup path).map f ∧ SameElsewhere path payload after ∧
      SameOrder path payload after) := by
  cases payload with
  | object fields =>
    refine ⟨fun value after h => ?_, fun _ => ?_, fun f => ?_, fun f after h => ?_⟩
    · obtain rfl := assign_object_ok path h
      exact ⟨lookup_settle_self path _ hdistinct, sameElsewhere_settle path _ hdistinct⟩
    · rw [take_object_eq]
      cases hold : (Value.object fields).lookup path with
      | none => exact ⟨_, rfl, hold, fun _ _ => rfl, fun _ => rfl⟩
      | some old =>
        refine ⟨_, rfl, ?_, ?_, nofun⟩
        · exact lookup_settle_self path none hdistinct
        · exact sameElsewhere_settle path none hdistinct
    · rw [modify?_object_eq, Option.isSome_map]
    · rw [modify?_object_eq] at h
      obtain ⟨old, hold, rfl⟩ := Option.map_eq_some_iff.mp h
      have hself := lookup_settle_self path (some (f old)) hdistinct
      rw [hold]
      refine ⟨hself, sameElsewhere_settle path _ hdistinct, fun segments hsegments => ?_⟩
      exact Fields.order_settle (f old) hdistinct hold hsegments
  | _ => exact ⟨nofun, nofun, fun _ => rfl, nofun⟩

/-- A payload with an object in another. -/
def shopper : Value :=
  .object [("car", .text "volvo"),
    ("home", .object [("city", .text "Gothenburg"), ("floor", .null)])]

theorem store_laws_shopper :
    shopper.Distinct ∧
    (∃ after, shopper.assign (.ofText "home.phone.") (.bool true) = .ok after ∧
      after.lookup (.ofText "home.phone.") = some (.bool true) ∧
      after.lookup (.ofText "home.city") = some (.text "Gothenburg")) ∧
    (∃ after, shopper.take (.ofText "home.city") = .ok (some (.text "Gothenburg"), after) ∧
      after.lookup (.ofText "home.city") = none ∧
      after.lookup (.ofText "car") = some (.text "volvo")) ∧
    ∃ after, shopper.modify? (.ofText "home.city") (fun _ => .null) = some after ∧
      (after.lookupAll ["home"]).bind (·.fields?.map Fields.names) = some ["city", "floor"] := by
  have hdistinct : shopper.Distinct := by simp [shopper, Distinct, DistinctFields, Fields.names]
  refine ⟨hdistinct, ?_, ?_, ?_⟩
  · obtain ⟨hassign, -⟩ := store_laws hdistinct (.ofText "home.phone.")
    obtain ⟨hself, hother⟩ := hassign (.bool true) _ rfl
    exact ⟨_, rfl, hself, (hother (.ofText "home.city") (by decide)).trans rfl⟩
  · obtain ⟨-, htake, -⟩ := store_laws hdistinct (.ofText "home.city")
    obtain ⟨after, hafter, hself, hother, -⟩ := htake rfl
    exact ⟨after, hafter, hself, (hother (.ofText "car") (by decide)).trans rfl⟩
  · obtain ⟨-, -, -, hmodify⟩ := store_laws hdistinct (.ofText "home.city")
    obtain ⟨-, -, horder⟩ := hmodify (fun _ => .null) _ rfl
    exact ⟨_, rfl, (horder ["home"] (by decide)).trans rfl⟩

end Value

end DecisionFlow
