import DecisionFlow.Proofs.Payload.Store

/-!
# Payloads without the order of their fields

The view of a payload says what stands at the end of every path. Of an object it only says that
there is one, since what the object holds stands further along. The order of fields does not show.

- `Value.Reordered`: payloads with the same view. `Value.Reordered.same_eq`: **no comparison of
  values tells them apart.**
- `View.graft`: the view once something else stands at a path, with its laws `View.graft_graft`,
  `View.graft_eq_self` and `View.graft_comm`.
- `Value.view_settle`: **writing at a path of a payload is a graft.**
- `View.Clear`: nothing but objects stands on the way to the end of a path, which is what the check
  asks for (`Value.checkAssign_eq_ok_iff`). `View.clear_graft_self`, `View.clear_graft_iff`: what a
  graft does to the way of its own path and of another.
-/

namespace DecisionFlow

theorem FieldPath.Incomparable.symm {p q : FieldPath} (h : p.Incomparable q) : q.Incomparable p :=
  ⟨h.2, h.1⟩

/-- What stands at the end of each path. -/
abbrev View := List String → Option Value

namespace Value

/-- A value without what it holds if it is an object. -/
def outline : Value → Value
  | .object _ => .object []
  | other => other

/-- What stands at the end of each path that begins in a value. -/
def view (v : Value) : View := fun segments => (v.lookupAll segments).map outline

/-- Two values that are equal but for the order of fields in objects. Arrays count as a whole, so
the objects in them hold their fields in the same order. -/
def Reordered (v w : Value) : Prop := v.view = w.view

theorem lookupAll_nil (v : Value) : v.lookupAll [] = some v := by
  rw [lookupAll]

/-- A way in two parts is gone part by part. -/
theorem lookupAll_append (v : Value) (front back : List String) :
    v.lookupAll (front ++ back) = (v.lookupAll front).bind (·.lookupAll back) := by
  induction front generalizing v with
  | nil => rw [List.nil_append, lookupAll_nil, Option.bind_some]
  | cons name rest ih =>
    cases v with
    | object fields =>
      rw [List.cons_append, Fields.lookupAll_object, Fields.lookupAll_object, Option.bind_assoc]
      exact congrArg _ (funext ih)
    | _ => rfl

theorem view_nil (v : Value) : v.view [] = some v.outline := by
  rw [view, lookupAll_nil, Option.map_some]

/-- What is seen at the end of a way is what is seen from its middle. -/
theorem view_append (v : Value) (front back : List String) :
    v.view (front ++ back) = (v.lookupAll front).bind (·.view back) := by
  rw [view, lookupAll_append, Option.map_bind]
  rfl

theorem view_object_cons (fields : Fields) (name : String) (rest : List String) :
    (Value.object fields).view (name :: rest) = (fields.get? name).bind (·.view rest) := by
  rw [view, Fields.lookupAll_object, Option.map_bind]
  rfl

theorem eq_object_of_outline {v : Value} {fields : Fields} (h : v.outline = .object fields) :
    ∃ inner, v = .object inner := by
  cases v with
  | object inner => exact ⟨inner, rfl⟩
  | _ => cases h

/-- Where something stands, there are objects on the way. -/
theorem view_eq_object_of_append {v w : Value} {front back : List String} (hback : back ≠ [])
    (h : v.lookupAll (front ++ back) = some w) : v.view front = some (.object []) := by
  rw [lookupAll_append] at h
  obtain ⟨held, hheld, hrest⟩ := Option.bind_eq_some_iff.mp h
  rw [view, hheld]
  obtain ⟨name, rest, rfl⟩ := List.exists_cons_of_ne_nil hback
  cases held with
  | object inner => rfl
  | _ => cases hrest

/-! ## Reordered values -/

theorem Reordered.refl (v : Value) : Reordered v v := rfl

theorem map_view_eq {held held' : Option Value}
    (h : ∀ rest, held.bind (·.view rest) = held'.bind (·.view rest)) :
    held.map view = held'.map view := by
  cases held with
  | none =>
    cases held' with
    | none => rfl
    | some value' => cases (h []).trans (view_nil value')
  | some value =>
    cases held' with
    | none => cases (h []).symm.trans (view_nil value)
    | some value' => exact congrArg some (funext h)

/-- Reordered values are the same, or both are objects with reordered values under
the same names. -/
theorem Reordered.cases {v w : Value} (h : Reordered v w) :
    v = w ∨ ∃ fields fields' : Fields, v = .object fields ∧ w = .object fields' ∧
      ∀ name, (fields.get? name).map view = (fields'.get? name).map view := by
  have hroot : v.outline = w.outline := by
    have h := congrFun h []
    rwa [view_nil, view_nil, Option.some.injEq] at h
  cases v with
  | object fields =>
    obtain ⟨fields', rfl⟩ := eq_object_of_outline hroot.symm
    refine .inr ⟨fields, fields', rfl, rfl, fun name => map_view_eq fun rest => ?_⟩
    rw [← view_object_cons, ← view_object_cons, h]
  | _ =>
    cases w with
    | object fields' => cases hroot
    | _ => exact .inl hroot

/-- Objects with values under the same names have as many fields. -/
theorem length_eq_of_get? {fields fields' : Fields} (hnames : (Fields.names fields).Nodup)
    (hnames' : (Fields.names fields').Nodup)
    (h : ∀ name, (fields.get? name).map view = (fields'.get? name).map view) :
    fields.length = fields'.length := by
  have hmem : ∀ name, name ∈ Fields.names fields ↔ name ∈ Fields.names fields' := by
    intro name
    rw [Fields.mem_names_iff, Fields.mem_names_iff, ← Option.isSome_map (f := view), h,
      Option.isSome_map]
  have hperm := (List.perm_ext_iff_of_nodup hnames hnames').mpr hmem
  have hlength := hperm.length_eq
  rwa [Fields.names, Fields.names, List.length_map, List.length_map] at hlength

mutual

/-- **No comparison tells reordered values apart.** -/
theorem Reordered.same_eq {v w : Value} (h : Reordered v w) (hv : v.Distinct) (hw : w.Distinct)
    (u : Value) : u.same v = u.same w := by
  obtain rfl | ⟨fields, fields', rfl, rfl, hfields⟩ := h.cases
  · rfl
  · cases u with
    | object given =>
      have hlength :=
        length_eq_of_get? (distinct_object_iff.mp hv).1 (distinct_object_iff.mp hw).1 hfields
      rw [same, same, hlength, sameFields_eq hfields hv hw given]
    | _ => rfl

/-- Fields are compared by what is seen under each name, in whatever order they stand. -/
theorem sameFields_eq {fields fields' : Fields}
    (h : ∀ name, (fields.get? name).map view = (fields'.get? name).map view)
    (hdistinct : (Value.object fields).Distinct) (hdistinct' : (Value.object fields').Distinct)
    (given : Fields) : sameFields given fields = sameFields given fields' := by
  cases given with
  | nil => rfl
  | cons field rest =>
    obtain ⟨name, value⟩ := field
    have hname := h name
    rw [sameFields, sameFields, sameFields_eq h hdistinct hdistinct' rest]
    cases hheld : fields.get? name with
    | none =>
      rw [hheld, Option.map_none] at hname
      rw [Option.map_eq_none_iff.mp hname.symm]
    | some held =>
      rw [hheld, Option.map_some] at hname
      obtain ⟨held', hheld', hview⟩ := Option.map_eq_some_iff.mp hname.symm
      have hvalue := (distinct_object_iff.mp hdistinct).2 _ (Fields.mem_of_get?_eq_some hheld)
      have hvalue' := (distinct_object_iff.mp hdistinct').2 _ (Fields.mem_of_get?_eq_some hheld')
      have hsame : value.same held = value.same held' :=
        Reordered.same_eq (v := held) (w := held') hview.symm hvalue hvalue' value
      rw [hheld']
      dsimp only
      rw [hsame]

end

end Value

/-! ## Grafting -/

namespace View

variable {p q : FieldPath} {inner other φ : View}

/-- What stands along each path once something else stands at a path and behind it. What leads to
the path is then an object. -/
def graft (path : FieldPath) (inner φ : View) : View := fun segments =>
  if path.segments <+: segments then inner (segments.drop path.segments.length)
  else if segments <+: path.segments then some (.object [])
  else φ segments

theorem graft_append (path : FieldPath) (inner φ : View) (back : List String) :
    graft path inner φ (path.segments ++ back) = inner back := by
  rw [graft, if_pos (List.prefix_append _ _), List.drop_left]

/-- On the way to a graft there are objects. -/
theorem graft_of_way (inner φ : View) {segments : List String} (hway : segments <+: p.segments)
    (hne : segments ≠ p.segments) : graft p inner φ segments = some (.object []) := by
  have hnot : ¬ p.segments <+: segments := fun h => hne (hway.eq_of_length_le h.length_le)
  rw [graft, if_neg hnot, if_pos hway]

/-- Apart from a graft nothing changes. -/
theorem graft_of_parted (inner φ : View) {segments : List String}
    (hpath : ¬ p.segments <+: segments) (hsegments : ¬ segments <+: p.segments) :
    graft p inner φ segments = φ segments := by
  rw [graft, if_neg hpath, if_neg hsegments]

/-- Of two grafts at a path, the second stays. -/
theorem graft_graft (p : FieldPath) (inner other φ : View) :
    graft p inner (graft p other φ) = graft p inner φ := by
  funext segments
  by_cases hpath : p.segments <+: segments
  · obtain ⟨back, rfl⟩ := hpath
    rw [graft_append, graft_append]
  · by_cases hway : segments <+: p.segments
    · have hne : segments ≠ p.segments := fun h => hpath (h ▸ List.prefix_rfl)
      rw [graft_of_way _ _ hway hne, graft_of_way _ _ hway hne]
    · rw [graft_of_parted _ _ hpath hway, graft_of_parted _ _ hpath hway,
        graft_of_parted _ _ hpath hway]

/-- Grafting what stands there already changes nothing. -/
theorem graft_eq_self (hinner : ∀ back, φ (p.segments ++ back) = inner back)
    (hway : ∀ segments, segments <+: p.segments → segments ≠ p.segments →
      φ segments = some (.object [])) : graft p inner φ = φ := by
  funext segments
  by_cases hpath : p.segments <+: segments
  · obtain ⟨back, rfl⟩ := hpath
    rw [graft_append, hinner]
  · by_cases hsegments : segments <+: p.segments
    · have hne : segments ≠ p.segments := fun h => hpath (h ▸ List.prefix_rfl)
      rw [graft_of_way _ _ hsegments hne, hway _ hsegments hne]
    · exact graft_of_parted _ _ hpath hsegments

/-- **Grafts at paths that part can be made in any order.** -/
theorem graft_comm (h : p.Incomparable q) (inner other φ : View) :
    graft p inner (graft q other φ) = graft q other (graft p inner φ) := by
  have hboth : ∀ segments, p.segments <+: segments →
      ¬ q.segments <+: segments := fun segments hp hq =>
    (List.prefix_or_prefix_of_prefix hp hq).elim h.1 h.2
  funext segments
  by_cases hp : p.segments <+: segments
  · have hq := hboth segments hp
    have hqway : ¬ segments <+: q.segments := fun hway => h.1 (hp.trans hway)
    obtain ⟨back, rfl⟩ := hp
    rw [graft_append, graft_of_parted _ _ hq hqway, graft_append]
  · by_cases hq : q.segments <+: segments
    · have hpway : ¬ segments <+: p.segments := fun hway => h.2 (hq.trans hway)
      obtain ⟨back, rfl⟩ := hq
      rw [graft_append, graft_of_parted _ _ hp hpway, graft_append]
    · -- Neither path has ended here, so there are objects in both orders if one leads further.
      simp only [graft, if_neg hp, if_neg hq]
      by_cases hpway : segments <+: p.segments
      · rw [if_pos hpway, if_pos hpway, ite_self]
      · rw [if_neg hpway, if_neg hpway]

/-! ## Ways -/

/-- Nothing but objects stands on the way to the end of a path. -/
def Clear (φ : View) (path : FieldPath) : Prop :=
  ∀ segments, segments <+: path.segments → segments ≠ path.segments →
    φ segments = none ∨ φ segments = some (.object [])

/-- After a graft, the way to its path is clear. -/
theorem clear_graft_self (p : FieldPath) (inner φ : View) : Clear (graft p inner φ) p :=
  fun _ hway hne => .inr (graft_of_way inner φ hway hne)

/-- A graft to which the way was clear does not obstruct another path, nor clear it. -/
theorem clear_graft_iff (h : p.Incomparable q) (hclear : Clear φ p) (inner : View) :
    Clear (graft p inner φ) q ↔ Clear φ q := by
  have hfree : ∀ segments, segments <+: q.segments →
      ((graft p inner φ segments = none ∨ graft p inner φ segments = some (.object [])) ↔
        (φ segments = none ∨ φ segments = some (.object []))) := by
    intro segments hway
    have hp : ¬ p.segments <+: segments := fun hp => h.1 (hp.trans hway)
    by_cases hpway : segments <+: p.segments
    · have hne : segments ≠ p.segments := fun heq => hp (heq ▸ List.prefix_rfl)
      exact iff_of_true (.inr (graft_of_way inner φ hpway hne)) (hclear segments hpway hne)
    · rw [graft_of_parted inner φ hp hpway]
  exact forall_congr' fun segments => forall_congr' fun hway => imp_congr_right fun _ =>
    hfree segments hway

end View

/-! ## Writing -/

namespace Fields

variable {fields : Fields} {name : String} {rest : List String}

/-- What leads to the end of a path are objects once something is written there. -/
theorem view_settle_of_way (left : Option Value) {segments : List String}
    (hway : segments <+: name :: rest) (hne : segments ≠ name :: rest) :
    (Value.object (fields.settle left name rest)).view segments = some (.object []) := by
  induction segments generalizing name rest fields with
  | nil => exact Value.view_nil _
  | cons key others ih =>
    obtain ⟨rfl, hothers⟩ := List.cons_prefix_cons.mp hway
    cases rest with
    | nil => exact absurd (congrArg (key :: ·) (List.prefix_nil.mp hothers)) hne
    | cons next rest =>
      rw [settle, Value.view_object_cons, get?_insert_self, Option.bind_some]
      exact ih hothers fun heq => hne (congrArg (key :: ·) heq)

end Fields

namespace Value

variable {fields : Fields} (path : FieldPath)

/-- **Writing at a path of a payload is a graft.** -/
theorem view_settle (left : Option Value) (hdistinct : (Value.object fields).Distinct) :
    (settle left path fields).view
      = View.graft path (fun back => left.bind (·.view back)) (Value.object fields).view := by
  funext segments
  by_cases hpath : path.segments <+: segments
  · obtain ⟨back, rfl⟩ := hpath
    have hself := lookup_settle_self path left hdistinct
    rw [lookup] at hself
    rw [View.graft_append, view_append, hself]
  · by_cases hway : segments <+: path.segments
    · have hne : segments ≠ path.segments := fun h => hpath (h ▸ List.prefix_rfl)
      rw [View.graft_of_way _ _ hway hne]
      exact Fields.view_settle_of_way left hway hne
    · have hother := Fields.lookupAll_settle_other left hdistinct hpath hway
      rw [View.graft_of_parted _ _ hpath hway, view, view]
      exact congrArg _ hother

/-- A way that goes on is clear if it is from the next object on. -/
theorem clear_object_cons_iff (fields : Fields) (name next : String) (rest : List String) :
    (Value.object fields).view.Clear ⟨name, next :: rest⟩ ↔
      View.Clear (fun segments => (fields.get? name).bind (·.view segments)) ⟨next, rest⟩ := by
  constructor
  · intro h segments hway hne
    have hheld := h (name :: segments) (List.cons_prefix_cons.mpr ⟨rfl, hway⟩)
      fun heq => hne (List.cons.inj heq).2
    rwa [view_object_cons] at hheld
  · intro h segments hway hne
    cases segments with
    | nil => exact .inr (view_nil _)
    | cons key others =>
      obtain ⟨rfl, hothers⟩ := List.cons_prefix_cons.mp hway
      rw [view_object_cons]
      exact h others hothers fun heq => hne (congrArg (key :: ·) heq)

theorem checkAssignAt_eq_ok_iff (fields : Fields) (name : String) (rest : List String) :
    fields.checkAssignAt name rest = .ok () ↔
      (Value.object fields).view.Clear ⟨name, rest⟩ := by
  induction rest generalizing name fields with
  | nil =>
    refine iff_of_true (by rw [Fields.checkAssignAt]) fun segments hway hne => .inr ?_
    cases segments with
    | nil => exact view_nil _
    | cons key others =>
      obtain ⟨rfl, hothers⟩ := List.cons_prefix_cons.mp hway
      exact absurd (congrArg (key :: ·) (List.prefix_nil.mp hothers)) hne
  | cons next rest ih =>
    rw [Fields.checkAssignAt, clear_object_cons_iff]
    cases fields.get? name with
    | none => exact iff_of_true rfl fun _ _ _ => .inl rfl
    | some held =>
      cases held with
      | object inner => exact ih inner next
      | _ =>
        -- Something else than an object stands where the way goes on.
        refine iff_of_false (fun h => ?_) fun h => ?_
        · cases h
        · obtain h | h := h [] List.nil_prefix (List.cons_ne_nil _ _).symm <;> cases h

/-- The check asks whether the way is clear. -/
theorem checkAssign_eq_ok_iff {payload : Value} :
    payload.checkAssign path = .ok () ↔ payload.view.Clear path := by
  cases payload with
  | object fields =>
    rw [← checkAssignAt_eq_ok_iff]
    simp only [checkAssign, requireObject, bind, Except.bind]
    cases Fields.checkAssignAt path.first path.rest fields with
    | ok _ => exact iff_of_true rfl rfl
    | error segment =>
      constructor
      · intro h
        cases h
      · intro h
        cases h
  | _ =>
    refine iff_of_false (fun h => ?_) fun h => ?_
    · cases h
    · obtain h | h := h [] List.nil_prefix (List.cons_ne_nil _ _).symm <;> cases h

/-- Where something is found, objects lead there. -/
theorem view_of_way {payload value : Value} (h : payload.lookup path = some value)
    {segments : List String} (hway : segments <+: path.segments)
    (hne : segments ≠ path.segments) :
    payload.view segments = some (.object []) := by
  obtain ⟨back, hback⟩ := hway
  have hnil : back ≠ [] := by
    rintro rfl
    exact hne (by rw [← hback, List.append_nil])
  rw [lookup, ← hback] at h
  exact view_eq_object_of_append hnil h

theorem clear_of_lookup {payload value : Value} (h : payload.lookup path = some value) :
    payload.view.Clear path :=
  fun _ hway hne => .inr (view_of_way path h hway hne)

/-- Grafting what is found at a path changes nothing. -/
theorem graft_lookup {payload value : Value} (h : payload.lookup path = some value) :
    View.graft path value.view payload.view = payload.view := by
  refine View.graft_eq_self (fun back => ?_) fun segments hway hne => view_of_way path h hway hne
  rw [lookup] at h
  rw [view_append, h, Option.bind_some]

/-- Grafting nothing changes nothing where nothing is found in an object. -/
theorem graft_none_of_lookup {payload : Value} (h : payload.lookup path = none) {inner : Fields}
    (hparent : payload.lookupAll path.segments.dropLast = some (.object inner)) :
    View.graft path (fun _ => none) payload.view = payload.view := by
  refine View.graft_eq_self (fun back => ?_) fun segments hway hne => ?_
  · rw [lookup] at h
    rw [view_append, h, Option.bind_none]
  · obtain ⟨back, hback⟩ := hway
    have hnil : back ≠ [] := by
      rintro rfl
      exact hne (by rw [← hback, List.append_nil])
    rw [← hback, List.dropLast_append_of_ne_nil hnil] at hparent
    by_cases hlast : back.dropLast = []
    · rw [hlast, List.append_nil] at hparent
      rw [view, hparent]
      rfl
    · exact view_eq_object_of_append hlast hparent

end Value

end DecisionFlow
