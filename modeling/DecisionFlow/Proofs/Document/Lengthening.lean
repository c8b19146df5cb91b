import DecisionFlow.Proofs.Document.Extending
import DecisionFlow.Proofs.Document.Visiting

/-!
# Appending items

The children of a node are listed before the first of them is read. So items that are appended to a
list in which something is wrong change the reported error in one case: when all items could be
listed, and an appended one cannot.

- `Child.Apart`, `apart_children`, `split_unique`: no place lies below two children of a node.
- `KeepsError`, `InItems`, `Reported`: which error is reported after items were appended.
- `Differs`: nodes that hold another value in one child.
- `Lengthened`: documents in which items are appended to one list of children, anywhere.
- `readNode_append`, `readNode_lengthened`: what the reader reports of a lengthened list, and of a
  node around it.
- `Engine.read_lengthened`: **the error stays exactly if nothing keeps the appended items from being
  listed**, or if an item kept the list from being listed before.
-/

namespace DecisionFlow

/-! ## Places below children -/

theorem Locator.field_prefix_inj {path place : Locator} {name other : String}
    (h : path.field name <+: place) (hother : path.field other <+: place) : name = other := by
  obtain ⟨rest, rfl⟩ := h
  obtain ⟨rest', h⟩ := hother
  rw [field, field, List.append_assoc, List.append_assoc, List.append_cancel_left_eq] at h
  exact (Part.field.inj (List.cons.inj h).1).symm

namespace Document

/-- No place lies below both children. -/
def Child.Apart (a b : Child) : Prop := ∀ place, a.path <+: place → ¬b.path <+: place

variable {path : Locator} {index : Nat} {items more : List Value} {fields : Fields}
  {cs : List Child}

theorem item_of_mem_childrenOfItems (h : childrenOfItems path index items = .ok cs) {child : Child}
    (hchild : child ∈ cs) :
    ∃ i, index ≤ i ∧ i < index + items.length ∧ path.item i <+: child.path := by
  rw [eq_of_childrenOfItems h] at hchild
  obtain ⟨⟨item, i⟩, hitem, hchild⟩ := List.mem_flatMap.mp hchild
  obtain ⟨hle, hlt, -⟩ := List.mem_zipIdx hitem
  obtain ⟨-, hpath⟩ := mem_childrenOfFields hchild
  exact ⟨i, hle, hlt, hpath ▸ path.item_prefix_entry i child.name⟩

/-- Fields with different names are children that stand apart. -/
theorem apart_childrenOfFields (h : (Fields.names fields).Nodup) :
    (childrenOfFields path fields).Pairwise Child.Apart := by
  refine List.pairwise_map.mpr (List.Pairwise.imp ?_ (List.pairwise_map.mp h))
  intro a b hne place ha hb
  exact hne (Locator.field_prefix_inj ha hb)

/-- Children of different items differ in the index, and those of one item in the name. -/
theorem apart_childrenOfItems (h : childrenOfItems path index items = .ok cs)
    (hdistinct : ∀ item ∈ items, item.Distinct) : cs.Pairwise Child.Apart := by
  induction items generalizing index cs with
  | nil =>
    cases h
    exact .nil
  | cons item rest ih =>
    obtain ⟨hitem, hrest⟩ := List.forall_mem_cons.mp hdistinct
    cases item with
    | object fields =>
      obtain ⟨later, hlater, hcs⟩ := bind_eq_ok_iff.mp h
      cases hcs
      obtain ⟨hnames, -⟩ := Value.distinct_object_iff.mp hitem
      refine List.pairwise_append.mpr ⟨apart_childrenOfFields hnames, ih hlater hrest, ?_⟩
      intro a ha b hb place hplace hplace'
      obtain ⟨-, hpath⟩ := mem_childrenOfFields ha
      obtain ⟨i, hi, -, hb⟩ := item_of_mem_childrenOfItems hlater hb
      have ha : path.item index <+: a.path := hpath ▸ path.item_prefix_entry index a.name
      have heq := Locator.item_prefix_inj (ha.trans hplace) (hb.trans hplace')
      omega
    | _ => cases h

/-- No place lies below two children of a node, unless a name repeats. -/
theorem apart_children {settings : Settings} {node : Value}
    (h : children settings node path = .ok cs) (hdistinct : node.Distinct) :
    cs.Pairwise Child.Apart := by
  cases node with
  | array items => exact apart_childrenOfItems h (Value.distinct_array_iff.mp hdistinct)
  | object fields =>
    rw [eq_childrenAt h]
    exact apart_childrenOfFields (Value.distinct_object_iff.mp hdistinct).1
  | _ =>
    rw [eq_childrenAt h]
    exact .nil

/-- So a place leads to one child of a node, and to one position among the children. -/
theorem split_unique {a b : Child} {before after before' after' : List Child} {place : Locator}
    (h : cs.Pairwise Child.Apart) (hsplit : cs = before ++ a :: after)
    (hsplit' : cs = before' ++ b :: after') (ha : a.path <+: place) (hb : b.path <+: place) :
    before = before' ∧ a = b ∧ after = after' := by
  induction before generalizing cs before' with
  | nil =>
    subst hsplit
    cases before' with
    | nil =>
      obtain ⟨rfl, rfl⟩ := List.cons.inj hsplit'
      exact ⟨rfl, rfl, rfl⟩
    | cons first rest =>
      obtain ⟨rfl, rfl⟩ := List.cons.inj hsplit'
      have hmem : b ∈ rest ++ b :: after' := List.mem_append_right _ List.mem_cons_self
      exact absurd hb ((List.pairwise_cons.mp h).1 b hmem place ha)
  | cons first rest ih =>
    subst hsplit
    obtain ⟨hfirst, hrest⟩ := List.pairwise_cons.mp h
    cases before' with
    | nil =>
      obtain ⟨rfl, -⟩ := List.cons.inj hsplit'
      have hmem : a ∈ rest ++ a :: after := List.mem_append_right _ List.mem_cons_self
      exact absurd ha (hfirst a hmem place hb)
    | cons first' rest' =>
      obtain ⟨rfl, hlater⟩ := List.cons.inj hsplit'
      obtain ⟨rfl, hab, hafter⟩ := ih hrest rfl hlater
      exact ⟨rfl, hab, hafter⟩

/-! ## Listing more items -/

/-- Items that are added at the end leave the children before them as they were. -/
theorem childrenOfItems_append :
    childrenOfItems path index (items ++ more) = (do
      let cs ← childrenOfItems path index items
      let later ← childrenOfItems path (index + items.length) more
      return cs ++ later) := by
  induction items generalizing index with
  | nil =>
    show childrenOfItems path index more = (do return [] ++ (← childrenOfItems path index more))
    cases childrenOfItems path index more <;> rfl
  | cons item rest ih =>
    cases item with
    | object fields =>
      rw [List.cons_append, childrenOfItems, childrenOfItems, ih, List.length_cons,
        Nat.add_comm rest.length, Nat.add_assoc]
      cases childrenOfItems path (index + 1) rest with
      | error e => rfl
      | ok cs =>
        cases childrenOfItems path (index + (1 + rest.length)) more with
        | error e => rfl
        | ok later => simp [bind, Except.bind, pure, Except.pure]
    | _ => rfl

/-- Only objects are taken apart into children. -/
theorem isObject_of_childrenOfItems (h : childrenOfItems path index items = .ok cs) :
    ∀ item ∈ items, item.kind = .object := by
  obtain ⟨objects, rfl, -⟩ := exists_childrenOfItems_iff.mp ⟨cs, h, rfl⟩
  intro item hitem
  obtain ⟨fields, -, rfl⟩ := List.mem_map.mp hitem
  rfl

/-! ## What is reported of a longer list -/

/-- Nothing keeps the appended items from being listed, or an item kept the list from being listed
before. -/
def KeepsError (items more : List Value) : Prop :=
  (∃ item ∈ items, item.kind ≠ .object) ∨ ∀ item ∈ more, item.kind = .object

/-- The error is in one of the items of the list at a place. -/
def InItems (place : Locator) (items : List Value) (e : Error) : Prop :=
  ∃ i < items.length, place.item i <+: e.path

/-- What is reported after items were appended to a list for which an error was reported: the same
error or, if only an appended item cannot be listed, the first such item. -/
inductive Reported (place : Locator) (items more : List Value) (e : Error) : Error → Prop where
  | same (keeps : KeepsError items more) : Reported place items more e e
  | misfit {before after : List Value} {item : Value}
      (listed : ∀ item ∈ items, item.kind = .object)
      (split : more = before ++ item :: after) (first : ∀ item ∈ before, item.kind = .object)
      (misfits : item.kind ≠ .object) :
    Reported place items more e
      ⟨.invalidNode .object item.kind, place.item (items.length + before.length)⟩

variable {place : Locator} {e e' : Error}

theorem InItems.length_lt (h : InItems place items e) : place.length < e.path.length := by
  obtain ⟨i, -, hprefix⟩ := h
  have hle := hprefix.length_le
  rw [Locator.item, List.length_append] at hle
  exact hle

/-- The first item that is no object is no item of the list as it was, so it makes another error. -/
theorem Reported.eq_iff (h : Reported place items more e e') (hin : InItems place items e) :
    e' = e ↔ KeepsError items more := by
  cases h with
  | same keeps => exact iff_of_true rfl keeps
  | @misfit before after item listed split first misfits =>
    refine iff_of_false ?_ ?_
    · rintro rfl
      obtain ⟨i, hi, hprefix⟩ := hin
      have heq := Locator.item_prefix_inj hprefix List.prefix_rfl
      omega
    · rintro (⟨other, hother, hkind⟩ | hmore)
      · exact hkind (listed other hother)
      · exact misfits (hmore item (split ▸ List.mem_append_right _ List.mem_cons_self))

/-- Items that cannot be listed: the first that is no object is reported. -/
theorem misfit_of_childrenOfItems (h : childrenOfItems path index items = .error e) :
    ∃ before item after, items = before ++ item :: after ∧
      (∀ item ∈ before, item.kind = .object) ∧
      item.kind ≠ .object ∧
      e = ⟨.invalidNode .object item.kind, path.item (index + before.length)⟩ := by
  induction items generalizing index with
  | nil => cases h
  | cons first rest ih =>
    cases first with
    | object fields =>
      obtain ⟨before, item, after, rfl, hbefore, hitem, rfl⟩ := ih (eq_error_of_return h)
      refine ⟨.object fields :: before, item, after, rfl,
        List.forall_mem_cons.mpr ⟨rfl, hbefore⟩, hitem, ?_⟩
      rw [List.length_cons, Nat.add_comm before.length, Nat.add_assoc]
    | _ =>
      exact ⟨[], _, rest, rfl,
        List.forall_mem_nil _, by simp [Value.kind], (Except.error.inj h).symm⟩

variable {T : Type} {engine : Engine T} {budget : Nat} {role : Role} {node node' : Value}

/-- What the reader reports of a longer list, if it took in no child without an error. -/
theorem readNode_append (hshape : role.shape = .arrayOfObjects)
    (h : readNode engine (budget + role.levels) role (.array items) path = .error e)
    (hin : InItems path items e) (more : List Value) :
    ∃ e', readNode engine (budget + role.levels) role (.array (items ++ more)) path =
      .error e' ∧
      Reported path items more e e' := by
  have hlonger : children engine.settings (.array (items ++ more)) path = _ :=
    childrenOfItems_append
  obtain hitems | ⟨cs, hcs, hvisit⟩ := readNode_eq_error hshape h
  · -- An item that cannot be listed hides whatever comes after it.
    have hitems : childrenOfItems path 0 items = .error e := hitems
    obtain ⟨before, item, after, hsplit, -, hkind, -⟩ := misfit_of_childrenOfItems hitems
    have hmem : item ∈ items := hsplit ▸ List.mem_append_right _ List.mem_cons_self
    rw [readNode_eq_visit hshape, hlonger, hitems]
    exact ⟨e, rfl, .same (.inl ⟨item, hmem, hkind⟩)⟩
  · have hcs : childrenOfItems path 0 items = .ok cs := hcs
    rw [hcs] at hlonger
    cases hmore : childrenOfItems path (0 + items.length) more with
    | error e' =>
      obtain ⟨before, item, after, hsplit, hbefore, hkind, rfl⟩ :=
        misfit_of_childrenOfItems hmore
      rw [hmore] at hlonger
      rw [readNode_eq_visit hshape, hlonger, Nat.zero_add]
      exact ⟨_, rfl, .misfit (isObject_of_childrenOfItems hcs) hsplit hbefore hkind⟩
    | ok later =>
      rw [hmore] at hlonger
      refine ⟨e, ?_, .same (.inr (isObject_of_childrenOfItems hmore))⟩
      obtain ⟨before, child, after, parts, rfl, hbefore, htake⟩ | ⟨parts, hconclude⟩ :=
        hvisit
      · have hlonger : children engine.settings (.array (items ++ more)) path =
            .ok (before ++ child :: (after ++ later)) := by
          rw [hlonger]
          exact congrArg Except.ok (List.append_assoc before (child :: after) later)
        exact readNode_of_take hshape hlonger hbefore htake
      · -- What is missing in a branch is reported at the branch, and not in an item.
        have hlt := hin.length_lt
        rw [path_of_conclude hconclude] at hlt
        exact absurd hlt (Nat.lt_irrefl _)

/-! ## Lists inside a document -/

/-- Two nodes at `path` that hold another value in one child, which is at a place and
has this name. -/
inductive Differs (name : String) (child child' : Value) (path : Locator) :
    Locator → Value → Value → Prop where
  | ofObject (before after : Fields) :
    Differs name child child' path (path.field name) (.object (before ++ (name, child) :: after))
      (.object (before ++ (name, child') :: after))
  | ofItem (front back : List Value) (before after : Fields) :
    Differs name child child' path (path.entry front.length name)
      (.array (front ++ .object (before ++ (name, child) :: after) :: back))
      (.array (front ++ .object (before ++ (name, child') :: after) :: back))

/-- The second node, at `path` like the first, is the first one with `more` appended to the list
`items` that is at `place`. -/
inductive Lengthened (items more : List Value) (place : Locator) :
    Role → Locator → Value → Value → Prop where
  | here {role : Role} (hasChildren : role.shape = .arrayOfObjects) :
    Lengthened items more place role place (.array items) (.array (items ++ more))
  | inChild {role inner : Role} {name : String} {path childPath : Locator}
      {child child' node node' : Value}
      (called : role.below name = some inner)
      (differs : Differs name child child' path childPath node node')
      (inside : Lengthened items more place inner childPath child child') :
    Lengthened items more place role path node node'

namespace Differs

variable {name : String} {child child' : Value}

theorem prefix_and_length (h : Differs name child child' path place node node') :
    path <+: place ∧ path.length < place.length := by
  cases h with
  | ofObject before after => exact ⟨List.prefix_append .., by simp [Locator.field]⟩
  | ofItem front back before after => exact ⟨path.prefix_entry _ name, by simp⟩

/-- The children of a node that repeats no field repeat none either. -/
theorem distinct (h : Differs name child child' path place node node') (hnode : node.Distinct) :
    child.Distinct := by
  have hmem : ∀ before after : Fields, (name, child) ∈ before ++ (name, child) :: after :=
    fun before after => List.mem_append_right _ List.mem_cons_self
  cases h with
  | ofObject before after =>
    obtain ⟨-, hvalues⟩ := Value.distinct_object_iff.mp hnode
    exact hvalues _ (hmem before after)
  | ofItem front back before after =>
    have hitem :=
      Value.distinct_array_iff.mp hnode _ (List.mem_append_right front List.mem_cons_self)
    obtain ⟨-, hvalues⟩ := Value.distinct_object_iff.mp hitem
    exact hvalues _ (hmem before after)

/-- Both nodes are refused for how they list their children, or they list the same but for one
value. -/
theorem children (h : Differs name child child' path place node node') (settings : Settings) :
    (∃ e, Document.children settings node path = .error e ∧
      Document.children settings node' path = .error e) ∨
    ∃ before after,
      Document.children settings node path = .ok (before ++ ⟨name, child, place⟩ :: after) ∧
      Document.children settings node' path =
        .ok (before ++ ⟨name, child', place⟩ :: after) := by
  cases h with
  | ofObject before after =>
    simp only [Document.children]
    cases settings.acceptObjectShape with
    | false => exact .inl ⟨_, rfl, rfl⟩
    | true =>
      refine .inr ⟨childrenOfFields path before, childrenOfFields path after, ?_, ?_⟩
      · simp [childrenOfFields]
      · simp [childrenOfFields]
  | ofItem front back before after =>
    simp only [Document.children, childrenOfItems_append, childrenOfItems]
    cases childrenOfItems path 0 front with
    | error e => exact .inl ⟨e, rfl, rfl⟩
    | ok first =>
      cases childrenOfItems path (0 + front.length + 1) back with
      | error e => exact .inl ⟨e, rfl, rfl⟩
      | ok last =>
        refine .inr ⟨first ++ childrenOfFields (path.item front.length) before,
          childrenOfFields (path.item front.length) after ++ last, ?_, ?_⟩
        · simp [childrenOfFields, Locator.entry, bind, Except.bind, pure, Except.pure]
        · simp [childrenOfFields, Locator.entry, bind, Except.bind, pure, Except.pure]

end Differs

/-- The array that is longer lies at or below the node. -/
theorem Lengthened.prefix_place (h : Lengthened items more place role path node node') :
    path <+: place := by
  induction h with
  | here => exact List.prefix_rfl
  | inChild _ differs _ ih => exact differs.prefix_and_length.1.trans ih

/-- A node with an array below it is one that the reader takes apart. -/
theorem Lengthened.hasChildren (h : Lengthened items more place role path node node') :
    role.shape = .arrayOfObjects := by
  cases h with
  | here hasChildren => exact hasChildren
  | inChild called =>
    rw [Role.below] at called
    cases role with
    | body | branch | group => rfl
    | condition | consumer =>
      cases hword : Statement.lookup _ with
      | none => rw [hword] at called; cases called
      | some statement => rw [hword] at called; cases statement <;> cases called

/-- A node with children takes up a level that is left, or there is none and nothing is read. -/
theorem budget_cases (role : Role) (budget : Nat) :
    (role.levels = 1 ∧ budget = 0) ∨ ∃ left, budget = left + role.levels := by
  have hle : role.levels ≤ 1 := by cases role <;> simp [Role.levels]
  by_cases henough : role.levels ≤ budget
  · exact .inr ⟨budget - role.levels, by omega⟩
  · exact .inl (by omega)

/-- An error below a child that was listed is the error of that child: those before it were taken
in, and it was not. -/
theorem exists_take_of_readNode (hshape : role.shape = .arrayOfObjects)
    (h : readNode engine (budget + role.levels) role node path = .error e)
    (hdistinct : node.Distinct) {before after : List Child} {child : Child}
    (hlist : children engine.settings node path = .ok (before ++ child :: after))
    (hdown : path.length < child.path.length) (hchild : child.path <+: e.path) :
    ∃ parts, before.foldlM (take engine budget role) {} = .ok parts ∧
      take engine budget role parts child = .error e := by
  obtain hrefused | ⟨cs, hcs, ⟨before', x, after', parts, hsplit, hbefore, htake⟩ |
      ⟨parts, hconclude⟩⟩ :=
    readNode_eq_error hshape h
  · rw [hlist] at hrefused
    cases hrefused
  · obtain rfl := Except.ok.inj (hlist.symm.trans hcs)
    have hx : x.path <+: e.path := errsBelow_take hshape (fun _ inner _ => errsBelow _ inner) htake
    obtain ⟨rfl, rfl, rfl⟩ := split_unique (apart_children hlist hdistinct) rfl hsplit hchild hx
    exact ⟨parts, hbefore, htake⟩
  · have hle := hchild.length_le
    rw [path_of_conclude hconclude] at hle
    exact absurd hdown (Nat.not_lt.mpr hle)

/-- **What the reader reports of a node in which a list is longer**, if there was an error in the
list. -/
theorem readNode_lengthened (h : Lengthened items more place role path node node')
    (hdistinct : node.Distinct) (hread : readNode engine budget role node path = .error e)
    (hin : InItems place items e) :
    ∃ e', readNode engine budget role node' path = .error e' ∧
      Reported place items more e e' := by
  have hlt := hin.length_lt
  induction h generalizing budget with
  | @here role hasChildren =>
    obtain ⟨hlevels, rfl⟩ | ⟨left, rfl⟩ := budget_cases role budget
    · rw [readNode_zero hlevels] at hread
      obtain rfl := Except.error.inj hread
      exact absurd hlt (Nat.lt_irrefl _)
    · exact readNode_append hasChildren hread hin more
  | @inChild role inner name path childPath child child' node node' called differs inside ih =>
    have hshape : role.shape = .arrayOfObjects :=
      (Lengthened.inChild called differs inside).hasChildren
    obtain ⟨-, hdown⟩ := differs.prefix_and_length
    have hplace := inside.prefix_place
    have hle := hplace.length_le
    have hchildPath : childPath <+: e.path := by
      obtain ⟨i, -, hprefix⟩ := hin
      exact hplace.trans ((place.prefix_item i).trans hprefix)
    -- The error is too far down to be about the node or one of its items.
    have hdeep : ∀ place', place'.length ≤ path.length + 1 → e.path ≠ place' := by
      rintro place' hshort rfl
      omega
    obtain ⟨hlevels, rfl⟩ | ⟨left, rfl⟩ := budget_cases role budget
    · rw [readNode_zero hlevels] at hread
      obtain rfl := Except.error.inj hread
      exact absurd rfl (hdeep path (Nat.le_succ _))
    obtain ⟨e'', hlist, -⟩ | ⟨before, after, hlist, hlist'⟩ :=
      differs.children engine.settings
    · rw [readNode_eq_visit hshape, hlist] at hread
      obtain rfl := Except.error.inj hread
      obtain hpath | ⟨items, i, -, -, hpath⟩ := path_of_children hlist
      · exact absurd hpath (hdeep path (Nat.le_succ _))
      · exact absurd hpath (hdeep _ (by simp [Locator.item]))
    obtain ⟨parts, hbefore, htake⟩ :=
      exists_take_of_readNode hshape hread hdistinct hlist hdown hchildPath
    cases told_take hshape parts name childPath with
    | refused problem refuses =>
      obtain rfl := Except.error.inj ((refuses child).symm.trans htake)
      exact absurd hlt (Nat.not_lt.mpr hle)
    | inner called' agrees =>
      obtain rfl := Option.some.inj (called.symm.trans called')
      obtain ⟨e', hread', hreported⟩ :=
        ih (differs.distinct hdistinct) ((agrees child e).mp htake)
      have htake' := (agrees child' e').mpr hread'
      exact ⟨e', readNode_of_take hshape hlist' hbefore htake', hreported⟩

/-- A body that is a list is refused for something in one of its items. -/
theorem inItems_of_readNode {body : Body}
    (h : readNode engine budget (.body body) (.array items) path = .error e) :
    InItems path items e := by
  have hnode : readNode engine (budget + (Role.body body).levels) (.body body) (.array items) path =
    .error e := h
  obtain hlist | ⟨cs, hcs, hvisit⟩ := readNode_eq_error rfl hnode
  · have hlist : childrenOfItems path 0 items = .error e := hlist
    obtain ⟨i, item, hitem, -, rfl⟩ := childrenOfItems_eq_error hlist
    obtain ⟨hlt, -⟩ := List.getElem?_eq_some_iff.mp hitem
    rw [Nat.zero_add]
    exact ⟨i, hlt, List.prefix_rfl⟩
  · obtain ⟨before, child, after, parts, rfl, -, htake⟩ | ⟨parts, hconclude⟩ := hvisit
    · have hcs : childrenOfItems path 0 items = .ok (before ++ child :: after) := hcs
      obtain ⟨i, -, hlt, hitem⟩ :=
        item_of_mem_childrenOfItems hcs (List.mem_append_right _ List.mem_cons_self)
      have hchild := errsBelow_take rfl (fun _ inner _ => errsBelow _ inner) htake
      exact ⟨i, by omega, hitem.trans hchild⟩
    · cases hconclude

end Document

variable {T : Type}

/-- A document is refused exactly when its root is. -/
theorem Engine.read_eq_error_iff {engine : Engine T} {document : Value} {e : Document.Error} :
    engine.read document = .error e ↔
      Document.readNode engine engine.settings.maxDepth (.body .root) document [] = .error e :=
  Document.map_eq_error_iff.trans Document.map_eq_error_iff.symm

/-- **Items that are appended to a list with an error in it hardly matter to what is reported.** For
a document that is a list, and for a list anywhere in a document, the reader reports the same error
exactly if an item was no object before, or if all appended items are objects. Otherwise it reports
the first appended item that is no object, although the reader came to the other error first. -/
theorem Engine.read_lengthened (engine : Engine T) (items more : List Value) :
    (∀ e, engine.read (.array items) = .error e →
      ∃ e', engine.read (.array (items ++ more)) = .error e' ∧
        Document.Reported [] items more e e' ∧
        (e' = e ↔ Document.KeepsError items more)) ∧
    ∀ place document document' e,
      Document.Lengthened items more place (.body .root) [] document document' →
      document.Distinct → engine.read document = .error e → Document.InItems place items e →
      ∃ e', engine.read document' = .error e' ∧ Document.Reported place items more e e' ∧
        (e' = e ↔ Document.KeepsError items more) := by
  refine ⟨fun e hread => ?_, fun place document document' e hlonger hdistinct hread hin => ?_⟩
  · have hroot := Engine.read_eq_error_iff.mp hread
    have hin := Document.inItems_of_readNode hroot
    have happend : Document.Role.shape (.body .root) = .arrayOfObjects := rfl
    obtain ⟨e', hread', hreported⟩ := Document.readNode_append happend hroot hin more
    exact ⟨e', Engine.read_eq_error_iff.mpr hread', hreported, hreported.eq_iff hin⟩
  · have hroot := Engine.read_eq_error_iff.mp hread
    obtain ⟨e', hread', hreported⟩ := Document.readNode_lengthened hlonger hdistinct hroot hin
    exact ⟨e', Engine.read_eq_error_iff.mpr hread', hreported, hreported.eq_iff hin⟩

/-- A condition that does not name its kind. -/
def Document.nameless : Value := .single "condition" (.object [])

/-- A branch on a group with these members. -/
def Document.onAllOf (members : List Value) : Value :=
  .array [.single "if" (.array [.single "allOf" (.array members), .single "then" .null])]

/-- Where the members of the group are. -/
def Document.allOfPlace : Locator := (Locator.entry [] 0 "if").entry 0 "allOf"

/-- A second condition without a kind is not reported, but a null behind the first one is. -/
theorem Engine.read_lengthened_nameless :
    ∃ e e', Builtin.engine.read (Document.onAllOf [Document.nameless]) = .error e ∧
      Builtin.engine.read (Document.onAllOf ([Document.nameless] ++ [Document.nameless])) =
        .error e ∧
      Builtin.engine.read (Document.onAllOf ([Document.nameless] ++ [.null])) = .error e' ∧
      e' ≠ e := by
  have hread : Builtin.engine.read (Document.onAllOf [Document.nameless]) =
      .error ⟨.missingDiscriminator "type", Document.allOfPlace.entry 0 "condition"⟩ := rfl
  have hlonger :
    ∀ more, Document.Lengthened [Document.nameless] more Document.allOfPlace (.body .root) []
      (Document.onAllOf [Document.nameless]) (Document.onAllOf ([Document.nameless] ++ more)) :=
        fun more =>
    .inChild rfl (.ofItem [] [] [] [])
      (.inChild rfl (.ofItem [] [.single "then" .null] [] []) (.here rfl))
  have hdistinct : (Document.onAllOf [Document.nameless]).Distinct := by
    simp [Document.onAllOf, Document.nameless, Value.single, Value.Distinct, Value.DistinctItems,
      Value.DistinctFields, Fields.names]
  have hin : Document.InItems Document.allOfPlace [Document.nameless]
      ⟨.missingDiscriminator "type", Document.allOfPlace.entry 0 "condition"⟩ :=
    ⟨0, by decide, Locator.item_prefix_entry ..⟩
  obtain ⟨e, hsame, -, hkeeps⟩ :=
    (Engine.read_lengthened Builtin.engine _ [Document.nameless]).2 _ _ _ _
    (hlonger _) hdistinct hread hin
  obtain ⟨e', hother, -, hchanges⟩ :=
    (Engine.read_lengthened Builtin.engine _ [.null]).2 _ _ _ _ (hlonger _) hdistinct hread hin
  obtain rfl := hkeeps.mpr (.inr (by simp [Document.nameless, Value.single, Value.kind]))
  refine ⟨_, e', hread, hsame, hother, fun heq => ?_⟩
  have hnot := hchanges.mp heq
  simp [Document.KeepsError, Document.nameless, Value.single, Value.kind] at hnot

/-- A `then` in the root body is reported until a null is appended behind it. -/
theorem Engine.read_append_null_ne :
    ∃ e e', Builtin.engine.read (.array [Document.thenInBody]) = .error e ∧
      e.problem = .misplacedStatement .thenBody .root ∧ e.path.text = "$[0].then" ∧
      Builtin.engine.read (.array ([Document.thenInBody] ++ [.null])) = .error e' ∧
      e'.problem = .invalidNode .object .null ∧ e'.path.text = "$[1]" ∧ e ≠ e' := by
  have hread : Builtin.engine.read (.array [Document.thenInBody]) = .error _ := rfl
  have hlonger : Builtin.engine.read (.array ([Document.thenInBody] ++ [.null])) = .error _ := rfl
  refine ⟨_, _, hread, rfl, by decide, hlonger, rfl, by decide, fun heq => ?_⟩
  cases congrArg Document.Error.problem heq

end DecisionFlow
