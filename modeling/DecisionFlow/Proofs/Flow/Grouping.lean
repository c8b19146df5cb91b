import DecisionFlow.Condition

/-!
# How groups are decided

Testing a group takes the outcomes of its members in order and keeps the first one that ends the
test. The outcomes, failures among them, form a monoid under this choice, and a group is the product
of its members.

- `Settles`: an outcome that ends the test of a group, by a failure or by the result that decides
  it.
- `settled`: the first of two outcomes if it ends the test, or else the second.
- `Condition.test_group_append`: a group of two lists of members is settled by the groups of each.
- `Condition.test_eq_of_settles`: the members after the first that settles a group have no
  influence.
- `Condition.Spliced`, `Condition.test_eq_of_spliced`: a group inside one of its own kind can be
  replaced by its members, at any depth.
- `Condition.first_decides_and_splicing_keeps`: **the first member that settles a group decides
  it**, and splicing groups changes neither results nor failures.
-/

namespace DecisionFlow

/-! ## Outcomes -/

/-- The outcome of a member ends the test of its group: it is a failure, or the
result looked for. -/
def Settles (any : Bool) : Except Failure Bool → Prop
  | .error _ => True
  | .ok result => result = any

instance (any : Bool) : DecidablePred (Settles any)
  | .error _ => inferInstanceAs (Decidable True)
  | .ok result => inferInstanceAs (Decidable (result = any))

/-- The outcome of a test that has come to this outcome, and that goes on to the next
if it has to. -/
def settled (any : Bool) (outcome next : Except Failure Bool) : Except Failure Bool :=
  if Settles any outcome then outcome else next

section Outcomes

variable {any : Bool} {outcome : Except Failure Bool}

/-- There is one outcome that leaves a group open: the result that does not decide it. -/
theorem not_settles_iff : ¬Settles any outcome ↔ outcome = .ok (!any) := by
  cases outcome with
  | error failure => simp [Settles]
  | ok result => cases result <;> cases any <;> simp [Settles]

/-- A settled outcome stands, whatever comes next. -/
theorem settled_of_settles (h : Settles any outcome) (next : Except Failure Bool) :
    settled any outcome next = outcome := if_pos h

/-- An open outcome leaves it to what comes next. -/
theorem settled_of_not_settles (h : ¬Settles any outcome) (next : Except Failure Bool) :
    settled any outcome next = next := if_neg h

@[simp] theorem settled_open (any : Bool) (next : Except Failure Bool) :
    settled any (.ok !any) next = next := by
  have hopen : ¬Settles any (.ok !any) := not_settles_iff.mpr rfl
  exact settled_of_not_settles hopen next

/-- It does not matter how members are grouped. -/
theorem settled_assoc (any : Bool) (first second third : Except Failure Bool) :
    settled any (settled any first second) third =
      settled any first (settled any second third) := by
  by_cases hfirst : Settles any first
  · rw [settled_of_settles hfirst, settled_of_settles hfirst, settled_of_settles hfirst]
  · rw [settled_of_not_settles hfirst, settled_of_not_settles hfirst]

end Outcomes

namespace Condition

variable {T : Type} {any : Bool}

/-! ## Groups of several members -/

theorem test_group_cons_eq_settled (member : Condition T) (rest : List (Condition T))
    (payload : T) :
    (group any (member :: rest)).test payload =
      settled any (member.test payload) ((group any rest).test payload) := by
  rw [test_group_cons]
  cases member.test payload with
  | error failure => simp [settled, Settles]
  | ok result =>
    by_cases hresult : result = any
    · simp [settled, Settles, hresult]
    · simp [settled, Settles, hresult]

/-- A group is tested in two parts, one after the other. -/
theorem test_group_append (before after : List (Condition T)) (payload : T) :
    (group any (before ++ after)).test payload =
      settled any ((group any before).test payload) ((group any after).test payload) := by
  induction before with
  | nil => rw [List.nil_append, test_group_nil, settled_open]
  | cons member rest ih =>
    rw [List.cons_append, test_group_cons_eq_settled, test_group_cons_eq_settled, ih, settled_assoc]

/-- A group has the opposite result if it is left open by every member. -/
theorem test_group_of_open {members : List (Condition T)} {payload : T}
    (h : ∀ member ∈ members, member.test payload = .ok !any) :
    (group any members).test payload = .ok !any := by
  induction members with
  | nil => exact test_group_nil any payload
  | cons member rest ih =>
    obtain ⟨hmember, hrest⟩ := List.forall_mem_cons.mp h
    rw [test_group_cons_eq_settled, hmember, settled_open, ih hrest]

/-- The first member that settles a group decides it, whatever comes after. -/
theorem test_eq_of_settles {before : List (Condition T)} {member : Condition T} {payload : T}
    (hbefore : ∀ other ∈ before, other.test payload = .ok !any)
    (h : Settles any (member.test payload)) (after : List (Condition T)) :
    (group any (before ++ member :: after)).test payload = member.test payload := by
  rw [test_group_append, test_group_of_open hbefore, settled_open, test_group_cons_eq_settled,
    settled_of_settles h]

/-- Either every member leaves the group open, or there is a first one that settles it. -/
theorem open_or_first_settles (any : Bool) (members : List (Condition T)) (payload : T) :
    (∀ member ∈ members, member.test payload = .ok !any) ∨
      ∃ before member after, members = before ++ member :: after ∧
        (∀ other ∈ before, other.test payload = .ok !any) ∧
        Settles any (member.test payload) := by
  induction members with
  | nil => exact .inl (List.forall_mem_nil _)
  | cons first rest ih =>
    by_cases hfirst : Settles any (first.test payload)
    · exact .inr ⟨[], first, rest, rfl, List.forall_mem_nil _, hfirst⟩
    · have hopen := not_settles_iff.mp hfirst
      obtain hall | ⟨before, member, after, rfl, hbefore, hmember⟩ := ih
      · exact .inl (List.forall_mem_cons.mpr ⟨hopen, hall⟩)
      · exact .inr ⟨first :: before, member, after, rfl,
          List.forall_mem_cons.mpr ⟨hopen, hbefore⟩, hmember⟩

/-! ## Splicing -/

/-- The second condition is the first one with a group, somewhere directly in a group of the same
kind, replaced by its members. -/
inductive Spliced : Condition T → Condition T → Prop where
  | here (any : Bool) (before inner after : List (Condition T)) :
    Spliced (group any (before ++ group any inner :: after))
      (group any (before ++ (inner ++ after)))
  | inside (any : Bool) (before after : List (Condition T)) {member member' : Condition T}
    (h : Spliced member member') :
    Spliced (group any (before ++ member :: after)) (group any (before ++ member' :: after))

/-- A group does not tell apart members with the same outcome. -/
theorem test_group_congr {member member' : Condition T} {payload : T}
    (h : member'.test payload = member.test payload) (before after : List (Condition T)) :
    (group any (before ++ member' :: after)).test payload =
      (group any (before ++ member :: after)).test payload := by
  rw [test_group_append, test_group_append, test_group_cons_eq_settled, test_group_cons_eq_settled,
    h]

/-- A group may be replaced by its members wherever it is a member of a group of its kind. -/
theorem test_eq_of_spliced {condition condition' : Condition T} (h : Spliced condition condition')
    (payload : T) : condition'.test payload = condition.test payload := by
  induction h with
  | here any before inner after =>
    rw [test_group_append, test_group_append, test_group_append, test_group_cons_eq_settled]
  | inside any before after _ ih => exact test_group_congr ih before after

/-! ## The whole -/

/-- **The first member that settles a group decides it.** If there is none, the group has the result
that none of its members decides on. The members after it may be any others. And at any depth, a
group inside one of its own kind stands for its members. -/
theorem first_decides_and_splicing_keeps (payload : T) :
    (∀ (any : Bool) (members : List (Condition T)),
      ((∀ member ∈ members, member.test payload = .ok !any) ∧
        (group any members).test payload = .ok !any) ∨
      ∃ before member after, members = before ++ member :: after ∧
        (∀ other ∈ before, other.test payload = .ok !any) ∧
        Settles any (member.test payload) ∧
        ∀ others, (group any (before ++ member :: others)).test payload = member.test payload) ∧
    ∀ condition condition' : Condition T, Spliced condition condition' →
      condition'.test payload = condition.test payload := by
  refine ⟨fun any members => ?_, fun _ _ h => test_eq_of_spliced h payload⟩
  obtain hopen | ⟨before, member, after, hmembers, hbefore, hmember⟩ :=
    open_or_first_settles any members payload
  · exact .inl ⟨hopen, test_group_of_open hopen⟩
  · exact .inr ⟨before, member, after, hmembers, hbefore, hmember,
      test_eq_of_settles hbefore hmember⟩

/-- A predicate with a fixed outcome. -/
def fixed (outcome : Except Failure Bool) : Condition Unit :=
  .predicate ⟨"fixed", [], fun _ => outcome⟩

/-- A failing member of an inner group still fails the whole once the inner group is dissolved. -/
theorem failing_member_spliced :
    (allOf [anyOf [fixed (.ok false), fixed (.error (.stated "no")), fixed (.ok true)]]).test () =
      (allOf
        [anyOf [fixed (.ok false), anyOf [fixed (.error (.stated "no"))],
          fixed (.ok true)]]).test () :=
  (first_decides_and_splicing_keeps ()).2 _ _
    (.inside false [] []
      (.here true [fixed (.ok false)] [fixed (.error (.stated "no"))] [fixed (.ok true)]))

end Condition

end DecisionFlow
