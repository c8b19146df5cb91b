import DecisionFlow.Proofs.Text.Runs
import DecisionFlow.Trace
import Mathlib.Data.List.Nodup

/-!
# Locators

How the places of one document lie to each other: below one another, beside one another, one before
the other.

- `Locator.item_prefix_inj`, `Branch.bodyPath_prefix_inj`: a place lies below one item of an array
  only, and in one side of a branch only.
- `Locator.Plain`, `Locator.text_inj`: the written form tells places apart if no name of a field has
  a character that locators are written with.
- `Value.locators`: all places of a document, in document order.
-/

namespace DecisionFlow

/-! ## Below and beside -/

namespace Locator

theorem item_prefix_entry (path : Locator) (i : Nat) (name : String) :
    path.item i <+: path.entry i name :=
  List.prefix_append ..

theorem prefix_item (path : Locator) (i : Nat) : path <+: path.item i := List.prefix_append ..

/-- An entry is below its node. -/
theorem prefix_entry (path : Locator) (i : Nat) (name : String) : path <+: path.entry i name :=
  (prefix_item path i).trans (item_prefix_entry path i name)

/-- An entry is two parts further down: its item and its name. -/
@[simp] theorem length_entry (path : Locator) (i : Nat) (name : String) :
    (path.entry i name).length = path.length + 2 := by simp [entry, item, field]

/-- A place lies below one item of an array only. -/
theorem item_prefix_inj {path place : Locator} {i j : Nat} (hi : path.item i <+: place)
    (hj : path.item j <+: place) : i = j := by
  obtain ⟨rest, rfl⟩ := hi
  obtain ⟨rest', h⟩ := hj
  rw [item, item, List.append_assoc, List.append_assoc, List.append_cancel_left_eq] at h
  have hhead := (List.cons.inj h).1
  exact (Part.index.inj hhead).symm

end Locator

/-- The body of a side is below the branch. -/
theorem Branch.prefix_bodyPath (path : Locator) (takeThen : Bool) :
    path <+: Branch.bodyPath path takeThen := by
  cases takeThen <;> exact path.prefix_entry ..

/-- The sides of a branch are entries of it. -/
theorem Branch.length_bodyPath (path : Locator) (takeThen : Bool) :
    (Branch.bodyPath path takeThen).length = path.length + 2 := by
  cases takeThen <;> exact path.length_entry ..

/-- A place lies in one side of a branch only. -/
theorem Branch.bodyPath_prefix_inj {path place : Locator} {takeThen takeThen' : Bool}
    (h : Branch.bodyPath path takeThen <+: place) (h' : Branch.bodyPath path takeThen' <+: place) :
    takeThen = takeThen' := by
  have hitem : ∀ {side : Bool}, Branch.bodyPath path side <+: place →
      path.item (if side then 1 else 2) <+: place := by
    intro side hside
    refine List.IsPrefix.trans ?_ hside
    cases side <;> exact path.item_prefix_entry ..
  have hindex := Locator.item_prefix_inj (hitem h) (hitem h')
  cases takeThen <;> cases takeThen' <;> first | rfl | cases hindex

/-! ## The written form -/

namespace Locator

/-- Whether a character sets no step of a locator apart from the one before. -/
def isPlain (c : Char) : Bool := c != '.' && c != '['

/-- A locator whose field names have none of the characters that set its steps apart. -/
def Plain (path : Locator) : Prop :=
  ∀ name, .field name ∈ path → ∀ c ∈ name.toList, isPlain c = true

theorem plain_nil : Plain [] := fun _ h => nomatch h

/-- Entries with plain names have plain places, if their node has one. -/
theorem Plain.entry {path : Locator} (h : path.Plain) (i : Nat) {name : String}
    (hname : ∀ c ∈ name.toList, isPlain c = true) : (path.entry i name).Plain := by
  intro name' hmem
  simp only [Locator.entry, item, field, List.append_assoc, List.mem_append, List.mem_singleton,
    reduceCtorEq, false_or, Part.field.injEq] at hmem
  obtain hmem | rfl := hmem
  · exact h name' hmem
  · exact hname

/-- The characters of a locator after the root. -/
def chars (path : Locator) : List Char := path.flatMap (·.text.toList)

theorem toList_text (path : Locator) : path.text.toList = '$' :: path.chars := by
  have hfold : ∀ (path : Locator) (start : String),
      (path.foldl (fun written part => written ++ part.text) start).toList
        = start.toList ++ path.chars := by
    intro path
    induction path with
    | nil => simp [chars]
    | cons part rest ih => intro start; simp [ih, chars]
  exact hfold path "$"

/-- An index is written in brackets. -/
theorem chars_cons_index (i : Nat) (rest : Locator) :
    chars (.index i :: rest) = '[' :: (Nat.toDigits 10 i ++ ']' :: rest.chars) := by
  simp [chars, Part.text]

/-- A name is written after a dot. -/
theorem chars_cons_field (name : String) (rest : Locator) :
    chars (.field name :: rest) = '.' :: (name.toList ++ rest.chars) := by
  simp [chars, Part.text]

/-- What follows a field name begins a step of its own. -/
theorem ends_chars (path : Locator) : Text.Ends isPlain path.chars := by
  cases path with
  | nil => exact Text.ends_nil
  | cons part rest =>
    cases part with
    | index i => rw [chars_cons_index]; exact Text.ends_cons (by decide)
    | field name => rw [chars_cons_field]; exact Text.ends_cons (by decide)

/-- Numbers are told apart by their digits. -/
theorem toDigits_inj {i j : Nat} (h : Nat.toDigits 10 i = Nat.toDigits 10 j) : i = j := by
  have hread := congrArg (fun digits => Nat.ofDigitChars 10 digits 0) h
  simpa only [Nat.ofDigitChars_ten_toDigits] using hread

/-- No digit ends an index. -/
theorem ne_bracket_of_mem_toDigits {i : Nat} : ∀ c ∈ Nat.toDigits 10 i, (c != ']') = true := by
  intro c hc
  have hdigit := Nat.isDigit_of_mem_toDigits (by decide) (by decide) hc
  have hne : c ≠ ']' := by
    rintro rfl
    exact absurd hdigit (by decide)
  simpa using hne

/-- Plain places are told apart by their characters. -/
theorem chars_inj {path path' : Locator} (h : path.Plain) (h' : path'.Plain)
    (heq : path.chars = path'.chars) : path = path' := by
  induction path generalizing path' with
  | nil =>
    match path' with
    | [] => rfl
    | .index j :: rest' => rw [chars_cons_index] at heq; cases heq
    | .field name' :: rest' => rw [chars_cons_field] at heq; cases heq
  | cons part rest ih =>
    have hrest : Plain rest := fun name hname => h name (List.mem_cons_of_mem _ hname)
    match part, path' with
    | .index i, [] => rw [chars_cons_index] at heq; cases heq
    | .field name, [] => rw [chars_cons_field] at heq; cases heq
    | .index i, .field name' :: rest' =>
      rw [chars_cons_index, chars_cons_field] at heq
      exact absurd (List.cons.inj heq).1 (by decide)
    | .field name, .index j :: rest' =>
      rw [chars_cons_field, chars_cons_index] at heq
      exact absurd (List.cons.inj heq).1 (by decide)
    | .index i, .index j :: rest' =>
      rw [chars_cons_index, chars_cons_index] at heq
      -- Both numbers end at the bracket.
      obtain ⟨hdigits, htail⟩ :=
        Text.run_inj ne_bracket_of_mem_toDigits ne_bracket_of_mem_toDigits
        (Text.ends_cons rfl) (Text.ends_cons rfl) (List.cons.inj heq).2
      have hrest' : Plain rest' := fun name hname => h' name (List.mem_cons_of_mem _ hname)
      rw [toDigits_inj hdigits, ih hrest hrest' (List.cons.inj htail).2]
    | .field name, .field name' :: rest' =>
      rw [chars_cons_field, chars_cons_field] at heq
      -- Both names end where the next step begins.
      obtain ⟨hname, htail⟩ :=
        Text.run_inj (h name List.mem_cons_self) (h' name' List.mem_cons_self)
        (ends_chars rest) (ends_chars rest') (List.cons.inj heq).2
      have hrest' : Plain rest' := fun name hname => h' name (List.mem_cons_of_mem _ hname)
      rw [String.toList_injective hname, ih hrest hrest' htail]

/-- **The written form tells plain locators apart.** -/
theorem text_inj {path path' : Locator} (h : path.Plain) (h' : path'.Plain)
    (heq : path.text = path'.text) : path = path' := by
  have hchars := congrArg String.toList heq
  rw [toList_text, toList_text] at hchars
  exact chars_inj h h' (List.cons.inj hchars).2

/-- So the texts of different places are different. -/
theorem nodup_map_text {paths : List Locator} (hplain : ∀ path ∈ paths, path.Plain)
    (h : paths.Nodup) : (paths.map text).Nodup :=
  List.Nodup.map_on
    (fun path hpath path' hpath' heq => text_inj (hplain path hpath) (hplain path' hpath') heq) h

end Locator

/-! ## Document order -/

namespace Value

mutual

/-- The places in a value that is at `path`, the place of the value first and the others in the
order of items and fields. -/
def locatorsAt (path : Locator) : Value → List Locator
  | .array items => path :: locatorsOfItems path 0 items
  | .object fields => path :: locatorsOfFields path fields
  | _ => [path]

/-- The places in items, the first being item `index` of the array at `path`. -/
def locatorsOfItems (path : Locator) (index : Nat) : List Value → List Locator
  | [] => []
  | item :: rest => locatorsAt (path.item index) item ++ locatorsOfItems path (index + 1) rest

/-- The places in fields of the object at `path`. -/
def locatorsOfFields (path : Locator) : List (String × Value) → List Locator
  | [] => []
  | (name, value) :: rest => locatorsAt (path.field name) value ++ locatorsOfFields path rest

end

/-- All places of a document, in document order: each node before the nodes below it. -/
def locators (document : Value) : List Locator := locatorsAt [] document

end Value

end DecisionFlow
