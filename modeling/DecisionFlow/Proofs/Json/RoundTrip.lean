import DecisionFlow.Proofs.Json.Numbers
import DecisionFlow.Proofs.Json.Strings
import Mathlib.Data.List.DropRight

/-!
# JSON that is read back

A value is read back from its text over several lines, if its floats are read back from their texts
and it does not nest too deeply. A value that nests too deeply is refused for that reason.

- `Json.lines`: elements on lines of their own, with commas between them.
- `Json.bracketed_lines`: they are read back between brackets.
- `Value.ReadsBack`: values whose floats are read back.
- `Json.value_prettyChars`, `Json.parse_pretty`: what becomes of the text of a value.
-/

namespace DecisionFlow.Json

open Text (Ends)

variable {α : Type} {close : Char} {level : Nat} {more : List Char}

/-! ## Limited depth -/

/-- Something is read if it is not too deep. -/
def limited (fits : Bool) (a : α) (rest : List Char) : Except SyntaxError (α × List Char) :=
  if fits then .ok (a, rest) else .error .tooDeep

/-- What is made of a value within the limit is made within the limit. -/
theorem limited_map {β : Type} (fits : Bool) (a : α) (rest : List Char) (f : α → β) :
    (do let (a, rest) ← limited fits a rest; return (f a, rest)) = limited fits (f a) rest := by
  cases fits <;> rfl

/-! ## Lines -/

/-- A line break with its indentation is skipped. -/
theorem skipSpace_newline (chars : List Char) :
    skipSpace (newline level ++ chars) = skipSpace chars := by
  have hspaces : ∀ count, skipSpace (List.replicate count ' ' ++ chars) = skipSpace chars := by
    intro count
    induction count with
    | zero => rfl
    | succ count ih =>
      rw [List.replicate_succ, List.cons_append, skipSpace, List.dropWhile_cons, if_pos (by decide)]
      exact ih
  rw [newline, List.cons_append, skipSpace, List.dropWhile_cons, if_pos (by decide)]
  exact hspaces _

/-- Nothing is skipped before a token. -/
theorem skipSpace_cons {c : Char} {rest : List Char} (h : isSpace c = false) :
    skipSpace (c :: rest) = c :: rest := by
  rw [skipSpace, List.dropWhile_cons, h, if_neg Bool.false_ne_true]

/-- Nothing is left to be skipped a second time. -/
theorem skipSpace_idem (chars : List Char) : skipSpace (skipSpace chars) = skipSpace chars :=
  List.dropWhile_idempotent ..

/-- Elements on lines of their own, with commas between them. -/
def lines (level : Nat) (element : α → List Char) : List α → List Char
  | [] => []
  | [a] => newline level ++ element a
  | a :: rest => newline level ++ element a ++ ',' :: lines level element rest

/-- Items are written on lines of their own. -/
theorem prettyItems_eq_lines (items : List Value) :
    prettyItems level items = lines level (prettyChars level) items := by
  induction items with
  | nil => rfl
  | cons item rest ih =>
    cases rest with
    | nil => rfl
    | cons next rest => simp only [prettyItems, lines, ih]

/-- A name and a value on one line. -/
def fieldChars (level : Nat) (field : String × Value) : List Char :=
  stringChars field.1 ++ [':', ' '] ++ prettyChars level field.2

/-- So are fields. -/
theorem prettyFields_eq_lines (fields : Fields) :
    prettyFields level fields = lines level (fieldChars level) fields := by
  induction fields with
  | nil => rfl
  | cons field rest ih =>
    cases rest with
    | nil => simp only [prettyFields, lines, fieldChars, List.append_assoc]
    | cons next rest => simp only [prettyFields, lines, fieldChars, ih, List.append_assoc]

/-- A reader of elements that are written in one way. White space in front does not count, and an
element that does not fit is refused as too deep. -/
structure Element (read : Reader α) (write : α → List Char) (fits : α → Bool) (a : α) :
    Prop where
  reads : ∀ more, Ends isNumeral more → read (write a ++ more) = limited (fits a) a more
  head : ∃ c tail, skipSpace (write a) = c :: tail ∧ c ≠ ']' ∧ c ≠ '}'

section Lines

variable {read : Reader α} {write : α → List Char} {fits : α → Bool}

/-- A number ends where a line does. -/
theorem ends_newline : Ends isNumeral (newline level ++ more) := Text.ends_cons (by decide)

theorem elements_skipSpace (hspace : ∀ chars, read (skipSpace chars) = read chars) (fuel : Nat)
    (chars : List Char) :
    elements close read fuel (skipSpace chars) = elements close read fuel chars := by
  cases fuel with
  | zero => rw [elements, elements]
  | succ fuel => rw [elements, elements, hspace]

/-- A reader that skips white space reads on after a line break. -/
theorem read_newline (hspace : ∀ chars, read (skipSpace chars) = read chars) (chars : List Char) :
    read (newline level ++ chars) = read chars := by
  rw [← hspace, skipSpace_newline, hspace]

/-- The last element before the bracket. -/
theorem elements_last (outer : Nat) {fuel : Nat} (hclose : close = ']' ∨ close = '}')
    {chars : List Char} {a : α} {fit : Bool}
    (h : read chars = limited fit a (newline outer ++ close :: more)) :
    elements close read (fuel + 1) chars = limited fit [a] more := by
  rw [elements, h]
  cases fit with
  | false => rfl
  | true =>
    have hnext : skipSpace (newline outer ++ close :: more) = close :: more := by
      rw [skipSpace_newline]
      obtain rfl | rfl := hclose
      · rfl
      · rfl
    simp only [limited, ↓reduceIte, bind, Except.bind, hnext]
    obtain rfl | rfl := hclose
    · rfl
    · rfl

/-- An element before others. -/
theorem elements_comma {fuel : Nat} {chars rest : List Char} {a : α} {others : List α}
    {fit fits : Bool} (h : read chars = limited fit a (',' :: rest))
    (hrest : elements close read fuel rest = limited fits others more) :
    elements close read (fuel + 1) chars = limited (fit && fits) (a :: others) more := by
  rw [elements, h]
  cases fit with
  | false => rfl
  | true =>
    have hnext : skipSpace (',' :: rest) = ',' :: rest := rfl
    simp only [limited, ↓reduceIte, bind, Except.bind, hnext, hrest]
    cases fits <;> rfl

/-- Elements are read back up to the bracket, unless one of them does not fit. -/
theorem elements_lines {outer fuel : Nat} (hspace : ∀ chars, read (skipSpace chars) = read chars)
    (hclose : close = ']' ∨ close = '}') {items : List α} (hne : items ≠ [])
    (hitems : ∀ a ∈ items, Element read write fits a) (hfuel : items.length ≤ fuel) :
    elements close read fuel (lines level write items ++ newline outer ++ close :: more)
      = limited (items.all fits) items more := by
  induction items generalizing fuel with
  | nil => exact absurd rfl hne
  | cons a rest ih =>
    obtain ⟨ha, hrest⟩ := List.forall_mem_cons.mp hitems
    rw [List.length_cons] at hfuel
    obtain ⟨fuel, rfl⟩ : ∃ k, fuel = k + 1 := ⟨fuel - 1, by omega⟩
    cases rest with
    | nil =>
      rw [List.all_cons, List.all_nil, Bool.and_true]
      refine elements_last outer hclose ?_
      rw [lines, List.append_assoc, List.append_assoc, read_newline hspace]
      exact ha.reads _ ends_newline
    | cons next rest =>
      rw [List.all_cons]
      refine elements_comma ?_ (ih (List.cons_ne_nil _ _) hrest (by omega))
      have htext : lines level write (a :: next :: rest) ++ newline outer ++ close :: more
          = newline level ++ (write a
            ++ ',' :: (lines level write (next :: rest) ++ newline outer ++ close :: more)) := by
        simp only [lines, List.append_assoc, List.cons_append]
      -- The comma ends the element, even if that is a number.
      rw [htext, read_newline hspace]
      exact ha.reads _ (Text.ends_cons (by decide))

/-- Every item takes up a character at least, so there is fuel for all of them. -/
theorem length_le_length_lines (items : List α) :
    items.length ≤ (lines level write items).length := by
  induction items with
  | nil => exact Nat.zero_le _
  | cons a rest ih =>
    cases rest with
    | nil =>
      simp only [lines, newline, List.length_append, List.length_cons, List.length_nil]
      omega
    | cons next rest =>
      simp only [lines, newline, List.length_append, List.length_cons] at ih ⊢
      omega

/-- Lines begin with a line break and the first item. -/
theorem exists_lines_cons (a : α) (rest : List α) :
    ∃ after, lines level write (a :: rest) = newline level ++ (write a ++ after) := by
  cases rest with
  | nil => exact ⟨[], by rw [lines, List.append_nil]⟩
  | cons next rest => exact ⟨_, by rw [lines, List.append_assoc]; exact List.cons_ne_nil _ _⟩

/-- **Elements are read back between brackets**, unless one of them does not fit. -/
theorem bracketed_lines {outer : Nat} (hspace : ∀ chars, read (skipSpace chars) = read chars)
    (hclose : close = ']' ∨ close = '}') {items : List α} (hne : items ≠ [])
    (hitems : ∀ a ∈ items, Element read write fits a) :
    bracketed close read (lines level write items ++ newline outer ++ close :: more)
      = limited (items.all fits) items more := by
  have hhead : ∃ c tail, skipSpace (lines level write items ++ newline outer ++ close :: more)
      = c :: tail ∧ c ≠ close := by
    obtain ⟨a, rest, rfl⟩ := List.exists_cons_of_ne_nil hne
    obtain ⟨c, tail, hc, hbracket, hbrace⟩ := (hitems a List.mem_cons_self).head
    obtain ⟨after, hlines⟩ := @exists_lines_cons _ level write a rest
    have hnonempty : skipSpace (write a) ≠ [] := by
      rw [hc]
      exact List.cons_ne_nil _ _
    -- The first element is what comes first, and it does not begin with a bracket that closes.
    refine ⟨c, tail ++ (after ++ (newline outer ++ close :: more)), ?_, ?_⟩
    · rw [hlines]
      simp only [List.append_assoc]
      rw [skipSpace_newline, skipSpace_append hnonempty, hc, List.cons_append]
    · obtain rfl | rfl := hclose
      · exact hbracket
      · exact hbrace
  obtain ⟨c, tail, hchars, hc⟩ := hhead
  have hlength := @length_le_length_lines _ level write items
  rw [bracketed, hchars]
  dsimp only
  rw [if_neg hc, ← hchars, elements_skipSpace hspace]
  refine elements_lines hspace hclose hne hitems ?_
  rw [List.length_append, List.length_append]
  omega

end Lines

end DecisionFlow.Json

namespace DecisionFlow

/-! ## Floats in a value -/

namespace Value

mutual

/-- The floats in a value, in order. -/
def floats : Value → List Float
  | .number (.float x) => [x]
  | .array items => floatsOfItems items
  | .object fields => floatsOfFields fields
  | _ => []

/-- The floats in items. -/
def floatsOfItems : List Value → List Float
  | [] => []
  | item :: rest => item.floats ++ floatsOfItems rest

/-- The floats in the values of fields. -/
def floatsOfFields : List (String × Value) → List Float
  | [] => []
  | (_, value) :: rest => value.floats ++ floatsOfFields rest

end

/-- A value whose floats are read back from their texts. -/
def ReadsBack (v : Value) : Prop := ∀ x ∈ v.floats, Number.ReadsBack (.float x)

/-- An array reads back if all its items do. -/
theorem readsBack_array_iff {items : List Value} :
    ReadsBack (.array items) ↔ ∀ item ∈ items, item.ReadsBack := by
  rw [ReadsBack, floats]
  induction items with
  | nil => simp [floatsOfItems]
  | cons item rest ih =>
    rw [floatsOfItems, List.forall_mem_append, ih, List.forall_mem_cons]
    rfl

/-- An object reads back if all its values do. -/
theorem readsBack_object_iff {fields : Fields} :
    ReadsBack (.object fields) ↔ ∀ field ∈ fields, field.2.ReadsBack := by
  rw [ReadsBack, floats]
  induction fields with
  | nil => simp [floatsOfFields]
  | cons field rest ih =>
    rw [floatsOfFields, List.forall_mem_append, ih, List.forall_mem_cons]
    rfl

theorem readsBack_number {n : Number} (h : ReadsBack (.number n)) : n.ReadsBack := by
  cases n with
  | int n hrange => exact Number.readsBack_int n hrange
  | float x => exact h x (by rw [floats]; exact List.mem_singleton_self x)

/-- Items are within a limit one by one. -/
theorem depthItems_le_iff {items : List Value} {limit : Nat} :
    depthItems items ≤ limit ↔
      items.all (fun item => decide (item.depth ≤ limit)) = true := by
  induction items with
  | nil => simp [depthItems]
  | cons item rest ih => rw [depthItems, Nat.max_le, ih, List.all_cons]; simp

theorem depthFields_le_iff {fields : Fields} {limit : Nat} :
    depthFields fields ≤ limit ↔
      fields.all (fun field => decide (field.2.depth ≤ limit)) = true := by
  induction fields with
  | nil => simp [depthFields]
  | cons field rest ih => rw [depthFields, Nat.max_le, ih, List.all_cons]; simp

end Value

namespace Json

open Text (Ends)

variable {depth : Nat} {more : List Char}

/-! ## Values -/

/-- White space before a value does not matter. -/
theorem value_skipSpace (chars : List Char) :
    value depth (skipSpace chars) = value depth chars := by
  unfold value
  rw [skipSpace_idem]

theorem field_skipSpace {read : Reader Value} (chars : List Char) :
    field read (skipSpace chars) = field read chars := by
  unfold field
  rw [skipSpace_idem]

theorem value_of_quote {rest : List Char} :
    value depth ('"' :: rest) = do
      let (s, rest) ← string rest
      return (.text s, rest) := by
  cases depth <;> rfl

/-- After an opening bracket, an array is read with one level less. -/
theorem value_of_bracket {rest : List Char} :
    value (depth + 1) ('[' :: rest) = do
      let (items, rest) ← bracketed ']' (value depth) rest
      return (.array items, rest) := rfl

/-- After an opening brace, an object is read with one level less. -/
theorem value_of_brace {rest : List Char} :
    value (depth + 1) ('{' :: rest) = do
      let (fields, rest) ← bracketed '}' (field (value depth)) rest
      return (.object fields, rest) := rfl

/-- A field is read from its name, a colon and its value. -/
theorem field_of_quote {read : Reader Value} {name : String} {rest after : List Char}
    (h : string rest = .ok (name, ':' :: after)) :
    field read ('"' :: rest) = do
      let (v, rest) ← read after
      return ((name, v), rest) := by
  have hquote : skipSpace ('"' :: rest) = '"' :: rest := skipSpace_cons (by decide)
  have hcolon : skipSpace (':' :: after) = ':' :: after := skipSpace_cons (by decide)
  simp only [field, hquote, h, hcolon, bind, Except.bind]

/-- Values that are read back from their texts, one by one. -/
abbrev ValueElement (depth level : Nat) : Value → Prop :=
  Element (value depth) (prettyChars level) fun v => decide (v.depth ≤ depth)

/-- A field is read back if its value is. -/
theorem element_field {level : Nat} {entry : String × Value}
    (h : ValueElement depth level entry.2) :
    Element (field (value depth)) (fieldChars level) (fun f => decide (f.2.depth ≤ depth))
      entry := by
  obtain ⟨name, v⟩ := entry
  refine ⟨fun more hmore => ?_, '"', _, rfl, by decide, by decide⟩
  have htext : fieldChars level (name, v) ++ more
      = '"' ::
        (name.toList.flatMap escaped ++ '"' :: ':' :: ' ' :: (prettyChars level v ++ more)) := by
    simp only [fieldChars, stringChars, List.append_assoc, List.cons_append, List.nil_append]
  have hvalue : value depth (' ' :: (prettyChars level v ++ more))
      = limited (decide (v.depth ≤ depth)) v more := by
    rw [← h.reads more hmore, ← value_skipSpace,
      ← value_skipSpace (prettyChars level v ++ more)]
    rfl
  rw [htext, field_of_quote (string_stringChars name _), hvalue]
  exact limited_map _ v more (fun w => (name, w))

/-- An array is read back if its items are. -/
theorem element_array {depth level : Nat} {items : List Value}
    (h : ∀ depth, ∀ item ∈ items, ValueElement depth (level + 1) item) :
    ValueElement depth level (.array items) := by
  refine ⟨fun more _ => ?_, '[', ?_⟩
  · cases items with
    | nil => cases depth <;> rfl
    | cons item rest =>
      have htext : prettyChars level (.array (item :: rest)) ++ more
          = '[' :: (lines (level + 1) (prettyChars (level + 1)) (item :: rest)
            ++ newline level ++ ']' :: more) := by
        simp only [prettyChars, prettyItems_eq_lines, List.append_assoc, List.cons_append,
          List.nil_append]
      rw [htext]
      cases depth with
      | zero =>
        rw [Value.depth, decide_eq_false (by omega)]
        rfl
      | succ depth =>
        have hfits : (item :: rest).all (fun v => decide (v.depth ≤ depth))
            = decide ((Value.array (item :: rest)).depth ≤ depth + 1) := by
          rw [Bool.eq_iff_iff, ← Value.depthItems_le_iff, decide_eq_true_iff, Value.depth]
          omega
        rw [value_of_bracket, bracketed_lines value_skipSpace (.inl rfl) (List.cons_ne_nil _ _)
          (h depth), limited_map, hfits]
  · cases items <;> exact ⟨_, rfl, by decide, by decide⟩

/-- An object is read back if the values of its fields are. -/
theorem element_object {depth level : Nat} {fields : Fields}
    (h : ∀ depth, ∀ field ∈ fields, ValueElement depth (level + 1) field.2) :
    ValueElement depth level (.object fields) := by
  refine ⟨fun more _ => ?_, '{', ?_⟩
  · cases fields with
    | nil => cases depth <;> rfl
    | cons entry rest =>
      have htext : prettyChars level (.object (entry :: rest)) ++ more
          = '{' :: (lines (level + 1) (fieldChars (level + 1)) (entry :: rest)
            ++ newline level ++ '}' :: more) := by
        simp only [prettyChars, prettyFields_eq_lines, List.append_assoc, List.cons_append,
          List.nil_append]
      rw [htext]
      cases depth with
      | zero =>
        rw [Value.depth, decide_eq_false (by omega)]
        rfl
      | succ depth =>
        have hfits : (entry :: rest).all (fun f => decide (f.2.depth ≤ depth))
            = decide ((Value.object (entry :: rest)).depth ≤ depth + 1) := by
          rw [Bool.eq_iff_iff, ← Value.depthFields_le_iff, decide_eq_true_iff, Value.depth]
          omega
        rw [value_of_brace, bracketed_lines field_skipSpace (.inr rfl) (List.cons_ne_nil _ _)
          (fun f hf => element_field (h depth f hf)), limited_map, hfits]
  · cases fields <;> exact ⟨_, rfl, by decide, by decide⟩

mutual

/-- **A value is read back from its text**, unless it nests too deeply. -/
theorem value_prettyChars : ∀ (v : Value) {depth level : Nat}, v.ReadsBack →
    ValueElement depth level v
  | .null, depth, level, _ => by
    refine ⟨fun more _ => ?_, 'n', _, rfl, by decide, by decide⟩
    cases depth <;> rfl
  | .bool true, depth, level, _ => by
    refine ⟨fun more _ => ?_, 't', _, rfl, by decide, by decide⟩
    cases depth <;> rfl
  | .bool false, depth, level, _ => by
    refine ⟨fun more _ => ?_, 'f', _, rfl, by decide, by decide⟩
    cases depth <;> rfl
  | .number n, depth, level, h => by
    have hread : value 0 (numberText n).toList = .ok (.number n, []) := Value.readsBack_number h
    refine ⟨fun more hmore => ?_, ?_⟩
    · exact value_number_append hread hmore
    · exact value_number_head hread
  | .text s, depth, level, _ => by
    refine ⟨fun more _ => ?_, '"', _, rfl, by decide, by decide⟩
    have htext : prettyChars level (.text s) ++ more
        = '"' :: (s.toList.flatMap escaped ++ '"' :: more) := by
      simp only [prettyChars, scalarChars, stringChars, List.append_assoc, List.cons_append,
        List.nil_append]
    rw [htext, value_of_quote, string_stringChars]
    rfl
  | .array items, depth, level, h =>
    element_array fun _ => items_prettyChars items (Value.readsBack_array_iff.mp h)
  | .object fields, depth, level, h =>
    element_object fun _ => fields_prettyChars fields (Value.readsBack_object_iff.mp h)

/-- Items in an array are read back. -/
theorem items_prettyChars : ∀ (items : List Value) {depth level : Nat},
    (∀ item ∈ items, item.ReadsBack) → ∀ item ∈ items, ValueElement depth level item
  | [], _, _, _ => List.forall_mem_nil _
  | item :: rest, depth, level, h => by
    obtain ⟨hitem, hrest⟩ := List.forall_mem_cons.mp h
    exact List.forall_mem_cons.mpr ⟨value_prettyChars item hitem, items_prettyChars rest hrest⟩

/-- Values of fields in an object are read back. -/
theorem fields_prettyChars : ∀ (fields : List (String × Value)) {depth level : Nat},
    (∀ field ∈ fields, field.2.ReadsBack) →
    ∀ field ∈ fields, ValueElement depth level field.2
  | [], _, _, _ => List.forall_mem_nil _
  | (name, value) :: rest, depth, level, h => by
    obtain ⟨hfield, hrest⟩ := List.forall_mem_cons.mp h
    exact List.forall_mem_cons.mpr
      ⟨value_prettyChars value hfield, fields_prettyChars rest hrest⟩

end

/-- **A text over several lines is read back** as its value if that does not nest too deeply, and
refused for its depth otherwise. -/
theorem parse_pretty {v : Value} (h : v.ReadsBack) :
    parse (pretty v) = if v.depth ≤ depthLimit then .ok v else .error .tooDeep := by
  have hread := (@value_prettyChars v depthLimit 0 h).reads [] Text.ends_nil
  rw [List.append_nil] at hread
  rw [parse, pretty, String.toList_ofList, hread]
  by_cases hdepth : v.depth ≤ depthLimit
  · rw [if_pos hdepth, decide_eq_true hdepth]
    rfl
  · rw [if_neg hdepth, decide_eq_false hdepth]
    rfl

end Json

end DecisionFlow
