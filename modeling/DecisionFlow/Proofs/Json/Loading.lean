import DecisionFlow.Format
import DecisionFlow.Proofs.Json.Repeats
import DecisionFlow.Proofs.Json.RoundTrip

/-!
# Loading without loss

A loader hands every part of a text to a visitor as soon as its end is reached, when the parts
inside have been made into values already. What the visitor makes of a part is its own affair: plain
loading keeps the last value of a repeated field, and documents are loaded without losing any.
Loaders accept the same texts, and what they load is told apart by the objects only.

- `Json.Visitor`, `Json.load`: loads a text in one pass, with a method for each sort of part.
- `Json.Visitor.Makes`: what becomes of a value if a visitor is handed its parts.
- `Json.load_eq_map`: a loader accepts every JSON text, and makes this of the value of the text.
- `Json.parseMerged_eq_load`, `Format.parse_json_eq_load`: plain loading, and the loading of
  documents.
- `Value.Loads`: what a document becomes when it is loaded, node by node.
- `Format.parse_json_loads`: the loading of documents loses nothing.
- `Format.parse_json_pretty`, `Format.parse_render_json`: what becomes of the text of a document.
-/

namespace DecisionFlow

/-! ## Merging repeated fields -/

/-- The fields as an object in which the last value of each name counts. -/
def Value.ofLastFields (fields : Fields) : Value := .object (Fields.ofList fields)

namespace Fields

theorem insert_of_notMem {fields : Fields} {name : String} (h : name ∉ names fields)
    (value : Value) : insert fields name value = fields ++ [(name, value)] := by
  induction fields with
  | nil => rfl
  | cons field rest ih =>
    obtain ⟨key, old⟩ := field
    obtain ⟨hkey, hrest⟩ := List.ne_and_not_mem_of_not_mem_cons h
    rw [insert, if_neg (Ne.symm hkey), ih hrest, List.cons_append]

/-- Fields whose names are none of those kept already are added in order. -/
theorem foldl_insert_of_nodup {kept fields : Fields} (h : (names (kept ++ fields)).Nodup) :
    fields.foldl (fun kept field => insert kept field.1 field.2) kept = kept ++ fields := by
  induction fields generalizing kept with
  | nil => exact (List.append_nil kept).symm
  | cons field rest ih =>
    have hfresh : field.1 ∉ names kept := by
      rw [names, List.map_append, List.map_cons, List.nodup_middle, List.nodup_cons] at h
      exact fun hmem => h.1 (List.mem_append_left _ hmem)
    rw [List.foldl_cons, insert_of_notMem hfresh, ih, List.append_assoc]
    · rfl
    · rwa [List.append_assoc]

/-- Fields that do not repeat load as they are. -/
theorem ofList_of_nodup {fields : Fields} (h : (names fields).Nodup) : ofList fields = fields := by
  have hnames : (names ([] ++ fields)).Nodup := h
  exact foldl_insert_of_nodup hnames

end Fields

namespace Value

theorem mergeItems_eq_map (items : List Value) : mergeItems items = items.map mergeRepeats := by
  induction items with
  | nil => rfl
  | cons item rest ih => rw [mergeItems, ih, List.map_cons]

theorem mergeFields_eq_mapValues (fields : Fields) :
    mergeFields fields = Fields.mapValues mergeRepeats fields := by
  induction fields with
  | nil => rfl
  | cons field rest ih =>
    obtain ⟨name, value⟩ := field
    rw [mergeFields, ih, Fields.mapValues_cons]

theorem mergeRepeats_of_scalar {v : Value} (h : v.Scalar) : v.mergeRepeats = v := by
  cases v with
  | array items => exact absurd h not_scalar_array
  | object fields => exact absurd h not_scalar_object
  | _ => rw [mergeRepeats] <;> simp

theorem rebuilds_mergeRepeats : Rebuilds ofLastFields mergeRepeats where
  scalar _ h := mergeRepeats_of_scalar h
  array items := by rw [mergeRepeats, mergeItems_eq_map]
  object fields := by rw [mergeRepeats, mergeFields_eq_mapValues, ofLastFields]

/-- A document that repeats no field loads as it is. -/
theorem mergeRepeats_of_distinct {v : Value} (h : v.Distinct) : v.mergeRepeats = v :=
  rebuilds_mergeRepeats.eq_self
    (fun _ hnames => by rw [ofLastFields, Fields.ofList_of_nodup hnames]) v h

end Value

/-! ## Visitors -/

/-- An unsigned number of 64 bits. -/
def Number.ofUInt64 (n : UInt64) : Number :=
  .int n.toNat (by have hlt := n.toNat_lt; constructor <;> omega)

namespace Json

/-- What a loader makes of the parts of a text, with a method for each sort of them. -/
structure Visitor where
  null : Value
  bool : Bool → Value
  /-- For whole numbers below zero. -/
  signed : Int64 → Value
  /-- For the other whole numbers. -/
  unsigned : UInt64 → Value
  float : Float → Value
  text : String → Value
  /-- For arrays, once something was made of their items. -/
  items : List Value → Value
  /-- For objects, once something was made of the values of their fields. -/
  fields : Fields → Value

namespace Visitor

/-- What is made of a number, by its sort and its sign. -/
def number (visitor : Visitor) : Number → Value
  | .int n _ => if n < 0 then visitor.signed (.ofInt n) else visitor.unsigned (.ofNat n.toNat)
  | .float x => visitor.float x

/-- The visitor of documents, which keeps every occurrence of a repeated field. -/
def document : Visitor where
  null := .null
  bool := .bool
  signed n := .number (.ofInt64 n)
  unsigned n := .number (.ofUInt64 n)
  float x := .number (.float x)
  text := .text
  items := .array
  fields := Value.ofFields

/-- The visitor of plain values, which keeps the last value of a repeated field. -/
def plain : Visitor := { document with fields := Value.ofLastFields }

/-- A function that makes of a value what the visitor makes of its parts, from the inside out. -/
structure Makes (visitor : Visitor) (f : Value → Value) : Prop where
  null : f .null = visitor.null
  bool : ∀ b, f (.bool b) = visitor.bool b
  number : ∀ n, f (.number n) = visitor.number n
  text : ∀ s, f (.text s) = visitor.text s
  items : ∀ items, f (.array items) = visitor.items (items.map f)
  fields : ∀ fields, f (.object fields) = visitor.fields (Fields.mapValues f fields)

/-- No number is lost by its way through the types of the methods. -/
theorem number_document (n : Number) : document.number n = .number n := by
  cases n with
  | int n inRange =>
    rw [number]
    split
    · have hsame : (Int64.ofInt n).toInt = n := Int64.toInt_ofInt_of_le (by omega) (by omega)
      simp only [document, Number.ofInt64, hsame]
    · have hsame : ((UInt64.ofNat n.toNat).toNat : Int) = n := by
        rw [UInt64.toNat_ofNat_of_lt' (by show _ < 2 ^ 64; omega)]
        omega
      simp only [document, Number.ofUInt64, hsame]
  | float x => rfl

/-- What rebuilds values object by object is made by a visitor that keeps all the rest. -/
theorem makes_of_rebuilds {object : Fields → Value} {f : Value → Value}
    (hf : Value.Rebuilds object f) : Makes { document with fields := object } f where
  null := hf.scalar .null rfl
  bool b := hf.scalar (.bool b) rfl
  number n := (hf.scalar (.number n) rfl).trans (number_document n).symm
  text s := hf.scalar (.text s) rfl
  items := hf.array
  fields := hf.object

/-- The visitor of documents splits what repeats. -/
theorem makes_document : document.Makes Value.splitRepeats :=
  makes_of_rebuilds Value.rebuilds_splitRepeats

/-- The plain visitor keeps the last of what repeats. -/
theorem makes_plain : plain.Makes Value.mergeRepeats :=
  makes_of_rebuilds Value.rebuilds_mergeRepeats

end Visitor

/-! ## Loading in one pass -/

/-- Reads a value in which arrays and objects nest at most `depth` deep, and hands every part of it
to the visitor as soon as its end is reached. -/
def valueWith (visitor : Visitor) : Nat → Reader Value
  | depth, chars =>
    match skipSpace chars with
    | [] => .error .unexpectedEnd
    | 'n' :: rest => word "ull".toList visitor.null rest
    | 't' :: rest => word "rue".toList (visitor.bool true) rest
    | 'f' :: rest => word "alse".toList (visitor.bool false) rest
    | '"' :: rest => do
      let (s, rest) ← string rest
      return (visitor.text s, rest)
    | '[' :: rest =>
      match depth with
      | 0 => .error .tooDeep
      | depth + 1 => do
        let (items, rest) ← bracketed ']' (valueWith visitor depth) rest
        return (visitor.items items, rest)
    | '{' :: rest =>
      match depth with
      | 0 => .error .tooDeep
      | depth + 1 => do
        let (fields, rest) ← bracketed '}' (field (valueWith visitor depth)) rest
        return (visitor.fields fields, rest)
    | '-' :: rest => do
      let (n, rest) ← readNumber true rest
      return (visitor.number n, rest)
    | c :: rest =>
      if isDigit c then do
        let (n, rest) ← readNumber false (c :: rest)
        return (visitor.number n, rest)
      else .error (.unexpectedCharacter c)

/-- Loads a whole text in one pass. -/
def load (visitor : Visitor) (text : String) : Except SyntaxError Value := do
  let (value, rest) ← valueWith visitor depthLimit text.toList
  if (skipSpace rest).isEmpty then return value else throw .trailing

section Mapped

variable {α β : Type} {f : α → β} {read : Reader α}

/-- A reader whose results are passed through a function. -/
def mapped (f : α → β) (read : Reader α) : Reader β := fun chars => do
  let (a, rest) ← read chars
  return (f a, rest)

theorem mapped_congr {read' : Reader α} {chars chars' : List Char}
    (h : read chars = read' chars') : mapped f read chars = mapped f read' chars' := by
  rw [mapped, mapped, h]

theorem mapped_mapped {γ : Type} (g : β → γ) :
    mapped g (mapped f read) = mapped (g ∘ f) read := by
  funext chars
  rw [mapped, mapped, mapped]
  cases read chars <;> rfl

theorem elements_mapped (close : Char) (fuel : Nat) :
    elements close (mapped f read) fuel = mapped (List.map f) (elements close read fuel) := by
  induction fuel with
  | zero => rfl
  | succ fuel ih =>
    funext chars
    rw [mapped, elements, elements, ih, mapped]
    cases hfirst : read chars with
    | error e => rfl
    | ok result =>
      simp only [bind, Except.bind, pure, Except.pure]
      split
      · rfl
      · rw [mapped]
        cases elements close read fuel _ <;> rfl
      · split <;> rfl

/-- Items may be changed as they are read or when all are read. -/
theorem bracketed_mapped (close : Char) :
    bracketed close (mapped f read) = mapped (List.map f) (bracketed close read) := by
  funext chars
  rw [mapped, bracketed, bracketed, elements_mapped]
  split
  · rfl
  · split <;> rfl

/-- A value may be changed as its field is read or afterwards. -/
theorem field_mapped {read : Reader Value} {f : Value → Value} :
    field (mapped f read) = mapped (fun entry => (entry.1, f entry.2)) (field read) := by
  funext chars
  rw [mapped, field, field]
  split
  · cases string _ with
    | error e => rfl
    | ok result =>
      simp only [bind, Except.bind, pure, Except.pure]
      split
      · rw [mapped]
        cases read _ <;> rfl
      · rfl
      · rfl
  · rfl
  · rfl

end Mapped

/-- A word may stand for the changed value. -/
theorem word_mapped (f : Value → Value) (expected : List Char) (v : Value) :
    word expected (f v) = mapped f (word expected v) := by
  funext chars
  induction expected generalizing chars with
  | nil => rfl
  | cons e expected ih =>
    cases chars with
    | nil => rfl
    | cons c rest =>
      rw [mapped, word, word]
      split
      · exact ih rest
      · rfl

/-! ### What loaders load -/

variable {visitor : Visitor} {f : Value → Value} {depth : Nat} {chars rest : List Char}

/-- Behind a bracket come the items of an array. -/
theorem value_of_array (h : skipSpace chars = '[' :: rest) :
    value (depth + 1) chars = mapped .array (bracketed ']' (value depth)) rest := by
  rw [← value_skipSpace, h]
  rfl

/-- Behind a brace come the fields of an object. -/
theorem value_of_object (h : skipSpace chars = '{' :: rest) :
    value (depth + 1) chars = mapped .object (bracketed '}' (field (value depth))) rest := by
  rw [← value_skipSpace, h]
  rfl

/-- An array is loaded from its loaded items. -/
theorem valueWith_of_array (hf : visitor.Makes f) (h : skipSpace chars = '[' :: rest)
    (ih : valueWith visitor depth = mapped f (value depth)) :
    valueWith visitor (depth + 1) chars = mapped f (value (depth + 1)) chars := by
  have hitems : visitor.items ∘ List.map f = f ∘ .array :=
    funext fun items => (hf.items items).symm
  calc
    valueWith visitor (depth + 1) chars
    _ = mapped visitor.items (bracketed ']' (valueWith visitor depth)) rest := by
      rw [valueWith, h]
      rfl
    _ = mapped f (mapped .array (bracketed ']' (value depth))) rest := by
      rw [ih, bracketed_mapped, mapped_mapped, mapped_mapped, hitems]
    _ = mapped f (value (depth + 1)) chars := mapped_congr (value_of_array h).symm

/-- An object is loaded from its fields with their loaded values. -/
theorem valueWith_of_object (hf : visitor.Makes f) (h : skipSpace chars = '{' :: rest)
    (ih : valueWith visitor depth = mapped f (value depth)) :
    valueWith visitor (depth + 1) chars = mapped f (value (depth + 1)) chars := by
  have hfields : visitor.fields ∘ Fields.mapValues f = f ∘ Value.object :=
    funext fun fields => (hf.fields fields).symm
  calc
    valueWith visitor (depth + 1) chars
    _ = mapped visitor.fields (bracketed '}' (field (valueWith visitor depth))) rest := by
      rw [valueWith, h]
      rfl
    _ = mapped f (mapped .object (bracketed '}' (field (value depth)))) rest := by
      rw [ih, field_mapped, bracketed_mapped, mapped_mapped, mapped_mapped, ← hfields]
      rfl
    _ = mapped f (value (depth + 1)) chars := mapped_congr (value_of_object h).symm

/-- What begins with no bracket is a word, a text or a number, or it is refused. -/
theorem valueWith_of_scalar (hf : visitor.Makes f)
    (hbracket : ∀ rest, skipSpace chars ≠ '[' :: rest)
    (hbrace : ∀ rest, skipSpace chars ≠ '{' :: rest) :
    valueWith visitor depth chars = mapped f (value depth) chars := by
  have htext : visitor.text = f ∘ .text := funext fun s => (hf.text s).symm
  have hnumber : visitor.number = f ∘ .number := funext fun n => (hf.number n).symm
  rw [mapped]
  unfold valueWith value
  generalize skipSpace chars = tokens at hbracket hbrace ⊢
  split
  case h_1 => rfl
  case h_2 rest =>
    rw [← hf.null, word_mapped]
    rfl
  case h_3 rest | h_4 rest =>
    rw [← hf.bool, word_mapped]
    rfl
  case h_5 rest =>
    show mapped visitor.text string rest = mapped f (mapped .text string) rest
    rw [mapped_mapped, htext]
  case h_6 rest => exact absurd rfl (hbracket rest)
  case h_7 rest => exact absurd rfl (hbrace rest)
  case h_8 rest =>
    show mapped visitor.number (readNumber true) rest =
      mapped f (mapped .number (readNumber true)) rest
    rw [mapped_mapped, hnumber]
  case h_9 _ c rest _ _ _ _ _ _ _ =>
    -- None of the characters before makes the other reader stop earlier either.
    simp only
    split
    · show mapped visitor.number (readNumber false) (c :: rest) =
        mapped f (mapped .number (readNumber false)) (c :: rest)
      rw [mapped_mapped, hnumber]
    · rfl

/-- **A loader reads what is plainly read**, and makes of it what its visitor makes of the parts. -/
theorem valueWith_eq_mapped (hf : visitor.Makes f) (depth : Nat) :
    valueWith visitor depth = mapped f (value depth) := by
  funext chars
  induction depth generalizing chars with
  | zero =>
    by_cases hbracket : ∃ rest, skipSpace chars = '[' :: rest
    · obtain ⟨rest, h⟩ := hbracket
      rw [mapped, ← value_skipSpace, valueWith, h]
      rfl
    by_cases hbrace : ∃ rest, skipSpace chars = '{' :: rest
    · obtain ⟨rest, h⟩ := hbrace
      rw [mapped, ← value_skipSpace, valueWith, h]
      rfl
    exact valueWith_of_scalar hf (not_exists.mp hbracket) (not_exists.mp hbrace)
  | succ depth ih =>
    by_cases hbracket : ∃ rest, skipSpace chars = '[' :: rest
    · obtain ⟨rest, h⟩ := hbracket
      exact valueWith_of_array hf h (funext ih)
    by_cases hbrace : ∃ rest, skipSpace chars = '{' :: rest
    · obtain ⟨rest, h⟩ := hbrace
      exact valueWith_of_object hf h (funext ih)
    exact valueWith_of_scalar hf (not_exists.mp hbracket) (not_exists.mp hbrace)

/-- **Loaders accept the same texts.** What is loaded is made of the value of the text. -/
theorem load_eq_map (hf : visitor.Makes f) (text : String) :
    load visitor text = (parse text).map f := by
  rw [load, parse, valueWith_eq_mapped hf, mapped]
  cases value depthLimit text.toList with
  | error e => rfl
  | ok result =>
    obtain ⟨v, rest⟩ := result
    simp only [bind, Except.bind, pure, Except.pure]
    split <;> rfl

/-- Plain loading keeps the last value of a repeated field. -/
theorem parseMerged_eq_load (text : String) : parseMerged text = load .plain text := by
  rw [load_eq_map Visitor.makes_plain, parseMerged]
  cases parse text <;> rfl

end Json

/-- Documents are loaded with every occurrence of a repeated field. -/
theorem Format.parse_json_eq_load (text : String) :
    Format.json.parse text = (Json.load .document text).toOption := by
  rw [Json.load_eq_map Json.Visitor.makes_document, Format.parse]
  cases Json.parse text <;> rfl

/-! ## What documents are loaded as -/

namespace Value

mutual

/-- What a value is loaded as in a document: scalars as they are, arrays with their items loaded in
order, and objects by whether they repeat a field. -/
inductive Loads : Value → Value → Prop where
  | scalar {v : Value} (scalar : v.Scalar) : Loads v v
  | array {items loaded : List Value} (all : LoadsItems items loaded) :
    Loads (.array items) (.array loaded)
  /-- An object that repeats no field stays an object, with its fields in order. -/
  | object {fields loaded : Fields} (distinct : (Fields.names fields).Nodup)
      (all : LoadsFields fields loaded) :
    Loads (.object fields) (.object loaded)
  /-- An object that repeats a field becomes an array, with an object for every occurrence, in
  order. -/
  | repeated {fields loaded : Fields} (repeats : ¬ (Fields.names fields).Nodup)
      (all : LoadsFields fields loaded) :
    Loads (.object fields) (.array (loaded.map fun field => .object [(field.1, field.2)]))

/-- What items are loaded as, one by one. -/
inductive LoadsItems : List Value → List Value → Prop where
  | nil : LoadsItems [] []
  | cons {item loaded : Value} {rest later : List Value} (first : Loads item loaded)
      (others : LoadsItems rest later) :
    LoadsItems (item :: rest) (loaded :: later)

/-- What fields are loaded as, one by one: they keep their names. -/
inductive LoadsFields : List (String × Value) → List (String × Value) → Prop where
  | nil : LoadsFields [] []
  | cons {name : String} {value loaded : Value} {rest later : List (String × Value)}
      (first : Loads value loaded) (others : LoadsFields rest later) :
    LoadsFields ((name, value) :: rest) ((name, loaded) :: later)

end

mutual

/-- Splitting repeated fields is a way to load a value. -/
theorem loads_splitRepeats : ∀ v : Value, Loads v v.splitRepeats
  | .null | .bool _ | .number _ | .text _ => by
    rw [splitRepeats_of_scalar (by rfl)]
    exact .scalar rfl
  | .array items => by
    rw [splitRepeats_array]
    exact .array (loadsItems_map items)
  | .object fields => by
    have hall := loadsFields_mapValues fields
    by_cases hnames : (Fields.names fields).Nodup
    · rw [splitRepeats_of_nodup hnames]
      exact .object hnames hall
    · rw [splitRepeats_of_not_nodup hnames]
      exact .repeated hnames hall

theorem loadsItems_map : ∀ items : List Value, LoadsItems items (items.map splitRepeats)
  | [] => .nil
  | item :: rest => .cons (loads_splitRepeats item) (loadsItems_map rest)

theorem loadsFields_mapValues :
    ∀ fields : List (String × Value), LoadsFields fields (Fields.mapValues splitRepeats fields)
  | [] => .nil
  | (_, value) :: rest => .cons (loads_splitRepeats value) (loadsFields_mapValues rest)

end

mutual

/-- There is no other way to load it. -/
theorem Loads.eq_splitRepeats {v loaded : Value} : Loads v loaded → loaded = v.splitRepeats
  | .scalar h => (splitRepeats_of_scalar h).symm
  | .array all => by rw [splitRepeats_array, all.eq_map]
  | .object distinct all => by rw [splitRepeats_of_nodup distinct, all.eq_mapValues]
  | .repeated repeats all => by
    rw [splitRepeats_of_not_nodup repeats, all.eq_mapValues]
    rfl

theorem LoadsItems.eq_map {items loaded : List Value} :
    LoadsItems items loaded → loaded = items.map splitRepeats
  | .nil => rfl
  | .cons first others => by rw [List.map_cons, first.eq_splitRepeats, others.eq_map]

theorem LoadsFields.eq_mapValues {fields loaded : List (String × Value)} :
    LoadsFields fields loaded → loaded = Fields.mapValues splitRepeats fields
  | .nil => rfl
  | .cons first others => by
    rw [Fields.mapValues_cons, first.eq_splitRepeats, others.eq_mapValues]

end

/-- Every value is loaded, in one way. -/
theorem loads_iff {v loaded : Value} : Loads v loaded ↔ loaded = v.splitRepeats := by
  constructor
  · exact Loads.eq_splitRepeats
  · rintro rfl
    exact loads_splitRepeats v

end Value

/-- **Documents are loaded without loss.** The texts that are loaded as documents are those that are
plainly loaded. A document is loaded as `Value.Loads` says of the value of its text, in which
objects keep every occurrence of a field; where none repeats, it is loaded as plainly. -/
theorem Format.parse_json_loads (text : String) :
    (∃ written plain loaded, Json.parse text = .ok written ∧
      Json.load .plain text = .ok plain ∧ Json.parseMerged text = .ok plain ∧
      Json.load .document text = .ok loaded ∧ Format.json.parse text = some loaded ∧
      Value.Loads written loaded ∧ (written.Distinct → loaded = plain)) ∨
    ∃ e, Json.parse text = .error e ∧
      Json.load .plain text = .error e ∧ Json.parseMerged text = .error e ∧
      Json.load .document text = .error e ∧ Format.json.parse text = none := by
  have hplain := Json.load_eq_map Json.Visitor.makes_plain text
  have hloaded := Json.load_eq_map Json.Visitor.makes_document text
  rw [Json.parseMerged_eq_load, Format.parse_json_eq_load, hplain, hloaded]
  cases Json.parse text with
  | ok written =>
    refine .inl ⟨written, _, _, rfl, rfl, rfl, rfl, rfl, Value.loads_splitRepeats written,
      fun h => ?_⟩
    rw [Value.splitRepeats_eq_self_iff.mpr h, Value.mergeRepeats_of_distinct h]
  | error e => exact .inr ⟨e, rfl, rfl, rfl, rfl, rfl⟩

/-! ## Documents that are loaded again -/

/-- The text of a value is loaded as the value, with repeated fields split, unless it nests too
deeply. -/
theorem Format.parse_json_pretty {v : Value} (hnumbers : v.ReadsBack) :
    Format.json.parse (Json.pretty v) =
      if v.depth ≤ Json.depthLimit then some v.splitRepeats else none := by
  rw [Format.parse, Json.parse_pretty hnumbers]
  by_cases hdepth : v.depth ≤ Json.depthLimit
  · rw [if_pos hdepth, if_pos hdepth]
    rfl
  · rw [if_neg hdepth, if_neg hdepth]
    rfl

/-- **A document is loaded again from its own text**, with every field in its place, if its numbers
are whole and its arrays and objects nest no deeper than 127. One that nests deeper is refused. -/
theorem Format.parse_render_json {v : Value} (hdistinct : v.Distinct) (hwhole : v.floats = []) :
    Format.json.parse (Format.json.render v) = if v.depth ≤ 127 then some v else none := by
  have hnumbers : v.ReadsBack := by
    intro x hx
    rw [hwhole] at hx
    cases hx
  -- No object of the document is taken apart, as none repeats a field.
  have hsame : v.splitRepeats = v := Value.splitRepeats_eq_self_iff.mpr hdistinct
  have hparse := Format.parse_json_pretty hnumbers
  rw [hsame] at hparse
  exact hparse

/-- Names and texts that need to be escaped, numbers at the ends of their range, and empty
containers. -/
def Document.awkward : Value := .object [
  ("", .array []),
  ("\"quoted\\\x00\n", .text "tab\t, bell\x07, delete\x7f, line\u2028and é"),
  ("greatest", .number (.int 0xffffffffffffffff (by decide))),
  ("least", .number (.int (-0x8000000000000000) (by decide))),
  ("nested", .array [.object [("", .null)], .object [], .bool true, .array [.text ""]])]

/-- A document with control characters, quotes and the least integer is read back as printed. -/
theorem Format.parse_render_json_awkward :
    Document.awkward.Distinct ∧ Document.awkward.floats = [] ∧
      Format.json.parse (Format.json.render Document.awkward) = some Document.awkward := by
  have hdistinct : Document.awkward.Distinct := by
    refine ⟨by decide, trivial, trivial, trivial, trivial, ?_, trivial⟩
    exact ⟨⟨by decide, trivial, trivial⟩, ⟨by decide, trivial⟩, trivial,
      ⟨trivial, trivial⟩, trivial⟩
  exact ⟨hdistinct, rfl, Format.parse_render_json hdistinct rfl⟩

end DecisionFlow
