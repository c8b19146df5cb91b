import DecisionFlow.Builtin
import DecisionFlow.Proofs.Document.Reading
import DecisionFlow.Proofs.Flow.Nodes
import DecisionFlow.Proofs.Registry.Registering

/-!
# The keys that a flow mentions

The configurations of the built-in nodes name the fields that a node works on. The keys of a payload
that are meant can be read off them, without a look at what the nodes do.

- `Fields.mentioned`, `Flow.mentioned`: the keys that a configuration, and a flow, mention.
- `Config.Decoder.build_map_eq_ok_iff`, `Config.Decoder.build_seq_eq_ok_iff`: what decoders decode.
- `Builtin.Test.Within`, `Builtin.Change.Within`: tests and changes of fields that have keys.
- `Builtin.Change.target?`: the field that a change sets.
- `Builtin.exists_test_of_build`, `Builtin.exists_change_of_build`: a built-in node is a test or a
  change within the keys that its configuration mentions.
-/

namespace DecisionFlow

/-! ## Mentioned keys -/

/-- The fields of a configuration that name fields of a payload. -/
def Fields.naming : List String := ["field", "from", "to"]

/-- The keys that a configuration mentions: the first segment of each path that it names. -/
def Fields.mentioned (config : Fields) : List String :=
  Fields.naming.filterMap fun name =>
    ((config.get? name).bind Value.text?).map fun path => (FieldPath.ofText path).first

/-- The keys that the nodes of a flow mention. -/
def Flow.mentioned {T : Type} (flow : Flow T) : List String :=
  flow.predicates.flatMap (·.config.mentioned) ++ flow.consumers.flatMap (·.config.mentioned)

/-- A flow mentions what its predicates mention. -/
theorem Flow.mentioned_of_predicate {T : Type} {flow : Flow T} {node : PredicateNode T}
    (h : node ∈ flow.predicates) : node.config.mentioned ⊆ flow.mentioned := by
  intro key hkey
  exact List.mem_append_left _ (List.mem_flatMap.mpr ⟨node, h, hkey⟩)

/-- A flow mentions what its consumers mention. -/
theorem Flow.mentioned_of_consumer {T : Type} {flow : Flow T} {node : ConsumerNode T}
    (h : node ∈ flow.consumers) : node.config.mentioned ⊆ flow.mentioned := by
  intro key hkey
  exact List.mem_append_right _ (List.mem_flatMap.mpr ⟨node, h, hkey⟩)

/-- A field of the configuration names this path. -/
def Fields.NamesPath (config : Fields) (name : String) (path : FieldPath) : Prop :=
  ∃ s, config.get? name = some (.text s) ∧ FieldPath.ofText s = path

/-- A path that is named by a naming field begins with a key that is mentioned. -/
theorem Fields.NamesPath.first_mem {config : Fields} {name : String} {path : FieldPath}
    (h : config.NamesPath name path) (hname : name ∈ Fields.naming) :
    path.first ∈ config.mentioned := by
  obtain ⟨s, hs, rfl⟩ := h
  refine List.mem_filterMap.mpr ⟨name, hname, ?_⟩
  rw [hs]
  rfl

/-! ## Decoders -/

namespace Config.Decoder

variable {A B : Type} {config : Fields}

/-- What is decoded is what the decoder builds. -/
theorem build_of_decode {d : Decoder A} {a : A} (h : d.decode config = .ok a) :
    d.build config = .ok a := by
  obtain ⟨_, -, h⟩ := Document.bind_eq_ok_iff.mp h
  exact h

theorem build_map_eq_ok_iff {f : A → B} {d : Decoder A} {b : B} :
    (f <$> d).build config = .ok b ↔ ∃ a, d.build config = .ok a ∧ f a = b := by
  show (do return f (← d.build config)) = Except.ok b ↔ _
  cases d.build config with
  | error problem => simp [bind, Except.bind]
  | ok a => simp [bind, Except.bind, pure, Except.pure]

/-- Two decoders in sequence decode their parts of the configuration. -/
theorem build_seq_eq_ok_iff {f : Decoder (A → B)} {x : Decoder A} {b : B} :
    (f <*> x).build config = .ok b ↔
      ∃ g, f.build config = .ok g ∧ ∃ a, x.build config = .ok a ∧ g a = b := by
  show (do return (← f.build config) (← x.build config)) = Except.ok b ↔ _
  rw [Document.bind_eq_ok_iff]
  refine exists_congr fun g => and_congr_right fun _ => ?_
  rw [Document.bind_eq_ok_iff]
  simp [pure, Except.pure]

end Config.Decoder

/-- A factory of a decoder builds what was decoded. -/
theorem Factory.decoded_eq_ok_iff {A B : Type} {d : Config.Decoder A} {behave : A → B}
    {config : Fields} {behaviour : B} :
    Factory.decoded d behave config = .ok behaviour ↔
      ∃ a, d.decode config = .ok a ∧ behave a = behaviour := by
  rw [Factory.decoded]
  cases d.decode config with
  | error problem => simp [Except.map]
  | ok a => simp [Except.map]

theorem Factory.adapted_eq_ok_iff {A B : Type} {d : Config.Decoder A}
    {attach : A → Except Config.Problem B} {config : Fields} {behaviour : B} :
    Factory.adapted d attach config = .ok behaviour ↔
      ∃ a, d.decode config = .ok a ∧ attach a = .ok behaviour :=
  Document.bind_eq_ok_iff

namespace Builtin

/-- A field that names a field of the payload holds the text of its path. -/
theorem namesPath_of_build {config : Fields} {name : String} {path : FieldPath}
    (h : (Test.fieldNamed name).build config = .ok path) : config.NamesPath name path := by
  obtain ⟨text, htext, rfl⟩ := Config.Decoder.build_map_eq_ok_iff.mp h
  rw [Config.Decoder.required] at htext
  cases hvalue : config.get? name with
  | none =>
    simp only [hvalue] at htext
    cases htext
  | some value =>
    simp only [hvalue] at htext
    cases value with
    | text s =>
      cases htext
      exact ⟨text, hvalue, rfl⟩
    | _ => cases htext

/-! ## Built-in nodes -/

/-- A test that looks at no more than keys of the payload, and does not count its fields. -/
structure Test.Within (keys : List String) (t : Test) : Prop where
  paths : ∀ path ∈ t.paths, path.first ∈ keys
  counts : ∀ size, t ≠ .sizeEquals size

/-- A change that looks at and writes no more than keys of the payload. -/
def Change.Within (keys : List String) (c : Change) : Prop :=
  ∀ path ∈ c.paths, path.first ∈ keys

/-- A test within some keys is within more keys. -/
theorem Test.Within.mono {keys more : List String} {t : Test} (h : t.Within keys)
    (hkeys : keys ⊆ more) : t.Within more :=
  ⟨fun path hpath => hkeys (h.paths path hpath), h.counts⟩

theorem Change.Within.mono {keys more : List String} {c : Change} (h : c.Within keys)
    (hkeys : keys ⊆ more) : c.Within more :=
  fun path hpath => hkeys (h path hpath)

namespace Change

/-- The field that the change sets, and creates if it is not there. -/
def target? : Change → Option FieldPath
  | set field _ => some field
  | rename _ target => some target
  | _ => none

/-- What the change sets is named by the configuration, in the field that a change of this kind has
for it. -/
def TargetNamed (kind : String) (config : Fields) (c : Change) : Prop :=
  ∀ target, c.target? = some target →
    kind = "set" ∧ config.NamesPath "field" target ∨
      kind = "rename" ∧ config.NamesPath "to" target

end Change

section

variable {A B C : Type} {config : Fields} {name : String} {behave : A → B} {behaviour : B}
  {P : A → Prop}

/-- A factory whose decoder names one field of the payload, and whatever else, decodes something
that has a property if it has it for every field that is named. -/
theorem exists_of_decoded_field {f : FieldPath → A}
    (h : Factory.decoded (f <$> Test.fieldNamed name) behave config = .ok behaviour)
    (hP : ∀ path : FieldPath, config.NamesPath name path → P (f path)) :
    ∃ a, P a ∧ behave a = behaviour := by
  obtain ⟨a, hdecode, hbehave⟩ := Factory.decoded_eq_ok_iff.mp h
  obtain ⟨path, hpath, rfl⟩ :=
    Config.Decoder.build_map_eq_ok_iff.mp (Config.Decoder.build_of_decode hdecode)
  exact ⟨f path, hP path (namesPath_of_build hpath), hbehave⟩

/-- A decoder whose first part is a field names that field in the configuration. -/
theorem exists_field_of_decode {f : FieldPath → C → A} {d : Config.Decoder C} {a : A}
    (h : (f <$> Test.fieldNamed name <*> d).decode config = .ok a) :
    ∃ path : FieldPath, config.NamesPath name path ∧ ∃ c, d.build config = .ok c ∧
      f path c = a := by
  obtain ⟨g, hg, c, hc, hgc⟩ :=
    Config.Decoder.build_seq_eq_ok_iff.mp (Config.Decoder.build_of_decode h)
  obtain ⟨path, hpath, rfl⟩ := Config.Decoder.build_map_eq_ok_iff.mp hg
  exact ⟨path, namesPath_of_build hpath, c, hc, hgc⟩

theorem exists_of_decoded_fields {f : FieldPath → C → A} {d : Config.Decoder C}
    (h : Factory.decoded (f <$> Test.fieldNamed name <*> d) behave config = .ok behaviour)
    (hP : ∀ path : FieldPath, config.NamesPath name path → ∀ c, d.build config = .ok c →
      P (f path c)) :
    ∃ a, P a ∧ behave a = behaviour := by
  obtain ⟨a, hdecode, hbehave⟩ := Factory.decoded_eq_ok_iff.mp h
  obtain ⟨path, hpath, c, hc, rfl⟩ := exists_field_of_decode hdecode
  exact ⟨f path c, hP path hpath c hc, hbehave⟩

end

variable {kind : String} {config : Fields}

/-- **A built-in condition is a test, within the keys that its configuration mentions** unless it
counts the fields of the payload. -/
theorem exists_test_of_build {node : PredicateNode Value}
    (h : conditions.build kind config = .ok node) :
    ∃ t : Test, (kind ≠ "size_equals" → t.Within config.mentioned) ∧
      t.predicate = node.behaviour := by
  have hone : ∀ {t : Test} {path : FieldPath}, t.paths = [path] →
      config.NamesPath "field" path → ∀ p ∈ t.paths, p.first ∈ config.mentioned := by
    intro t path hpaths hpath p hp
    rw [hpaths] at hp
    rw [List.mem_singleton.mp hp]
    exact hpath.first_mem List.mem_cons_self
  obtain ⟨factory, hfactory, behaviour, hbuilt, rfl⟩ := Registry.build_eq_ok_iff.mp h
  have hmem := Registry.mem_of_factory?_ofList hfactory
  simp only [Test.types, List.mem_cons, Prod.mk.injEq, List.not_mem_nil, or_false] at hmem
  obtain ⟨-, rfl⟩ | ⟨-, rfl⟩ | ⟨-, rfl⟩ | ⟨-, rfl⟩ | ⟨-, rfl⟩ | ⟨-, rfl⟩ |
    ⟨rfl, rfl⟩ | ⟨-, rfl⟩ := hmem
  · exact exists_of_decoded_field hbuilt fun path hpath _ => ⟨hone rfl hpath, nofun⟩
  · exact exists_of_decoded_fields hbuilt fun path hpath _ _ _ => ⟨hone rfl hpath, nofun⟩
  · exact exists_of_decoded_fields hbuilt fun path hpath _ _ _ => ⟨hone rfl hpath, nofun⟩
  · exact exists_of_decoded_fields hbuilt fun path hpath _ _ _ => ⟨hone rfl hpath, nofun⟩
  · exact exists_of_decoded_fields hbuilt fun path hpath _ _ _ => ⟨hone rfl hpath, nofun⟩
  · -- The pattern of a match is compiled after the fields have been decoded.
    obtain ⟨⟨path, pattern⟩, hdecode, hattach⟩ := Factory.adapted_eq_ok_iff.mp hbuilt
    obtain ⟨_, hpath, _, -, hpair⟩ := exists_field_of_decode hdecode
    cases hpair
    dsimp only at hattach
    cases hregex : Regex.ofPattern pattern with
    | error problem =>
      rw [hregex] at hattach
      cases hattach
    | ok regex =>
      rw [hregex] at hattach
      cases hattach
      exact ⟨.fieldMatches path regex, fun _ => ⟨hone rfl hpath, nofun⟩, rfl⟩
  · obtain ⟨t, -, hbehave⟩ := Factory.decoded_eq_ok_iff.mp hbuilt
    exact ⟨t, fun hkind => absurd rfl hkind, hbehave⟩
  · obtain ⟨t, hdecode, hbehave⟩ := Factory.decoded_eq_ok_iff.mp hbuilt
    obtain ⟨value, -, rfl⟩ :=
      Config.Decoder.build_map_eq_ok_iff.mp (Config.Decoder.build_of_decode hdecode)
    exact ⟨.always value, fun _ => ⟨nofun, nofun⟩, hbehave⟩

/-- **A built-in consumer is a change within the keys that its configuration mentions**, and what it
sets is named there. -/
theorem exists_change_of_build {node : ConsumerNode Value}
    (h : consumers.build kind config = .ok node) :
    ∃ c : Change, (c.Within config.mentioned ∧ c.TargetNamed kind config) ∧
      c.apply = node.behaviour := by
  have hone : ∀ {c : Change} {path : FieldPath}, c.paths = [path] →
      config.NamesPath "field" path → c.Within config.mentioned := by
    intro c path hpaths hpath p hp
    rw [hpaths] at hp
    rw [List.mem_singleton.mp hp]
    exact hpath.first_mem List.mem_cons_self
  obtain ⟨factory, hfactory, behaviour, hbuilt, rfl⟩ := Registry.build_eq_ok_iff.mp h
  have hmem := Registry.mem_of_factory?_ofList hfactory
  simp only [Change.types, List.mem_cons, Prod.mk.injEq, List.not_mem_nil, or_false] at hmem
  obtain ⟨-, rfl⟩ | ⟨-, rfl⟩ | ⟨-, rfl⟩ | ⟨rfl, rfl⟩ | ⟨-, rfl⟩ |
    ⟨rfl, rfl⟩ | ⟨-, rfl⟩ := hmem
  · exact exists_of_decoded_field hbuilt fun path hpath => ⟨hone rfl hpath, nofun⟩
  · exact exists_of_decoded_field hbuilt fun path hpath => ⟨hone rfl hpath, nofun⟩
  · exact exists_of_decoded_field hbuilt fun path hpath => ⟨hone rfl hpath, nofun⟩
  · refine exists_of_decoded_fields hbuilt fun path hpath value _ => ⟨hone rfl hpath, ?_⟩
    rintro _ ⟨⟩
    exact .inl ⟨rfl, hpath⟩
  · exact exists_of_decoded_field hbuilt fun path hpath => ⟨hone rfl hpath, nofun⟩
  · -- A move has two fields of the payload.
    refine exists_of_decoded_fields hbuilt fun source hsource target htarget => ⟨?_, ?_⟩
    · intro path hpath
      obtain rfl | hpath := List.mem_cons.mp hpath
      · exact hsource.first_mem (by simp [Fields.naming])
      · obtain rfl := List.mem_singleton.mp hpath
        exact (namesPath_of_build htarget).first_mem (by simp [Fields.naming])
    · rintro _ ⟨⟩
      exact .inr ⟨rfl, namesPath_of_build htarget⟩
  · exact exists_of_decoded_fields hbuilt fun path hpath _ _ => ⟨hone rfl hpath, nofun⟩

end Builtin

end DecisionFlow
