import DecisionFlow.Decimal.Layout
import DecisionFlow.Settings
import DecisionFlow.Settings.Name

/-!
# Layers of settings

Settings come from several sources. Each source gives a layer of named settings, and a layer covers
the ones below it. What a setting stands for is decided only when the layers have been put together,
so that a number may also be given as text.

- `Setting`: what a source gives for one name.
- `Setting.natural?`, `Setting.flag?`, `Setting.text?`, `Setting.format?`: what a setting stands for
  where one of these is wanted.
- `Layer.onto`: a layer on top of another one. Tables are merged, and names are compared in lower
  case.
- `Layer.source`: the entries of a source on top of a layer. Their names may lead into tables and
  lists.
- `Layer.settings?`: the settings that a layer gives; the defaults where it gives none.
-/

namespace DecisionFlow

/-- What a source gives for a name. -/
inductive Setting where
  | nothing
  | flag (b : Bool)
  | whole (n : Int)
  | float (x : Float)
  | text (s : String)
  | list (items : List Setting)
  | table (entries : List (String × Setting))
deriving Inhabited

/-- Named settings of one or more sources. -/
abbrev Layer := List (String × Setting)

namespace Setting

/-- The entries of a setting that is a table. -/
def entries : Setting → Layer
  | .table entries => entries
  | _ => []

/-! ## What a setting stands for -/

/-- The truth of a word, in whatever case. -/
def truth? (word : String) : Option Bool :=
  match Text.toLower word with
  | "true" | "on" | "yes" => some true
  | "false" | "off" | "no" => some false
  | _ => none

/-- The natural number of 64 bits that a setting stands for. Fractions are rounded; truth counts as
one. -/
def natural? : Setting → Option Nat
  | .flag b => some b.toNat
  | .whole n => if 0 ≤ n then some n.toNat else none
  | .float x => some x.round.toUInt64.toNat
  | .text s =>
    match truth? s with
    | some b => some b.toNat
    | none =>
      let digits := match s.toList with
        | '+' :: digits => digits
        | digits => digits
      (Text.digitsIn? 10 digits).filter (· < 0x10000000000000000)
  | _ => none

/-- The truth value that a setting stands for. Numbers other than zero are true. -/
def flag? : Setting → Option Bool
  | .flag b => some b
  | .whole n => some (n != 0)
  | .float x => some (x != 0.0)
  | .text "1" => some true
  | .text "0" => some false
  | .text s => truth? s
  | _ => none

/-- The text that a setting stands for. -/
def text? : Setting → Option String
  | .flag b => some (toString b)
  | .whole n => some (toString n)
  | .float x => some (Decimal.plainText x)
  | .text s => some s
  | _ => none

/-- The format that a setting names, in whatever case. The name may also be the only
one in a table. -/
def format? : Setting → Option Format
  | .text name | .table [(name, _)] =>
    [Format.json, Format.yaml].find? (·.name == Text.toLower name)
  | _ => none

end Setting

namespace Layer

/-- Sets an entry: in its place if there is one of that name, at the end otherwise. -/
def put : Layer → String → Setting → Layer
  | [], name, setting => [(name, setting)]
  | (key, old) :: rest, name, setting =>
    if key = name then (key, setting) :: rest else (key, old) :: put rest name setting

end Layer

mutual

/-- A setting on top of what is below it. An empty table covers nothing. -/
def Setting.onto : Setting → Option Setting → Setting
  | .table [], below => below.getD (.table [])
  | .table (entry :: entries), below =>
    .table (Layer.onto (entry :: entries) ((below.map Setting.entries).getD []))
  | top, _ => top

/-- Entries on top of a layer. -/
def Layer.onto : List (String × Setting) → Layer → Layer
  | [], below => below
  | (name, setting) :: rest, below =>
    let name := Text.toLower name
    Layer.onto rest (Layer.put below name (setting.onto (below.lookup name)))

end

namespace Setting

/-- The items of a setting that is a list. -/
def items : Setting → List Setting
  | .list items => items
  | _ => []

/-- Changes the item at an index. Items that are missing in front of it are made, with nothing in
them; no index reaches beyond the first item. -/
def changeItem (items : List Setting) (index : Int) (change : Option Setting → Setting) :
    List Setting :=
  match if 0 ≤ index then index else items.length + index with
  | .ofNat n =>
    items.take n ++ List.replicate (n - items.length) .nothing ++ change items[n]? ::
      items.drop (n + 1)
  | .negSucc _ => items

/-- Sets what steps lead to from a setting. What is no table or list on the way becomes one. The
setting itself replaces an item, but goes on top of an entry. -/
def setAt (setting : Setting) : List Step → Option Setting → Setting
  | [], _ => setting
  | [.entry name], below => .table (Layer.onto [(name, setting)] ((below.map entries).getD []))
  | .entry name :: rest, below =>
    let entries := (below.map entries).getD []
    .table (Layer.put entries name (setAt setting rest (entries.lookup name)))
  | .item index :: rest, below =>
    .list (changeItem ((below.map items).getD []) index (setAt setting rest))

end Setting

namespace Layer

/-- Sets what a name stands for. Where the name leads into a table or list, its first word counts as
it is written. -/
def set (below : Layer) (name : Setting.Name) (setting : Setting) : Layer :=
  match name.steps with
  | [] => onto [(name.first, setting)] below
  | steps => below.put name.first (setting.setAt steps (below.lookup name.first))

/-- A source's entries on top of a layer. -/
def source (entries : List (String × Setting)) (below : Layer) : Layer :=
  entries.foldl (fun below (name, setting) => below.set (.ofText name) setting) below

/-- What a layer gives for a name; `default` if it gives nothing. -/
def read {α : Type} (layer : Layer) (name : String) (view : Setting → Option α) (default : α) :
    Option α :=
  match layer.lookup name with
  | none => some default
  | some setting => view setting

/-- The settings that a layer gives; none if something does not stand for what is wanted. Other
names do not count. -/
def settings? (layer : Layer) : Option Settings := do
  let usual : Settings := {}
  let maxDepth ← layer.read "max_depth" Setting.natural? usual.maxDepth
  let discriminator ← layer.read "discriminator" Setting.text? usual.discriminator
  let defaultFormat ← layer.read "default_format" Setting.format? usual.defaultFormat
  let acceptObjectShape ← layer.read "accept_object_shape" Setting.flag? usual.acceptObjectShape
  return { maxDepth, discriminator, defaultFormat, acceptObjectShape }

end Layer

end DecisionFlow
