import Astro.Settings.Scalar
import Astro.Text.Quoted

/-!
# Values taken from a document

A value is decoded on top of the one that holds so far, and everything that does
not fit is collected on the way. A record takes its fields from the entries of a
mapping by key, and then from mappings that are merged into it, which set only
what has not been set yet.
-/

namespace Astro.Settings

/-- The type of a setting, as errors name it. Two of them are records and have fields of their
own. -/
inductive SettingType where
  | settings
  | dialect
  | truth
  | color
  | printStyle
deriving DecidableEq, Repr

/-- The name of a type in errors. They name the type that a value was to be decoded into. -/
def SettingType.text : SettingType → Text
  | .settings => Text.ofString "config.Config"
  | .dialect => Text.ofString "config.Dialect"
  | .truth => Text.ofString "bool"
  | .color => Text.ofString "string"
  | .printStyle => Text.ofString "config.PrintStyle"

/-- A part of a document that does not fit the settings. -/
inductive Mismatch where
  | scalar (found : Scalar) (wanted : SettingType)
  | sequence (line : Nat) (wanted : SettingType)
  | mapping (line : Nat) (wanted : SettingType)
  | unknownKey (line : Nat) (key : Text) (holder : SettingType)
  | duplicateKey (line : Nat) (key : Text) (first : Nat)
  | unmergeable
deriving DecidableEq, Repr

namespace Mismatch

/-- A text, cut short when it has more than ten bytes. -/
def shorten (text : Text) : Text :=
  if 10 < text.length then text.take 7 ++ Text.ofString "..." else text

/-- What is reported about a mismatch. It names the line, the type that was found with as much of
the scalar as is quoted, and the type that was wanted. -/
def text : Mismatch → Text
  | scalar found wanted =>
    Text.ofString "line " ++ Text.ofNat found.line ++ Text.ofString ": cannot unmarshal " ++
      found.tag.text ++ Text.ofString " `" ++ shorten found.text ++ Text.ofString "` into " ++
      wanted.text
  | sequence line wanted =>
    Text.ofString "line " ++ Text.ofNat line ++ Text.ofString ": cannot unmarshal !!seq into " ++
      wanted.text
  | mapping line wanted =>
    Text.ofString "line " ++ Text.ofNat line ++ Text.ofString ": cannot unmarshal !!map into " ++
      wanted.text
  | unknownKey line key holder =>
    Text.ofString "line " ++ Text.ofNat line ++ Text.ofString ": field " ++ key ++
      Text.ofString " not found in type " ++ holder.text
  | duplicateKey line key first =>
    Text.ofString "line " ++ Text.ofNat line ++ Text.ofString ": mapping key " ++ key.quote ++
      Text.ofString " already defined at line " ++ Text.ofNat first
  | unmergeable =>
    Text.ofString "map merge requires map or sequence of maps as the value"

end Mismatch

/-- A value taken from a document, with everything that did not fit. -/
abbrev Decoded (α : Type) := α × List Mismatch

/-- The keys of a mapping that were there before, one mismatch for every pair. -/
def duplicates : List (Scalar × Document) → List Mismatch
  | [] => []
  | (key, _) :: rest =>
    (rest.filter fun entry => entry.1.text = key.text).map
        (fun entry => .duplicateKey entry.1.line key.text key.line) ++
      duplicates rest

/-- What does not fit when a mapping stands where it cannot. -/
def misplacedMapping (line : Nat) (entries : List (Scalar × Document)) (wanted : SettingType) :
    List Mismatch :=
  match duplicates entries with
  | [] => [.mapping line wanted]
  | found => found

/-- A truth value, which is `current` unless the document says otherwise. -/
def decodeTruth (current : Bool) : Document → Decoded Bool
  | .scalar scalar =>
    match scalar.tag, ScalarTag.olderBool? scalar.text with
    | .null, _ => (current, [])
    | .bool value, _ => (value, [])
    | .str, some value => (value, [])
    | _, _ => (current, [.scalar scalar .truth])
  | .sequence line _ => (current, [.sequence line .truth])
  | .mapping line entries => (current, misplacedMapping line entries .truth)

/-- A string, which is `current` unless the document says otherwise. Every scalar is
a string, by its spelling. -/
def decodeString (wanted : SettingType) (current : Text) : Document → Decoded Text
  | .scalar scalar => if scalar.isNull then (current, []) else (scalar.text, [])
  | .sequence line _ => (current, [.sequence line wanted])
  | .mapping line entries => (current, misplacedMapping line entries wanted)

/-- One of the mappings that a record is decoded from: its entries, or what does not
fit when there are none to be had. -/
inductive Layer where
  | entries (entries : List (Scalar × Document))
  | unfit (mismatches : List Mismatch)

mutual

/-- The layers of a mapping: itself, and the mappings merged into it. A mapping with
duplicate keys has no entries. -/
def layers : Document → List Layer
  | .scalar _ => [.unfit [.unmergeable]]
  | .sequence _ _ => [.unfit [.unmergeable]]
  | .mapping _ entries =>
    match duplicates entries with
    | [] => .entries entries :: mergedLayers entries
    | found => [.unfit found]

/-- The layers of what the entries of a mapping merge into it: a mapping, or a sequence
of mappings. -/
def mergedLayers : List (Scalar × Document) → List Layer
  | [] => []
  | (key, value) :: rest =>
    if key.tag = .merge then
      match value with
      | .sequence _ items => itemLayers items
      | .scalar scalar => layers (.scalar scalar)
      | .mapping line entries => layers (.mapping line entries)
    else mergedLayers rest

/-- The layers of the items of a sequence. They are merged in the order of the items. -/
def itemLayers : List Document → List Layer
  | [] => []
  | first :: rest => layers first ++ itemLayers rest

end

/-- A record that is being decoded: what it is so far, what did not fit, and the keys
that a merged mapping no longer sets. -/
structure Building (α : Type) where
  record : α
  mismatches : List Mismatch
  taken : List Text

namespace Building

variable {α : Type} (holder : SettingType) (change : Text → Option (α → Document → Decoded α))

/-- Let an entry change the record by its key. A key that the record does not have is a mismatch
and changes nothing. -/
def set (building : Building α) (key : Scalar) (value : Document) : Building α :=
  match change key.text with
  | some field =>
    let (record, found) := field building.record value
    { building with record, mismatches := building.mismatches ++ found }
  | none =>
    { building with mismatches := building.mismatches ++ [.unknownKey key.line key.text holder] }

/-- Let an entry of a merged mapping change the record, unless its key is taken. -/
def setFree (building : Building α) (key : Scalar) (value : Document) : Building α :=
  if key.text ∈ building.taken then building
  else
    let changed := building.set holder change key value
    { changed with taken := key.text :: changed.taken }

/-- Let the entries of a mapping change the record one after the other. Entries whose
key denotes nothing, or a merge, are passed over. -/
def setAll (setOne : Building α → Scalar → Document → Building α) (building : Building α) :
    Layer → Building α
  | .entries entries =>
    (entries.filter fun entry => !entry.1.isNull && entry.1.tag ≠ .merge).foldl
      (fun building entry => setOne building entry.1 entry.2) building
  | .unfit found => { building with mismatches := building.mismatches ++ found }

end Building

/-- The keys of a mapping that are strings. What is merged into the mapping does not set these. -/
def Layer.stringKeys : Layer → List Text
  | .entries own => (own.filter fun entry => entry.1.tag = .str).map (·.1.text)
  | .unfit _ => []

/-- A record, which is `current` unless the document says otherwise: each entry
changes it by its key, or is a mismatch. -/
def decodeRecord {α : Type} (holder : SettingType) (current : α)
    (change : Text → Option (α → Document → Decoded α)) : Document → Decoded α
  | .scalar scalar =>
    if scalar.isNull then (current, []) else (current, [.scalar scalar holder])
  | .sequence line _ => (current, [.sequence line holder])
  | .mapping line entries =>
    match layers (.mapping line entries) with
    | [] => (current, [])
    | own :: merged =>
      let start : Building α := ⟨current, [], own.stringKeys⟩
      let built := merged.foldl (Building.setAll (Building.setFree holder change))
        (start.setAll (Building.set holder change) own)
      (built.record, built.mismatches)

end Astro.Settings
