import Astro.Settings

/-!
# What a document gives

A document gives a setting when it has the key of that setting, itself or in what is merged
into it, with a value that is not null. Decoding a document in which nothing is found that
does not fit sets exactly what is given, to the value that is given, and leaves everything
else as it was (`decode_sets`).

Where a key stands more than once among the mappings that make up a record, the first one
counts, and it counts also when its value is null. The proof follows the decoder over these
entries, with what is known of a single field before and behind each of them
(`Field.Known`).
-/

namespace Astro

namespace Settings

/-! ### Values by key -/

/-- The entries of a layer that a record takes its fields from: those whose keys denote
something, and no merge. -/
def Layer.shown : Layer → List (Scalar × Document)
  | .entries own => own.filter fun entry => !entry.1.isNull && entry.1.tag ≠ .merge
  | .unfit _ => []

/-- The value of the first entry with a key. -/
def valueIn (key : Text) (entries : List (Scalar × Document)) : Option Document :=
  (entries.find? fun entry => entry.1.text = key).map Prod.snd

end Settings

namespace Document

/-- Whether a node denotes nothing. A list or a mapping always denotes something. -/
def isNull : Document → Bool
  | .scalar leaf => leaf.isNull
  | _ => false

/-- The value that a document has for a key: in the mapping itself, or else in those that are
merged into it. -/
def value? (document : Document) (key : Text) : Option Document :=
  Settings.valueIn key ((Settings.layers document).flatMap Settings.Layer.shown)

/-- The value that a document gives for a key: the one that it has, unless that is null. -/
def given? (document : Document) (key : Text) : Option Document :=
  (document.value? key).filter fun value => !value.isNull

/-- The truth value that a node stands for where one is wanted. -/
def truth : Document → Bool
  | .scalar leaf =>
    match leaf.tag with
    | .bool value => value
    | _ => ScalarTag.olderBool? leaf.text = some true
  | _ => false

/-- The spelling of a scalar. Nodes of any other sort have none. -/
def spelling : Document → Text
  | .scalar leaf => leaf.text
  | _ => []

end Document

/-- What is given for each setting, if anything is. Truth values and words are given as they are
read. -/
structure Given where
  modulo : Option Bool
  negation : Option Bool
  print : Option Text
  color : Option Text

namespace Given

/-- What a document gives. Each setting is looked up by its key, those of the dialect in the
record under theirs. -/
def ofDocument (document : Document) : Given where
  modulo := ((document.value? (Text.ofString "dialect")).bind
    (·.given? (Text.ofString "modulo"))).map Document.truth
  negation := ((document.value? (Text.ofString "dialect")).bind
    (·.given? (Text.ofString "negation"))).map Document.truth
  print := ((document.value? (Text.ofString "dialect")).bind
    (·.given? (Text.ofString "print"))).map Document.spelling
  color := (document.given? (Text.ofString "color")).map Document.spelling

/-- Nothing at all. An empty document gives this. -/
def nothing : Given := ⟨none, none, none, none⟩

/-- Settings are those that held before, except for what is given. -/
structure Sets (given : Given) (before after : Settings) : Prop where
  modulo : after.dialect.modulo = given.modulo.getD before.dialect.modulo
  negation : after.dialect.negation = given.negation.getD before.dialect.negation
  print : after.dialect.print.text = given.print.getD before.dialect.print.text
  color : after.color.text = given.color.getD before.color.text

/-- Where nothing is given, all settings are those that held before. -/
theorem nothing_sets (settings : Settings) : nothing.Sets settings settings :=
  ⟨rfl, rfl, rfl, rfl⟩

end Given

namespace Settings

/-- There is no value for a key without entries. This is what a document without the key comes to.
-/
theorem valueIn_nil (key : Text) : valueIn key [] = none := rfl

/-- The first entry with a key decides on the value, and an entry with another key does not
matter. -/
theorem valueIn_cons (key : Text) (entry : Scalar × Document)
    (entries : List (Scalar × Document)) :
    valueIn key (entry :: entries) =
      if entry.1.text = key then some entry.2 else valueIn key entries := by
  rw [valueIn, List.find?_cons]
  by_cases same : entry.1.text = key
  · rw [if_pos same, decide_eq_true same]
    rfl
  · rw [if_neg same, decide_eq_false same]
    rfl

/-- Behind some entries, others count only for the keys that those do not have. -/
theorem valueIn_append (key : Text) (first second : List (Scalar × Document)) :
    valueIn key (first ++ second) = (valueIn key first).or (valueIn key second) := by
  rw [valueIn, List.find?_append, Option.map_or]
  rfl

/-- There is a value for a key exactly when an entry has the key. -/
theorem valueIn_isSome_iff {key : Text} {entries : List (Scalar × Document)} :
    (valueIn key entries).isSome = true ↔ ∃ entry ∈ entries, entry.1.text = key := by
  rw [valueIn, Option.isSome_map, List.find?_isSome]
  simp only [decide_eq_true_eq]

/-! ### Fields of records -/

variable {α β : Type} {holder : SettingType} {change : Text → Option (α → Document → Decoded α)}
  {key : Text} {view : α → β} {read : β → Document → β}

/-- A part of a record is a field with a key: an entry with that key changes it as its value
is read, unless the value does not fit, and entries with other keys leave it. -/
structure Field (change : Text → Option (α → Document → Decoded α)) (key : Text) (view : α → β)
    (read : β → Document → β) : Prop where
  sets : ∀ field, change key = some field → ∀ record value, (field record value).2 = [] →
    view (field record value).1 = read (view record) value
  leaves : ∀ other field, other ≠ key → change other = some field → ∀ record value,
    view (field record value).1 = view record
  word : ∀ scalar : Scalar, scalar.text = key → scalar.tag = .str

/-- An entry does not change which keys are taken. -/
theorem taken_set (building : Building α) (entry : Scalar) (value : Document) :
    (building.set holder change entry value).taken = building.taken := by
  unfold Building.set
  split <;> rfl

/-- Nor do any number of entries. The keys that are taken are those of the mapping itself, and are
known before. -/
theorem taken_foldl_set (entries : List (Scalar × Document)) (building : Building α) :
    (entries.foldl (fun building entry => building.set holder change entry.1 entry.2)
      building).taken = building.taken := by
  induction entries generalizing building with
  | nil => rfl
  | cons entry rest behind => rw [List.foldl_cons, behind, taken_set]

namespace Field

variable (field : Field change key view read)

include field

/-- An entry that fits sets the field if it has the key, and else leaves it. If it fits, so did
all entries before it. -/
theorem view_set (building : Building α) (entry : Scalar) (value : Document)
    (fits : (building.set holder change entry value).mismatches = []) :
    building.mismatches = [] ∧ view (building.set holder change entry value).record =
      if entry.text = key then read (view building.record) value else view building.record := by
  unfold Building.set at fits ⊢
  cases found : change entry.text with
  | none =>
    rw [found] at fits
    cases (List.append_eq_nil_iff.mp fits).2
  | some setter =>
    rw [found] at fits
    obtain ⟨before, clean⟩ := List.append_eq_nil_iff.mp fits
    refine ⟨before, ?_⟩
    by_cases same : entry.text = key
    · rw [if_pos same]
      exact field.sets setter (same ▸ found) _ _ clean
    · rw [if_neg same]
      exact field.leaves _ setter same found _ _

/-- The entries of the mapping itself are all let change the record. No key stands there
twice, so that the field is set at most once. -/
theorem view_foldl_set {entries : List (Scalar × Document)}
    (distinct : entries.Pairwise fun first second => first.1.text ≠ second.1.text)
    (building : Building α)
    (fits : (entries.foldl (fun building entry => building.set holder change entry.1 entry.2)
      building).mismatches = []) :
    building.mismatches = [] ∧
      view (entries.foldl (fun building entry => building.set holder change entry.1 entry.2)
        building).record =
        (valueIn key entries).elim (view building.record) (read (view building.record)) := by
  induction entries generalizing building with
  | nil => exact ⟨fits, rfl⟩
  | cons entry rest behind =>
    obtain ⟨fresh, others⟩ := List.pairwise_cons.mp distinct
    obtain ⟨clean, later⟩ := behind others _ fits
    obtain ⟨before, here⟩ := field.view_set building entry.1 entry.2 clean
    refine ⟨before, ?_⟩
    rw [List.foldl_cons, later, here, valueIn_cons]
    by_cases same : entry.1.text = key
    · have none : valueIn key rest = none := by
        rw [← Option.not_isSome_iff_eq_none, valueIn_isSome_iff]
        rintro ⟨other, member, also⟩
        exact fresh other member (same.trans also.symm)
      rw [if_pos same, if_pos same, none]
      rfl
    · rw [if_neg same, if_neg same]

end Field

/-- What is known of a field while mappings are merged into a record: as long as everything
fits, the value that was found for it was read, if there was one, and then its key is
taken. -/
structure Field.Known (key : Text) (view : α → β) (read : β → Document → β) (start : β)
    (building : Building α) (found : Option Document) : Prop where
  value : building.mismatches = [] → view building.record = found.elim start (read start)
  taken : key ∈ building.taken ↔ found.isSome = true

namespace Field.Known

variable {start : β} {building : Building α} {found : Option Document} (holder)

/-- An entry of a merged mapping is found unless there is a value already. Then its key is taken,
and the later ones with the same key do not count. -/
theorem setFree (known : Known key view read start building found)
    (field : Field change key view read) (entry : Scalar × Document) :
    Known key view read start (building.setFree holder change entry.1 entry.2)
      (found.or (valueIn key [entry])) := by
  have alone : valueIn key [entry] = if entry.1.text = key then some entry.2 else none :=
    valueIn_cons key entry []
  unfold Building.setFree
  by_cases blocked : entry.1.text ∈ building.taken
  · rw [if_pos blocked]
    have kept : found.or (valueIn key [entry]) = found := by
      rw [alone]
      split
      · next same =>
        have some := known.taken.mp (same ▸ blocked)
        obtain ⟨value, rfl⟩ := Option.isSome_iff_exists.mp some
        rfl
      · exact Option.or_none
    rwa [kept]
  · rw [if_neg blocked]
    constructor
    · intro fits
      obtain ⟨before, here⟩ := field.view_set building entry.1 entry.2 fits
      have value := known.value before
      rw [here, value, alone]
      split
      · next same =>
        have none : found = none := by
          rw [← Option.not_isSome_iff_eq_none, ← known.taken, ← same]
          exact blocked
        rw [none]
        rfl
      · rw [Option.or_none]
    · change key ∈ entry.1.text :: (building.set holder change entry.1 entry.2).taken ↔ _
      rw [taken_set, List.mem_cons, known.taken, Option.isSome_or, Bool.or_eq_true,
        valueIn_isSome_iff, or_comm, @eq_comm _ key]
      simp only [List.mem_singleton, exists_eq_left]

/-- All entries of merged mappings are found in their order, each unless there is a value already.
-/
theorem foldl_setFree (known : Known key view read start building found)
    (field : Field change key view read) (entries : List (Scalar × Document)) :
    Known key view read start
      (entries.foldl (fun building entry => building.setFree holder change entry.1 entry.2)
        building)
      (found.or (valueIn key entries)) := by
  induction entries generalizing building found with
  | nil =>
    rw [valueIn_nil, Option.or_none]
    exact known
  | cons entry rest behind =>
    rw [List.foldl_cons, ← List.singleton_append, valueIn_append, ← Option.or_assoc]
    exact behind (known.setFree holder field entry)

/-- The layers of a mapping that are merged into it are gone through one after another.

Proof: induction on the layers. One with entries of its own sets what it has for the key, and one
that does not fit adds mismatches and nothing else. -/
theorem foldl_setAll (known : Known key view read start building found)
    (field : Field change key view read) (merged : List Layer) :
    Known key view read start
      (merged.foldl (Building.setAll (Building.setFree holder change)) building)
      (found.or (valueIn key (merged.flatMap Layer.shown))) := by
  induction merged generalizing building found with
  | nil =>
    rw [List.flatMap_nil, valueIn_nil, Option.or_none]
    exact known
  | cons layer rest behind =>
    rw [List.foldl_cons, List.flatMap_cons, valueIn_append, ← Option.or_assoc]
    apply behind
    cases layer with
    | entries own => exact known.foldl_setFree holder field (Layer.shown (.entries own))
    | unfit mismatches =>
      rw [Layer.shown, valueIn_nil, Option.or_none]
      exact ⟨fun fits => known.value (List.append_eq_nil_iff.mp fits).1, known.taken⟩

end Field.Known

/-- Where no key is a duplicate, they are all different, also when some of them are no strings. -/
theorem distinct_of_duplicates {entries : List (Scalar × Document)}
    (unique : duplicates entries = []) :
    entries.Pairwise fun first second => first.1.text ≠ second.1.text := by
  induction entries with
  | nil => exact .nil
  | cons entry rest others =>
    obtain ⟨none, later⟩ := List.append_eq_nil_iff.mp unique
    refine .cons ?_ (others later)
    rw [List.map_eq_nil_iff, List.filter_eq_nil_iff] at none
    intro other member same
    exact none other member (decide_eq_true same.symm)

namespace Field

variable (field : Field change key view read)

include field

/-- A key is taken by the mapping itself when it has a value there. -/
theorem mem_stringKeys_iff (entries : List (Scalar × Document)) :
    key ∈ Layer.stringKeys (.entries entries) ↔
      (valueIn key (Layer.shown (.entries entries))).isSome = true := by
  rw [valueIn_isSome_iff, Layer.stringKeys, Layer.shown, List.mem_map]
  refine exists_congr fun entry => ?_
  rw [List.mem_filter, List.mem_filter]
  constructor
  · rintro ⟨⟨member, -⟩, same⟩
    simp [member, same, Scalar.isNull, field.word _ same]
  · rintro ⟨⟨member, -⟩, same⟩
    simp [member, same, field.word _ same]

/-- What the mapping itself does to a field: the field is set by the value that the mapping has
for its key, and the key is taken. -/
theorem known_own (holder : SettingType) {entries : List (Scalar × Document)}
    (unique : duplicates entries = []) (current : α) :
    Known key view read (view current)
      (Building.setAll (Building.set holder change)
        ⟨current, [], Layer.stringKeys (.entries entries)⟩ (.entries entries))
      (valueIn key (Layer.shown (.entries entries))) := by
  have distinct := (distinct_of_duplicates unique).filter
    fun entry => !entry.1.isNull && entry.1.tag ≠ .merge
  constructor
  · exact fun fits => (field.view_foldl_set distinct _ fits).2
  · rw [Building.setAll, taken_foldl_set]
    exact field.mem_stringKeys_iff entries

/-- Decoding a record sets a field as the value is read that the document has for its key,
and leaves it when there is none. -/
theorem view_decodeRecord (current : α) (document : Document)
    (fits : (decodeRecord holder current change document).2 = []) :
    view (decodeRecord holder current change document).1 =
      (document.value? key).elim (view current) (read (view current)) := by
  cases document with
  | scalar leaf =>
    rw [decodeRecord]
    split <;> rfl
  | sequence line items => rfl
  | mapping line entries =>
    cases unique : duplicates entries with
    | cons mismatch others =>
      have shape : layers (.mapping line entries) = [.unfit (mismatch :: others)] := by
        rw [layers, unique]
      rw [decodeRecord, shape] at fits
      cases fits
    | nil =>
      have shape : layers (.mapping line entries) = .entries entries :: mergedLayers entries := by
        rw [layers, unique]
      rw [decodeRecord, shape] at fits ⊢
      have known := (field.known_own holder unique current).foldl_setAll holder field
        (mergedLayers entries)
      rw [known.value fits, Document.value?, shape, List.flatMap_cons, valueIn_append]

end Field

/-! ### The fields of the settings -/

/-- How a truth value is read on top of one that holds so far. -/
def readTruth (current : Bool) (value : Document) : Bool :=
  if value.isNull then current else value.truth

/-- How a text is read on top of one that holds so far. -/
def readSpelling (current : Text) (value : Document) : Text :=
  if value.isNull then current else value.spelling

/-- A truth value that fits is read as one, and null leaves what holds so far. Words that older
documents have for truth values are taken as well, and a list or a mapping never fits. -/
theorem decodeTruth_fits {current : Bool} {value : Document}
    (fits : (decodeTruth current value).2 = []) :
    (decodeTruth current value).1 = readTruth current value := by
  cases value with
  | scalar leaf =>
    cases sort : leaf.tag with
    | null => simp [decodeTruth, readTruth, Document.isNull, Scalar.isNull, sort]
    | bool truth =>
      simp [decodeTruth, readTruth, Document.isNull, Document.truth, Scalar.isNull, sort]
    | str =>
      cases older : ScalarTag.olderBool? leaf.text with
      | none => simp [decodeTruth, sort, older] at fits
      | some truth =>
        simp [decodeTruth, readTruth, Document.isNull, Document.truth, Scalar.isNull, sort, older]
    | _ => simp [decodeTruth, sort] at fits
  | sequence line items => cases fits
  | mapping line entries =>
    rw [decodeTruth, misplacedMapping] at fits
    split at fits
    · cases fits
    · next found => exact absurd fits found

/-- A text that fits is read as its spelling, and null leaves what holds so far. -/
theorem decodeString_fits {wanted : SettingType} {current : Text} {value : Document}
    (fits : (decodeString wanted current value).2 = []) :
    (decodeString wanted current value).1 = readSpelling current value := by
  cases value with
  | scalar leaf =>
    cases nothing : leaf.isNull with
    | true => simp [decodeString, readSpelling, Document.isNull, nothing]
    | false => simp [decodeString, readSpelling, Document.isNull, Document.spelling, nothing]
  | sequence line items => cases fits
  | mapping line entries =>
    rw [decodeString, misplacedMapping] at fits
    split at fits
    · cases fits
    · next found => exact absurd fits found

/-- A field is set by the one setter that its key stands for. A key that denotes nothing else
when it is plain is a string. -/
theorem Field.ofSetter {setter : α → Document → Decoded α} (found : change key = some setter)
    (sets : ∀ record value, (setter record value).2 = [] →
      view (setter record value).1 = read (view record) value)
    (leaves : ∀ other field, other ≠ key → change other = some field → ∀ record value,
      view (field record value).1 = view record)
    (plain : ScalarTag.ofPlain key = .str) : Field change key view read where
  sets := by
    intro field also record value fits
    obtain rfl : setter = field := Option.some.inj (found.symm.trans also)
    exact sets record value fits
  leaves := leaves
  word := by
    intro scalar same
    rw [Scalar.tag, same, plain, ite_self]

/-- What sets a part of the dialect, and by which key. -/
theorem dialectField_cases {key : Text} {setter : Dialect → Document → Decoded Dialect}
    (found : dialectField key = some setter) :
    (key = Text.ofString "modulo" ∧ setter = fun dialect value =>
      (decodeTruth dialect.modulo value).map (fun modulo => { dialect with modulo }) id) ∨
    (key = Text.ofString "negation" ∧ setter = fun dialect value =>
      (decodeTruth dialect.negation value).map (fun negation => { dialect with negation }) id) ∨
    (key = Text.ofString "print" ∧ setter = fun dialect value =>
      (decodeString .printStyle dialect.print.text value).map
        (fun word => { dialect with print := .ofText word }) id) := by
  unfold dialectField at found
  split at found
  · next same => exact .inl ⟨same, (Option.some.inj found).symm⟩
  split at found
  · next same => exact .inr (.inl ⟨same, (Option.some.inj found).symm⟩)
  split at found
  · next same => exact .inr (.inr ⟨same, (Option.some.inj found).symm⟩)
  · cases found

/-- What sets a part of the settings, and by which key. -/
theorem field_cases {key : Text} {setter : Settings → Document → Decoded Settings}
    (found : field key = some setter) :
    (key = Text.ofString "dialect" ∧ setter = fun settings value =>
      (decodeRecord .dialect settings.dialect dialectField value).map
        (fun dialect => { settings with dialect }) id) ∨
    (key = Text.ofString "color" ∧ setter = fun settings value =>
      (decodeString .color settings.color.text value).map
        (fun word => { settings with color := .ofText word }) id) := by
  unfold field at found
  split at found
  · next same => exact .inl ⟨same, (Option.some.inj found).symm⟩
  split at found
  · next same => exact .inr ⟨same, (Option.some.inj found).symm⟩
  · cases found

/-- Whether there is a modulo operator is a field of the dialect, read as a truth value. -/
theorem modulo_field :
    Field dialectField (Text.ofString "modulo") Dialect.modulo readTruth := by
  refine .ofSetter rfl (fun _ _ fits => decodeTruth_fits fits) ?leaves (by decide +kernel)
  intro other setter different found record value
  obtain ⟨same, rfl⟩ | ⟨-, rfl⟩ | ⟨-, rfl⟩ := dialectField_cases found
  · exact absurd same different
  · rfl
  · rfl

/-- Whether there is a negation is a field of the dialect, read as a truth value. -/
theorem negation_field :
    Field dialectField (Text.ofString "negation") Dialect.negation readTruth := by
  refine .ofSetter rfl (fun _ _ fits => decodeTruth_fits fits) ?leaves (by decide +kernel)
  intro other setter different found record value
  obtain ⟨-, rfl⟩ | ⟨same, rfl⟩ | ⟨-, rfl⟩ := dialectField_cases found
  · rfl
  · exact absurd same different
  · rfl

/-- How `print` is read is a field of the dialect, read as a text. The text is what is looked at,
because any text is a print style. -/
theorem print_field :
    Field dialectField (Text.ofString "print") (fun dialect => dialect.print.text)
      readSpelling := by
  refine .ofSetter rfl
    (fun _ _ fits => (PrintStyle.text_ofText _).trans (decodeString_fits fits)) ?leaves
    (by decide +kernel)
  intro other setter different found record value
  obtain ⟨-, rfl⟩ | ⟨-, rfl⟩ | ⟨same, rfl⟩ := dialectField_cases found
  · rfl
  · rfl
  · exact absurd same different

/-- Every word names a mode that is spelled like it. -/
theorem text_ofText_color (word : Text) : (ColorMode.ofText word).text = word := by
  unfold ColorMode.ofText
  split
  · simp_all [ColorMode.text]
  split
  · simp_all [ColorMode.text]
  · split <;> simp_all [ColorMode.text]

/-- When colors are used is a field of the settings, read as a text. -/
theorem color_field :
    Field field (Text.ofString "color") (fun settings => settings.color.text) readSpelling := by
  refine .ofSetter rfl
    (fun _ _ fits => (text_ofText_color _).trans (decodeString_fits fits)) ?leaves
    (by decide +kernel)
  intro other setter different found record value
  obtain ⟨-, rfl⟩ | ⟨same, rfl⟩ := field_cases found
  · rfl
  · exact absurd same different

/-- A field of the dialect is a field of the settings: its value stands in the record of the
dialect. -/
theorem Field.ofDialect {β : Type} {key : Text} {view : Dialect → β} {read : β → Document → β}
    (inner : Field dialectField key view read) :
    Field field (Text.ofString "dialect") (fun settings => view settings.dialect)
      (fun current value => (value.value? key).elim current (read current)) := by
  refine .ofSetter rfl
    (fun record value fits => inner.view_decodeRecord record.dialect value fits) ?leaves
    (by decide +kernel)
  intro other setter different found record value
  obtain ⟨same, rfl⟩ | ⟨-, rfl⟩ := field_cases found
  · exact absurd same different
  · rfl

/-- What is read on top of a value is what is given, or that value. A null counts as not given. -/
theorem elim_read {β : Type} (denote : Document → β) (current : β) (document : Document)
    (key : Text) :
    (document.value? key).elim current
        (fun value => if value.isNull then current else denote value) =
      ((document.given? key).map denote).getD current := by
  rw [Document.given?]
  cases document.value? key with
  | none => rfl
  | some value => cases nothing : value.isNull <;> simp [Option.filter, nothing]

/-- Decoding a document in which everything fits sets exactly what the document gives, and leaves
all other settings as they were before. -/
theorem decode_sets (before : Settings) (document : Document)
    (fits : (decodeRecord .settings before field document).2 = []) :
    (Given.ofDocument document).Sets before
      (decodeRecord .settings before field document).1 := by
  have inDialect {β : Type} {key : Text} {view : Dialect → β} {denote : Document → β}
      (inner : Field dialectField key view
        fun current value => if value.isNull then current else denote value) :
      view (decodeRecord .settings before field document).1.dialect =
        (((document.value? (Text.ofString "dialect")).bind (·.given? key)).map denote).getD
          (view before.dialect) := by
    rw [inner.ofDialect.view_decodeRecord before document fits]
    cases document.value? (Text.ofString "dialect") with
    | none => rfl
    | some value => exact elim_read denote _ value key
  constructor
  · exact inDialect modulo_field
  · exact inDialect negation_field
  · exact inDialect print_field
  · exact (color_field.view_decodeRecord before document fits).trans (elim_read _ _ document _)

end Settings

end Astro
