import Astro.Proofs.GivenSettings
import Astro.Proofs.PrintedExpressions

/-!
# Settings are loaded all or nothing

Settings are loaded once more in place: there are the default settings at first, a decoder
changes them field by field, and what it has changed is thrown away when it fails, or when
what it leaves is not valid. Nothing is said about the decoder except that it sets what a
content gives when it reports no error. When it reports one, it may have changed anything.

Whatever the decoder, the settings that come of an error are the defaults, and those that
come of no error are valid and are what the content gives (`Ends`). Valid settings know
`print`, so that in a session with their dialect every expression can be printed. Documents
are decoded in this way, and loading them gives the same settings and the same errors
(`load_eq`, `discover_eq`).
-/

namespace Astro

namespace Settings

/-! ### Loading in place -/

/-- How decoding ends: with everything set that is given, without a document to decode, or
with an error. -/
inductive Verdict (ε : Type) where
  | done
  | noDocument
  | failed (error : ε)

/-- A decoder of contents, which changes settings. It says how decoding has ended, next to the
settings as they are then. -/
abbrev Decoder (ε : Type) := Text → Settings → Settings × Verdict ε

/-- A decoder sets what a content gives when it reports no error. Where there is no document,
nothing is given and nothing is set. What an error leaves behind is not known. -/
structure Decoder.Sets {ε : Type} (decode : Decoder ε) (given : Text → Given) : Prop where
  done : ∀ {content before after}, decode content before = (after, .done) →
    (given content).Sets before after
  noDocument : ∀ {content before after}, decode content before = (after, .noDocument) →
    after = before ∧ given content = .nothing

/-- Why settings were not loaded. There is one for each step of loading that can fail. -/
inductive Fault (ε : Type) where
  | emptyPath
  | unresolved (path : Text) (error : ReadError)
  | unreadable (path : Text) (error : ReadError)
  | undecodable (path : Text) (error : ε)
  | invalid (path : Text) (message : Text)

/-- Whether a fault is that something is missing. That may come up in resolving a path and in
reading the file. -/
def Fault.isMissing {ε : Type} : Fault ε → Bool
  | unresolved _ .missing => true
  | unreadable _ .missing => true
  | _ => false

variable {ε : Type}

/-- Settings that were decoded, unless they are not valid. -/
def validated (file : Text) (settings : Settings) : Settings × Option (Fault ε) :=
  match settings.invalid? with
  | some message => (default, some (.invalid file message))
  | none => (settings, none)

section Loading

variable (decode : Decoder ε) (place read : Text → Except ReadError Text)

/-- Let the content of a file change settings. What is decoded is validated behind that, and a
file that cannot be decoded leaves the default ones. -/
def decodeInPlace (file content : Text) (settings : Settings) : Settings × Option (Fault ε) :=
  match decode content settings with
  | (_, .failed error) => (default, some (.undecodable file error))
  | (settings, .noDocument) => validated file settings
  | (settings, .done) => validated file settings

/-- Load settings from a file, which must be there, and say what is wrong. -/
def loadInPlace (path : Text) : Settings × Option (Fault ε) :=
  let settings := default
  if path = [] then (settings, some .emptyPath)
  else
    match place path with
    | .error error => (settings, some (.unresolved path error))
    | .ok file =>
      match read file with
      | .error error => (settings, some (.unreadable file error))
      | .ok content => decodeInPlace decode file content settings

/-- Load settings from the usual file, if it is there. -/
def discoverInPlace : Settings × Option (Fault ε) :=
  match loadInPlace decode place read fileName with
  | (settings, some fault) =>
    if fault.isMissing then (default, none) else (settings, some fault)
  | loaded => loaded

end Loading

/-! ### What comes of it -/

variable {decode : Decoder ε} {given : Text → Given} {place read : Text → Except ReadError Text}
  {path : Text}

/-- There is no file at a path, or no place that the path could stand for. -/
def Missing (place read : Text → Except ReadError Text) (path : Text) : Prop :=
  place path = .error .missing ∨ ∃ file, place path = .ok file ∧ read file = .error .missing

/-- Settings are what the content of a file gives on top of the defaults. -/
def FromContent (given : Text → Given) (place read : Text → Except ReadError Text) (path : Text)
    (settings : Settings) : Prop :=
  ∃ file content, place path = .ok file ∧ read file = .ok content ∧
    (given content).Sets default settings

/-- The two ways in which loading ends: with an error and the defaults, where the error tells
whether the file is missing, or with valid settings from the content of a file. -/
inductive Ends (given : Text → Given) (place read : Text → Except ReadError Text) (path : Text) :
    Settings × Option (Fault ε) → Prop where
  | failed {fault : Fault ε}
      (told : path ≠ [] → (fault.isMissing = true ↔ Missing place read path)) :
      Ends given place read path (default, some fault)
  | loaded {settings : Settings} (valid : settings.invalid? = none)
      (content : FromContent given place read path settings)
      (there : ¬ Missing place read path) :
      Ends given place read path (settings, none)

/-- A file that was read is not missing. -/
theorem not_missing_of_read {file content : Text} (placed : place path = .ok file)
    (found : read file = .ok content) : ¬ Missing place read path := by
  rintro (nowhere | ⟨other, there, missing⟩)
  · rw [placed] at nowhere
    cases nowhere
  · rw [placed] at there
    cases there
    rw [found] at missing
    cases missing

/-- Other errors do not tell that the file is missing, and it is not. -/
theorem Ends.other {fault : Fault ε} (other : fault.isMissing = false)
    (there : ¬ Missing place read path) : Ends given place read path (default, some fault) :=
  .failed fun _ => iff_of_false (by simp [other]) there

/-- Decoded settings are valid, or the defaults stand for them. -/
theorem ends_validated (file : Text) {settings : Settings}
    (content : FromContent given place read path settings) (there : ¬ Missing place read path) :
    Ends given place read path (@validated ε file settings) := by
  unfold validated
  cases valid : settings.invalid? with
  | none => exact .loaded valid content there
  | some message => exact .other rfl there

/-- Decoding a content that was read ends in one of the two ways. -/
theorem ends_decodeInPlace (sets : decode.Sets given) {file content : Text}
    (placed : place path = .ok file) (found : read file = .ok content) :
    Ends given place read path (decodeInPlace decode file content default) := by
  have there := not_missing_of_read placed found
  unfold decodeInPlace
  cases decoded : decode content default with
  | mk settings verdict =>
    cases verdict with
    | failed error => exact .other rfl there
    | done => exact ends_validated file ⟨file, content, placed, found, sets.done decoded⟩ there
    | noDocument =>
      obtain ⟨rfl, nothing⟩ := sets.noDocument decoded
      exact ends_validated file
        ⟨file, content, placed, found, nothing ▸ Given.nothing_sets _⟩ there

/-- Loading ends in one of the two ways, whichever step fails. A file is missing when its path
cannot be resolved or when it cannot be read for that reason. Otherwise the decoder has the last
word. -/
theorem ends_loadInPlace (sets : decode.Sets given) (place read : Text → Except ReadError Text)
    (path : Text) : Ends given place read path (loadInPlace decode place read path) := by
  unfold loadInPlace
  by_cases empty : path = []
  · rw [if_pos empty]
    exact .failed fun some => absurd empty some
  rw [if_neg empty]
  cases placed : place path with
  | error error =>
    refine .failed fun _ => ?_
    rw [Missing, placed]
    cases error <;> simp [Fault.isMissing]
  | ok file =>
    cases found : read file with
    | error error =>
      simp only [found]
      refine .failed fun _ => ?_
      rw [Missing, placed]
      cases error <;> simp [Fault.isMissing, found]
    | ok content =>
      simp only [found]
      exact ends_decodeInPlace sets placed found

/-- Looking for the usual file makes a difference only where it is missing: then there are the
defaults and no error. -/
theorem discoverInPlace_cases (sets : decode.Sets given)
    (place read : Text → Except ReadError Text) :
    Missing place read fileName ∧ discoverInPlace decode place read = (default, none) ∨
      ¬ Missing place read fileName ∧
        discoverInPlace decode place read = loadInPlace decode place read fileName := by
  have ends := ends_loadInPlace sets place read fileName
  unfold discoverInPlace
  cases loaded : loadInPlace decode place read fileName with
  | mk settings error =>
    rw [loaded] at ends
    cases ends with
    | loaded valid content there => exact .inr ⟨there, rfl⟩
    | @failed fault told =>
      have told := told (by decide)
      cases missing : fault.isMissing with
      | true => exact .inl ⟨told.mp missing, if_pos missing⟩
      | false =>
        have there : ¬ Missing place read fileName := by
          rw [← told, missing]
          decide
        exact .inr ⟨there, if_neg (by simp [missing])⟩

/-! ### Decoding documents -/

/-- Why a content could not be decoded. These are the errors of the decoder that is used. -/
inductive Trouble where
  | malformed (found : Document.Malformed)
  | unmergeable
  | mismatched (mismatches : List Mismatch)

/-- Decode the document in a content on top of settings. -/
def decoder : Decoder Trouble := fun content before =>
  match Document.ofText content with
  | .error found => (before, .failed (.malformed found))
  | .ok document =>
    let (after, mismatches) := decodeRecord .settings before field document
    if .unmergeable ∈ mismatches then (after, .failed .unmergeable)
    else if mismatches ≠ [] then (after, .failed (.mismatched mismatches))
    else (after, .done)

/-- What the document in a content gives, if there is one. -/
def givenBy (content : Text) : Given :=
  match Document.ofText content with
  | .error _ => .nothing
  | .ok document => .ofDocument document

/-- Documents are decoded as they must be. Decoding fails for a text that is no document and for
one with misfits, and elsewhere the settings are those that the document gives. -/
theorem decoder_sets : decoder.Sets givenBy := by
  have decoded (content : Text) (before : Settings) :
      (∃ error, (decoder content before).2 = .failed error) ∨
        (decoder content before).2 = .done ∧
          (givenBy content).Sets before (decoder content before).1 := by
    unfold decoder givenBy
    cases read : Document.ofText content with
    | error found => exact .inl ⟨_, rfl⟩
    | ok document =>
      have sets := decode_sets before document
      dsimp only
      split
      · exact .inl ⟨_, rfl⟩
      split
      · exact .inl ⟨_, rfl⟩
      · next fits => exact .inr ⟨rfl, sets (not_not.mp fits)⟩
  constructor
  · intro content before after ends
    rcases decoded content before with ⟨error, failed⟩ | ⟨-, sets⟩
    · rw [ends] at failed
      cases failed
    · rwa [ends] at sets
  · intro content before after ends
    rcases decoded content before with ⟨error, failed⟩ | ⟨done, -⟩
    · rw [ends] at failed
      cases failed
    · rw [ends] at done
      cases done

/-- The error that reports a fault. It tells the path and what was wrong there. -/
def Fault.loadError : Fault Trouble → LoadError
  | emptyPath => .emptyPath
  | unresolved path error => .unreadable path error
  | unreadable path error => .unreadable path error
  | undecodable path (.malformed found) => .malformed path found
  | undecodable path .unmergeable => .unmergeable path
  | undecodable path (.mismatched mismatches) => .mismatched path mismatches
  | invalid path message => .invalid path message

/-- What loading in place comes to: the settings, or the error alone. -/
def outcome : Settings × Option (Fault Trouble) → Except LoadError Settings
  | (settings, none) => .ok settings
  | (_, some fault) => .error fault.loadError

/-- Settings are validated last: the first one that is invalid refuses all of them, and the file
is named with it. -/
theorem outcome_validated (file : Text) (settings : Settings) :
    outcome (validated file settings) =
      match settings.invalid? with
      | some message => .error (.invalid file message)
      | none => .ok settings := by
  unfold validated
  cases settings.invalid? <;> rfl

/-- The settings in a content are those that it leaves in place. -/
theorem ofContent_eq (file content : Text) :
    ofContent file content = outcome (decodeInPlace decoder file content default) := by
  unfold ofContent decodeInPlace decoder
  cases Document.ofText content with
  | error found => rfl
  | ok document =>
    dsimp only [decode]
    split
    · rfl
    split
    · rfl
    · exact (outcome_validated file _).symm

/-- Settings are loaded as they are in place, when all paths are taken from a directory. -/
theorem load_eq (read : Text → Except ReadError Text) (directory path : Text) :
    load read directory path =
      outcome (loadInPlace decoder (fun path => .ok (Path.absolute directory path)) read path) := by
  unfold load loadInPlace
  by_cases empty : path = []
  · rw [if_pos empty, if_pos empty]
    rfl
  rw [if_neg empty, if_neg empty]
  dsimp only
  cases read (Path.absolute directory path) with
  | error error => rfl
  | ok content => exact ofContent_eq _ content

/-- The usual file is looked for as it is in place. -/
theorem discover_eq (read : Text → Except ReadError Text) (directory : Text) :
    discover read directory =
      outcome (discoverInPlace decoder (fun path => .ok (Path.absolute directory path)) read) := by
  unfold discover discoverInPlace
  rw [load_eq]
  generalize loadInPlace _ _ _ _ = loaded
  obtain ⟨settings, _ | fault⟩ := loaded
  · rfl
  cases fault with
  | emptyPath => rfl
  | unresolved path error => cases error <;> rfl
  | unreadable path error => cases error <;> rfl
  | undecodable path error => cases error <;> rfl
  | invalid path message => rfl

/-! ### All or nothing -/

/-- Valid settings know `print`. Any other style is what makes settings invalid. -/
theorem knowsPrint_of_valid {settings : Settings} (valid : settings.invalid? = none) :
    settings.dialect.KnowsPrint := by
  unfold invalid? at valid
  split at valid
  · cases valid
  · cases valid
  · next known _ =>
    unfold Dialect.KnowsPrint
    cases style : settings.dialect.print with
    | keyword => exact .inl rfl
    | procedure => exact .inr rfl
    | other word => exact absurd style (known word)

/-- Settings are loaded all or nothing: with an error they are the defaults, and without one
they are valid and have the right source, and programs in their dialect can print. -/
structure AllOrNothing (source : Settings → Prop) (loaded : Settings × Option (Fault ε)) :
    Prop where
  failed : loaded.2 ≠ none → loaded.1 = default
  valid : loaded.2 = none → loaded.1.invalid? = none
  given : loaded.2 = none → source loaded.1
  prints : loaded.2 = none → loaded.1.dialect.Prints

/-- What ends in one of the two ways is all or nothing. -/
theorem Ends.allOrNothing {loaded : Settings × Option (Fault ε)}
    (ends : Ends given place read path loaded) :
    AllOrNothing (FromContent given place read path) loaded := by
  cases ends with
  | failed told => exact ⟨fun _ => rfl, nofun, nofun, nofun⟩
  | loaded valid content there =>
    exact ⟨fun failed => absurd rfl failed, fun _ => valid, fun _ => content,
      fun _ => (knowsPrint_of_valid valid).prints⟩

/-- Settings are loaded all or nothing, by any decoder that sets what a content gives when it
reports no error.

With an error there are the defaults, whatever was changed before it: on an empty path, for a
path that cannot be resolved or read, when decoding fails, and for settings that are not
valid. Without one the settings are valid, and each of them is what the content of the file
gives, or the default where it gives nothing. So `print(e);` prints the value of an expression
on one line in every session with their dialect. Looking for the usual file differs from
loading it only where it is missing, and there it gives the defaults without an error.

The decoder of documents is such a decoder, and with it settings are loaded and looked for as
they are in place. -/
theorem all_or_nothing :
    (∀ (ε : Type) (decode : Decoder ε) (given : Text → Given), decode.Sets given →
      ∀ place read : Text → Except ReadError Text,
        (∀ path, AllOrNothing (FromContent given place read path)
          (loadInPlace decode place read path)) ∧
        AllOrNothing (fun settings => Missing place read fileName ∧ settings = default ∨
          FromContent given place read fileName settings) (discoverInPlace decode place read) ∧
        (Missing place read fileName → discoverInPlace decode place read = (default, none)) ∧
        (¬ Missing place read fileName →
          discoverInPlace decode place read = loadInPlace decode place read fileName)) ∧
    decoder.Sets givenBy ∧
    (∀ read directory path, load read directory path =
      outcome (loadInPlace decoder (fun path => .ok (Path.absolute directory path)) read path)) ∧
    ∀ read directory, discover read directory =
      outcome (discoverInPlace decoder (fun path => .ok (Path.absolute directory path)) read) := by
  refine ⟨?any, decoder_sets, load_eq, discover_eq⟩
  case any =>
    intro ε decode given sets place read
    have loads := ends_loadInPlace sets place read
    refine ⟨fun path => (loads path).allOrNothing, ?_⟩
    rcases discoverInPlace_cases sets place read with ⟨missing, same⟩ | ⟨there, same⟩
    · rw [same]
      refine ⟨⟨fun _ => rfl, fun _ => rfl, fun _ => .inl ⟨missing, rfl⟩, fun _ => ?_⟩,
        fun _ => rfl, fun there => absurd missing there⟩
      exact Dialect.KnowsPrint.prints (.inl rfl)
    · rw [same]
      obtain ⟨failed, valid, content, prints⟩ := (loads fileName).allOrNothing
      exact ⟨⟨failed, valid, fun none => .inr (content none), prints⟩,
        fun missing => absurd missing there, fun _ => rfl⟩

/-- A document that gives two settings of the dialect. -/
def sample : Text := Text.ofString "\x7bdialect: \x7bmodulo: false, print: procedure\x7d\x7d"

/-- A document with a key that is unknown behind one that is not. -/
def unknown : Text := Text.ofString "\x7bdialect: \x7bmodulo: false, strings: true\x7d\x7d"

/-- In a session with the dialect of the sample, a sum is printed. Of the other document
nothing is left, although decoding it has changed a setting. -/
theorem all_or_nothing_sample :
    load (fun _ => .ok sample) [] fileName = .ok ⟨⟨false, true, .procedure⟩, .auto⟩ ∧
      ((Session.new ⟨false, true, .procedure⟩ Console.unlimited .silent).exec
        (Text.ofString "print(1+2);")).1.machine.console.written = [Text.ofString "3\n"] ∧
      (decoder unknown default).1 = ⟨⟨false, true, .keyword⟩, .auto⟩ ∧
      (loadInPlace decoder (fun path => .ok (Path.absolute [] path)) (fun _ => .ok unknown)
        fileName).1 = default := by
  obtain ⟨any, sets, -, -⟩ := all_or_nothing
  have loads (content : Text) := (any Trouble decoder givenBy sets
    (fun path => .ok (Path.absolute [] path)) (fun _ => .ok content)).1 fileName
  refine ⟨by decide +kernel, ?printed, by decide +kernel, ?thrown⟩
  case thrown =>
    refine (loads unknown).failed (Option.isSome_iff_ne_none.mp ?_)
    decide +kernel
  case printed =>
    have prints := (loads sample).prints (Option.isNone_iff_eq_none.mp (by decide +kernel))
    have same : (loadInPlace decoder (fun path => .ok (Path.absolute [] path))
        (fun _ => .ok sample) fileName).1 = ⟨⟨false, true, .procedure⟩, .auto⟩ := by
      decide +kernel
    rw [same] at prints
    have words : Token.beforeEnd (Token.ofText (Text.ofString "1+2")) =
        [⟨.number, Text.ofString "1", ⟨⟨0, 1, 1⟩, ⟨1, 1, 2⟩⟩⟩,
          ⟨.plus, Text.ofString "+", ⟨⟨1, 1, 2⟩, ⟨2, 1, 3⟩⟩⟩,
          ⟨.number, Text.ofString "2", ⟨⟨2, 1, 3⟩, ⟨3, 1, 4⟩⟩⟩] := by
      decide +kernel
    have one : Number.ofNumeral? (Text.ofString "1") = some 1.0 := by decide +kernel
    have two : Number.ofNumeral? (Text.ofString "2") = some 2.0 := by decide +kernel
    obtain ⟨tree, derived, evaluates⟩ : ∃ tree,
        Grammar.Expression ⟨false, true, .procedure⟩
          (Token.beforeEnd (Token.ofText (Text.ofString "1+2"))) tree ∧
        tree.evaluate (Table.initial ⟨false, true, .procedure⟩) = .ok (1.0 + 2.0) := by
      rw [words]
      exact ⟨_, .sum (.term (.factor (.primary (.number rfl one)))) (.inl rfl)
        (.factor (.primary (.number rfl two))), rfl⟩
    have three : Number.format (1.0 + 2.0) = Text.ofString "3" := by decide +kernel
    obtain ⟨-, -, written, -⟩ :=
      prints _ tree _ (by decide +kernel) ⟨by decide +kernel, derived⟩ evaluates .unlimited
        .silent rfl
    rw [three] at written
    exact written

end Settings

end Astro
