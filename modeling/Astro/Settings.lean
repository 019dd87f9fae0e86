import Astro.Dialect
import Astro.Files
import Astro.Settings.Decoded
import Astro.Text.Quoted

/-!
# Settings

Settings choose the dialect and whether reports are colored. They are loaded from
a document all or nothing: keys that are missing or empty keep their defaults,
and any error, in the document or in a value, leaves the defaults. All the type
errors of a document are reported together, in the order of the document.
-/

namespace Astro

/-- When reports are colored. Any other word is no mode, and is kept to be reported. -/
inductive ColorMode where
  | auto
  | always
  | never
  | other (word : Text)
deriving DecidableEq, Repr

namespace ColorMode

/-- The mode that a word names. Any other word is kept, so that it can be told what was wrong with
it. -/
def ofText (word : Text) : ColorMode :=
  if word = Text.ofString "auto" then auto
  else if word = Text.ofString "always" then always
  else if word = Text.ofString "never" then never
  else other word

/-- The word that names a mode. Every mode has a word of its own. -/
def text : ColorMode → Text
  | auto => Text.ofString "auto"
  | always => Text.ofString "always"
  | never => Text.ofString "never"
  | other word => word

end ColorMode

/-- Everything that can be set. They are the dialect and the use of colors. -/
structure Settings where
  dialect : Dialect
  color : ColorMode
deriving DecidableEq, Repr

namespace Settings

/-- The settings that hold when nothing is said. They are the whole language, and colors where a
terminal is. -/
def default : Settings := ⟨.full, .auto⟩

/-- The file in which settings are looked for. Its name starts with a dot, so that it stays out of
sight. -/
def fileName : Text := Text.ofString ".astro.yaml"

/-- Whether reports are colored. Standard error is not taken for a terminal. -/
def usesColor (settings : Settings) : Bool := settings.color = .always

/-- Words in quotes with commas between them, and `or` before the last. -/
def alternatives : List String → Text
  | [] => []
  | [last] => (Text.ofString last).quote
  | [first, last] =>
    (Text.ofString first).quote ++ Text.ofString " or " ++ (Text.ofString last).quote
  | first :: rest => (Text.ofString first).quote ++ Text.ofString ", " ++ alternatives rest

/-- What is wrong with settings: a print style or a color mode that is none. -/
def invalid? (settings : Settings) : Option Text :=
  match settings.dialect.print, settings.color with
  | .other word, _ =>
    some (Text.ofString "dialect.print must be " ++ alternatives ["keyword", "procedure"] ++
      Text.ofString ", got " ++ word.quote)
  | _, .other word =>
    some (Text.ofString "color must be " ++ alternatives ["auto", "always", "never"] ++
      Text.ofString ", got " ++ word.quote)
  | _, _ => none

/-- The settings of a dialect, by key. There is nothing for a key that the record does not have. -/
def dialectField (key : Text) : Option (Dialect → Document → Decoded Dialect) :=
  if key = Text.ofString "modulo" then
    some fun dialect value =>
      (decodeTruth dialect.modulo value).map (fun modulo => { dialect with modulo }) id
  else if key = Text.ofString "negation" then
    some fun dialect value =>
      (decodeTruth dialect.negation value).map (fun negation => { dialect with negation }) id
  else if key = Text.ofString "print" then
    some fun dialect value =>
      (decodeString .printStyle dialect.print.text value).map
        (fun word => { dialect with print := .ofText word }) id
  else none

/-- All settings, by key. The dialect is a record in itself. -/
def field (key : Text) : Option (Settings → Document → Decoded Settings) :=
  if key = Text.ofString "dialect" then
    some fun settings value =>
      (decodeRecord .dialect settings.dialect dialectField value).map
        (fun dialect => { settings with dialect }) id
  else if key = Text.ofString "color" then
    some fun settings value =>
      (decodeString .color settings.color.text value).map
        (fun word => { settings with color := .ofText word }) id
  else none

/-- The settings that a document gives, with everything in it that does not fit. -/
def decode (document : Document) : Decoded Settings :=
  decodeRecord .settings default field document

/-- Why settings could not be loaded. Each tells the path and what was wrong there. -/
inductive LoadError where
  | emptyPath
  | unreadable (path : Text) (error : ReadError)
  | malformed (path : Text) (malformed : Document.Malformed)
  | unmergeable (path : Text)
  | mismatched (path : Text) (mismatches : List Mismatch)
  | invalid (path : Text) (message : Text)
deriving DecidableEq, Repr

namespace LoadError

/-- What is reported about settings that could not be loaded. A directory is found
not to be a file only when it is read. -/
def text : LoadError → Text
  | emptyPath => Text.ofString "config: empty path"
  | unreadable path .isDirectory =>
    Text.ofString "config: parse " ++ path ++ Text.ofString ": yaml: input error: " ++
      ReadError.isDirectory.text path
  | unreadable path error => error.text path
  | malformed path found =>
    Text.ofString "config: parse " ++ path ++ Text.ofString ": yaml: " ++ found.text
  | unmergeable path =>
    Text.ofString "config: parse " ++ path ++ Text.ofString ": yaml: " ++ Mismatch.unmergeable.text
  | mismatched path mismatches =>
    Text.ofString "config: parse " ++ path ++ Text.ofString ": yaml: unmarshal errors:" ++
      mismatches.flatMap fun mismatch => Text.ofString "\n  " ++ mismatch.text
  | invalid path message => Text.ofString "config: " ++ path ++ Text.ofString ": " ++ message

end LoadError

/-- The settings in the content of a file. A value that cannot be merged is reported
alone. -/
def ofContent (path content : Text) : Except LoadError Settings :=
  match Document.ofText content with
  | .error found => .error (.malformed path found)
  | .ok document =>
    let (settings, mismatches) := decode document
    if .unmergeable ∈ mismatches then .error (.unmergeable path)
    else if mismatches ≠ [] then .error (.mismatched path mismatches)
    else
      match settings.invalid? with
      | some message => .error (.invalid path message)
      | none => .ok settings

/-- Load settings from a file, which must be there. An empty path is refused before anything is
read. -/
def load (read : Text → Except ReadError Text) (directory path : Text) :
    Except LoadError Settings :=
  if path = [] then .error .emptyPath
  else
    let place := Path.absolute directory path
    match read place with
    | .error error => .error (.unreadable place error)
    | .ok content => ofContent place content

/-- Load settings from the usual file of a directory, if it is there. -/
def discover (read : Text → Except ReadError Text) (directory : Text) :
    Except LoadError Settings :=
  match load read directory fileName with
  | .error (.unreadable _ .missing) => .ok default
  | loaded => loaded

end Settings

end Astro
