import Astro.Session
import Astro.Text.Blank

/-!
# The interactive prompt

Lines are collected until their last word is a semicolon; then they are run as
one text in a session that lasts as long as the prompt. Before anything is
collected, a line may also be a command of the prompt itself. An interrupt drops
what has been collected, or else reminds the user how to leave.

The prompt is a state with a step for each thing that is typed. What it shows is
collected apart for standard output and standard error.
-/

namespace Astro

/-- Something typed at the prompt. It is a whole line or the interrupt key. -/
inductive Typed where
  | line (text : Text)
  | interrupt
deriving DecidableEq, Repr

namespace Typed

/-- The byte of an interrupt. It stands for the interrupt key in the stream of what is typed. -/
def interruptByte : UInt8 := 3

/-- What is typed by a stream of bytes, when `current` is the beginning of the line
in reverse. An interrupt drops that beginning. A last line need not be ended. -/
def ofBytesAfter (current : Text) : Text → List Typed
  | [] => if current = [] then [] else [.line current.reverse]
  | byte :: rest =>
    if byte = Text.newline then .line current.reverse :: ofBytesAfter [] rest
    else if byte = interruptByte then .interrupt :: ofBytesAfter [] rest
    else ofBytesAfter (byte :: current) rest

/-- What is typed by a stream of bytes. It is cut into lines and interrupts. -/
def ofBytes (stream : Text) : List Typed := ofBytesAfter [] stream

end Typed

/-- A line without its comment. The comment starts at the first two slashes side by side. -/
def withoutComment : Text → Text
  | [] => []
  | [byte] => [byte]
  | first :: second :: rest =>
    if first = 47 ∧ second = 47 then [] else first :: withoutComment (second :: rest)

/-- Whether the last word of a text is a semicolon: comments and white space do not
count, and neither do lines that hold nothing else. -/
def endsStatement (source : Text) : Bool :=
  let said := source.lines.map fun line => Text.trim (withoutComment line)
  match said.reverse.find? (· ≠ []) with
  | none => false
  | some last => last.getLast? = some 59

/-- The state of the prompt. Besides the session it is what has been collected and shown so far. -/
structure Prompt where
  session : Session Console
  color : Bool
  /-- The lines collected so far, each with its newline. -/
  collected : Text
  /-- Whether the user has left. -/
  left : Bool
  stdout : Text
  stderr : Text

namespace Prompt

/-- What is shown first. It names the program and the ways to leave it. -/
def banner : Text :=
  Text.ofString "\x1b[1m\x1b[36mAstro REPL\x1b[0m \x1b[90m(type 'exit' or Ctrl+D to quit, " ++
    Text.ofString "':symbols' to list bindings)\x1b[0m\n\n"

/-- The reminder how to leave. It is shown for an interrupt when nothing has been typed. -/
def reminder : Text := Text.ofString "\n\x1b[90m(use 'exit' or Ctrl+D to quit)\x1b[0m\n"

/-- The name under which typed text is reported. There is no file whose name could be shown. -/
def sourceName : Text := Text.ofString "<repl>"

/-- The prompt at its start. Nothing has been collected, and the banner is all that has been
shown. -/
def start (session : Session Console) (color : Bool) : Prompt := ⟨session, color, [], false, banner, []⟩

/-- Run a text, show what it writes and traces, and report its failure. -/
def run (prompt : Prompt) (source : Text) : Prompt :=
  let before := prompt.session.machine
  let (session, failure) := prompt.session.exec source
  let written := session.machine.console.written.drop before.console.written.length
  let traced := session.machine.trace.drop before.trace.length
  let report :=
    match failure with
    | none => []
    | some failure => failure.report source sourceName true prompt.color
  { prompt with
    session
    collected := []
    stdout := prompt.stdout ++ written.flatten
    stderr := prompt.stderr ++ (traced.flatMap fun event => event.text ++ Text.ofString "\n") ++ report }

/-- Collect a line, and run what has been collected once it ends a statement. -/
def collect (prompt : Prompt) (line : Text) : Prompt :=
  let source := prompt.collected ++ line ++ Text.ofString "\n"
  if endsStatement source then prompt.run source else { prompt with collected := source }

/-- The prompt after something is typed. While text is collected, every line belongs to it.
Otherwise a line may be a command of the prompt, and an interrupt drops what is collected. -/
def step (prompt : Prompt) : Typed → Prompt
  | .interrupt =>
    if prompt.collected = [] then { prompt with stdout := prompt.stdout ++ reminder }
    else { prompt with collected := [] }
  | .line text =>
    let word := text.trim
    if prompt.collected ≠ [] then prompt.collect text
    else if word = Text.ofString "exit" then { prompt with left := true }
    else if word = Text.ofString ":symbols" then
      { prompt with stdout := prompt.stdout ++ prompt.session.machine.table.listing }
    else if word = [] then prompt
    else prompt.collect text

/-- The prompt after everything that is typed, up to where the user leaves. -/
def steps (prompt : Prompt) : List Typed → Prompt
  | [] => prompt
  | typed :: rest => if prompt.left then prompt else (prompt.step typed).steps rest

/-- The prompt at the end of the input: unless the user has left, the line of the
prompt is ended. -/
def close (prompt : Prompt) : Prompt :=
  if prompt.left then prompt else { prompt with stdout := prompt.stdout ++ Text.ofString "\n" }

end Prompt

end Astro
