import Astro.Command.Options
import Astro.Command.Prompt
import Astro.Settings
import Astro.Syntax.Outline

/-!
# Commands

The program does one of five things: it shows the tokens of a file, shows the
tree of a file, runs a file, runs a text given as an argument, or starts the
prompt. Settings are loaded before anything else is looked at, so that a faulty
settings file is reported by every command.

A command is a function of what surrounds it: the directory it is started in, a
way to read files and what is typed. Its outcome is an exit code and what it
writes.
-/

namespace Astro

/-- What a command does when it is done. Besides the exit code these are all the bytes of the two
streams. -/
structure Outcome where
  exit : Nat
  stdout : Text
  stderr : Text
deriving DecidableEq, Repr

/-- What surrounds a command. All that it reads comes from these, so that a command is a function
of them. -/
structure Surroundings where
  /-- The absolute path of the directory in which the command is started. -/
  directory : Text
  read : Text → Except ReadError Text

/-- What comes of starting a command: it is done, or the prompt is open. -/
inductive Started where
  | done (outcome : Outcome)
  | prompting (prompt : Prompt)

/-- The things that the program does. Each is named by a word on the command line. -/
inductive Command where
  | tokens
  | parse
  | run
  | eval
  | repl
deriving DecidableEq, Repr

namespace Command

/-- The command that a word names. The words are told apart by case. -/
def ofWord? (word : Text) : Option Command :=
  if word = Text.ofString "tokens" then some tokens
  else if word = Text.ofString "parse" then some parse
  else if word = Text.ofString "run" then some run
  else if word = Text.ofString "eval" then some eval
  else if word = Text.ofString "repl" then some repl
  else none

/-- How the program is used. It is shown when no command is named, when there is none of that
name, and behind flags that cannot be read. -/
def usage : Text :=
  Text.ofString "Usage:\n" ++
  Text.ofString "  astro tokens <file> [--json]   Tokenize and print tokens\n" ++
  Text.ofString "  astro parse  <file>            Parse and print AST (JSON)\n" ++
  Text.ofString "  astro run    <file>            Run a source file\n" ++
  Text.ofString "  astro eval   <program>         Run program text\n" ++
  Text.ofString "  astro repl                     Start interactive REPL\n" ++
  Text.ofString "Flags: --config <path>  --context  --trace\n"

/-- A failure with a message on standard error. Nothing is shown on standard output, and the exit
code is one. -/
def fail (message : Text) : Outcome :=
  ⟨1, [], Text.ofString "error: " ++ message ++ Text.ofString "\n"⟩

/-- A failure with a message, and how the program is used. -/
def failWithUsage (message : Text) : Outcome :=
  let failed := fail message
  { failed with stderr := failed.stderr ++ usage }

/-- The exit code: whether anything was wrong. It is zero exactly when there are no diagnostics. -/
def exitFor (diagnostics : List Diagnostic) : Nat := if diagnostics = [] then 0 else 1

/-- Tokens for a person to read, one on a line. -/
def tokenLines (tokens : List Token) : Text :=
  tokens.flatMap fun token =>
    token.kind.text.padRight 12 ++ Text.ofString " " ++ token.lexeme.padRight 20 ++
      Text.ofString " " ++ token.span.start.text ++ Text.ofString "\n"

/-- A JSON document on standard output, or the reason why it cannot be written. -/
def showDocument (document : Json) (exit : Nat) : Outcome :=
  match document.document with
  | .ok written => ⟨exit, written, []⟩
  | .error reason => fail (Text.ofString "JSON encoding failed: " ++ reason)

/-- Show the tokens of a text. They are shown one on a line, with the diagnostics on standard
error, or both together as one JSON document. What is wrong with the text does not keep its tokens
from being shown. -/
def showTokens (source : Text) (json : Bool) : Outcome :=
  let tokens := Token.ofText source
  let diagnostics := Token.problems tokens
  if json then
    showDocument (.object [("diagnostics", .array (diagnostics.map Diagnostic.toJson)),
      ("tokens", .array (tokens.map Token.toJson))]) (exitFor diagnostics)
  else
    ⟨exitFor diagnostics, tokenLines tokens,
      diagnostics.flatMap fun diagnostic => diagnostic.text ++ Text.ofString "\n"⟩

/-- Show the tree of a text. It is shown as JSON next to the diagnostics, and there is no tree
when a character starts no token. -/
def showTree (source : Text) (settings : Settings) : Outcome :=
  let (program, diagnostics) := Program.ofText settings.dialect source
  let tree :=
    match program with
    | none => Json.null
    | some program => program.toJson
  showDocument (.object [("ast", tree), ("diagnostics", .array (diagnostics.map Diagnostic.toJson))])
    (exitFor diagnostics)

/-- The session for a command. It writes on a console without limit, and statements are traced
when that is asked for. -/
def session (settings : Settings) (options : Options) : Session Console :=
  Session.new settings.dialect .unlimited (if options.trace then .debug else .silent)

/-- Run a text under a name. What the program has written is shown up to the point where it fails,
and the failure is reported on standard error behind the trace. -/
def runText (source name : Text) (settings : Settings) (options : Options) : Outcome :=
  let (after, failure) := (session settings options).exec source
  let traced := after.machine.trace.flatMap fun event => event.text ++ Text.ofString "\n"
  let output := after.machine.console.output
  match failure with
  | none => ⟨0, output, traced⟩
  | some failure =>
    ⟨1, output, traced ++ failure.report source name options.context settings.usesColor⟩

/-- Do something with the file that the first argument names. -/
def withFile (surroundings : Surroundings) (arguments : List Text)
    (use : Text → Text → Outcome) : Outcome :=
  match arguments with
  | [] => fail (Text.ofString "missing file argument")
  | path :: _ =>
    match surroundings.read path with
    | .ok content => use path content
    | .error error =>
      fail (Text.ofString "cannot read file " ++ path ++ Text.ofString ": " ++ error.text path)

/-- Start a command with its settings, options and arguments. All commands but the prompt are done
at once. -/
def start (command : Command) (surroundings : Surroundings) (settings : Settings)
    (options : Options) (arguments : List Text) : Started :=
  match command with
  | tokens => .done (withFile surroundings arguments fun _ source => showTokens source options.json)
  | parse => .done (withFile surroundings arguments fun _ source => showTree source settings)
  | run =>
    .done (withFile surroundings arguments fun path source => runText source path settings options)
  | eval =>
    match arguments with
    | [] => .done (fail (Text.ofString "missing program argument"))
    | source :: _ => .done (runText source (Text.ofString "<eval>") settings options)
  | repl => .prompting (.start (session settings options) settings.usesColor)

/-- The settings that a command line asks for. A file that is named has to be there. Otherwise one
is looked for in the current directory and may be missing. -/
def settings (surroundings : Surroundings) (options : Options) :
    Except Settings.LoadError Settings :=
  if options.configPath = [] then Settings.discover surroundings.read surroundings.directory
  else Settings.load surroundings.read surroundings.directory options.configPath

/-- Start what a command line says. The flags are read first and the settings are loaded before
the command's word is looked at, so that the first of these that is wrong is reported. -/
def startLine (surroundings : Surroundings) : List Text → Started
  | [] => .done ⟨1, [], usage⟩
  | word :: rest =>
    match Options.read rest with
    | .error invalid => .done (failWithUsage invalid.text)
    | .ok (options, arguments) =>
      match settings surroundings options with
      | .error error => .done (fail error.text)
      | .ok settings =>
        match ofWord? word with
        | none =>
          .done (failWithUsage (Text.ofString "unknown command '" ++ word ++ Text.ofString "'"))
        | some command => command.start surroundings settings options arguments

/-- What a command line does when `input` is all that is typed. -/
def perform (surroundings : Surroundings) (input : Text) (line : List Text) : Outcome :=
  match startLine surroundings line with
  | .done outcome => outcome
  | .prompting prompt =>
    let closed := (prompt.steps (Typed.ofBytes input)).close
    ⟨0, closed.stdout, closed.stderr⟩

/-- The files that a command line may have to read. -/
def filesOf (directory : Text) : List Text → List Text
  | [] => []
  | _ :: rest =>
    match Options.read rest with
    | .error _ => []
    | .ok (options, arguments) =>
      let config := if options.configPath = [] then Settings.fileName else options.configPath
      Path.absolute directory config :: arguments.take 1

end Command

end Astro
