import Astro.Command

/-!
# The program

Reads the files that the command line names, does what it says, and writes the
outcome. At the prompt, every line is answered before the next one is read.
-/

namespace Astro

/-- Write a text to a stream. It is handed on at once, so that both streams keep their order. -/
def writeText (stream : IO.FS.Stream) (text : Text) : IO Unit := do
  stream.write text.toByteArray
  stream.flush

/-- Why the system did not read a file. Code 21 stands for a directory that was
read like a file. -/
def readErrorOf : IO.Error → ReadError
  | .noFileOrDirectory _ _ _ => .missing
  | .inappropriateType _ code _ => if code = 21 then .isDirectory else .notDirectory
  | error => .other (Text.ofString (toString error))

/-- The content of a file, or why it could not be read. -/
def readFile (path : Text) : IO (Except ReadError Text) := do
  try
    let content ← IO.FS.readBinFile path.toString
    return .ok content.toList
  catch error => return .error (readErrorOf error)

/-- The next line of a stream with its newline, byte by byte so that nothing behind
it is waited for. It is empty at the end of the input. -/
partial def readLine (input : IO.FS.Stream) (before : Text) : IO Text := do
  match (← input.read 1).toList with
  | [] => return before.reverse
  | byte :: _ =>
    if byte = Text.newline then return (byte :: before).reverse
    else readLine input (byte :: before)

/-- Answer what is typed, line by line, until the user leaves or the input ends. -/
partial def serve (prompt : Prompt) (input output errors : IO.FS.Stream) : IO Unit := do
  writeText output prompt.stdout
  writeText errors prompt.stderr
  let shown := { prompt with stdout := [], stderr := [] }
  if shown.left then return
  match ← readLine input [] with
  | [] => writeText output shown.close.stdout
  | line => serve (shown.steps (Typed.ofBytes line)) input output errors

end Astro

open Astro in
/-- Do what the command line says. -/
def main (arguments : List String) : IO UInt32 := do
  let directory := Text.ofString (toString (← IO.currentDir))
  let line := arguments.map Text.ofString
  let contents ← (Command.filesOf directory line).mapM fun path => do return (path, ← readFile path)
  let read (path : Text) : Except ReadError Text :=
    match contents.find? fun entry => entry.1 = path with
    | some entry => entry.2
    | none => .error .missing
  let output ← IO.getStdout
  let errors ← IO.getStderr
  match Command.startLine ⟨directory, read⟩ line with
  | .done outcome =>
    writeText output outcome.stdout
    writeText errors outcome.stderr
    return outcome.exit.toUInt32
  | .prompting prompt =>
    serve prompt (← IO.getStdin) output errors
    return 0
