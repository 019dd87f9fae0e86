import Astro.Machine
import Astro.Syntax.Program

/-!
# Sessions

A session runs texts one after another in one dialect on one machine, so that
each text sees what the ones before it have assigned, and all of them write to one
output. A text that is not a program changes nothing: its first diagnostic is the
failure.
-/

namespace Astro

/-- A dialect and the machine that texts run on. The output of the machine may be of any type. -/
structure Session (σ : Type) where
  dialect : Dialect
  machine : Machine σ

namespace Session

variable {σ : Type}

/-- A new session, with the names that a dialect starts with. -/
def new (dialect : Dialect) (console : σ) (level : TraceLevel) : Session σ :=
  ⟨dialect, ⟨Table.initial dialect, console, level, []⟩⟩

/-- The program that a text spells, or the first thing wrong with it. -/
def parse (dialect : Dialect) (source : Text) : Except Failure Program :=
  let tokens := Token.ofText source
  match Token.problems tokens with
  | diagnostic :: _ => .error (.notAProgram diagnostic)
  | [] =>
    match Program.ofTokens dialect tokens with
    | (_, diagnostic :: _) => .error (.notAProgram diagnostic)
    | (program, []) => .ok program

/-- The session after running a text, and how that failed if it did. -/
def exec [Output σ] (session : Session σ) (source : Text) : Session σ × Option Failure :=
  match parse session.dialect source with
  | .error failure => (session, some failure)
  | .ok program =>
    let (machine, failure) := session.machine.run program.body
    ({ session with machine }, failure)

end Session

end Astro
