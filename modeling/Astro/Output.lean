import Astro.Failure

/-!
# Output

A program writes to an output that it is given. All that is known of an output is how it
answers a write: it may change in any way, it says how many bytes of the text it has taken,
and it may give an error, having taken the whole text, a part of it or nothing. What it
answers may depend on everything that was written before.

A procedure writes to the same output. What it does next may depend on what came of its
writes, so that it need not stop at an error, and it may end with an error of its own.

The console is one output among others. It takes lines as long as it has room for them, and
each of them whole or not at all.
-/

namespace Astro

/-- What comes of a write. The error does not tell how much was taken before it. -/
structure Receipt where
  /-- How many bytes of the text are taken. -/
  taken : Nat
  /-- The error of the write, if it gives one. -/
  refusal : Option Text
deriving DecidableEq, Repr

/-- Something to write to, which is in some state. A write changes the state, and nothing else
does. -/
class Output (σ : Type) where
  write : σ → Text → σ × Receipt

/-- What a procedure does: it writes texts one after another, and what it does behind each of
them depends on what came of that. -/
inductive Performance where
  /-- End without an error. -/
  | done
  /-- End with an error of its own. -/
  | fail (message : Text)
  /-- End with the error that a write has given. -/
  | giveUp (refusal : Text)
  /-- Write a text, and go on by what comes of it. -/
  | write (text : Text) (next : Receipt → Performance)

namespace Performance

/-- Write texts up to the first that is refused, and then perhaps fail. -/
def script : List Text → Option Text → Performance
  | [], none => done
  | [], some message => fail message
  | text :: rest, failure => write text fun receipt =>
    match receipt.refusal with
    | some refusal => giveUp refusal
    | none => script rest failure

/-- The output after a performance, and how that failed if it did. -/
def run {σ : Type} [Output σ] : Performance → σ → σ × Option Failure
  | done, state => (state, none)
  | fail message, state => (state, some (.procedure message))
  | giveUp refusal, state => (state, some (.refusedWrite refusal))
  | write text next, state =>
    let (after, receipt) := Output.write state text
    (next receipt).run after

/-- What makes a performance fail has no place in the source: it is the error of a write, or
one of the procedure's own. -/
theorem failure_cases {σ : Type} [Output σ] {performance : Performance} {state : σ}
    {failure : Failure} (failed : (performance.run state).2 = some failure) :
    (∃ message, failure = .procedure message) ∨ ∃ refusal, failure = .refusedWrite refusal := by
  induction performance generalizing state with
  | done => cases failed
  | fail message => exact .inl ⟨message, (Option.some.inj failed).symm⟩
  | giveUp refusal => exact .inr ⟨refusal, (Option.some.inj failed).symm⟩
  | write text next behind => exact behind _ failed

/-- To print a line is one write. It fails exactly when that is refused, and with the same
error. -/
theorem run_line {σ : Type} [Output σ] (line : Text) (state : σ) :
    (script [line] none).run state =
      ((Output.write state line).1, (Output.write state line).2.refusal.map .refusedWrite) := by
  simp only [script, run]
  cases (Output.write state line).2.refusal <;> rfl

end Performance

/-- An output that takes whole lines. It takes a text whole or refuses it, and behind a refusal it
refuses all other lines. -/
structure Console where
  /-- What was written, in order. -/
  written : List Text
  /-- How many more lines are taken; no number means any number. -/
  room : Option Nat
  /-- The error of a write that is not taken. -/
  refusal : Text

namespace Console

/-- A console that takes every write. Nothing has been written on it yet. -/
def unlimited : Console := ⟨[], none, []⟩

/-- A console that takes a number of lines. The first line beyond these is refused, and so are all
others. -/
def limited (room : Nat) (refusal : Text) : Console := ⟨[], some room, refusal⟩

/-- Whether a text ends a line. Only such a text needs room. -/
def endsLine (text : Text) : Bool := text.getLast? = some Text.newline

/-- The console after a write, unless it is refused. Only a text that ends a line takes room. -/
def write? (console : Console) (text : Text) : Option Console :=
  let after := { console with written := console.written ++ [text] }
  if endsLine text then
    match console.room with
    | none => some after
    | some 0 => none
    | some (room + 1) => some { after with room := some room }
  else some after

/-- A console takes a text whole, or refuses it and stays as it is. -/
instance : Output Console where
  write console text :=
    match console.write? text with
    | some after => (after, ⟨text.length, none⟩)
    | none => (console, ⟨0, some console.refusal⟩)

/-- The whole output. -/
def output (console : Console) : Text := console.written.flatten

end Console

end Astro
