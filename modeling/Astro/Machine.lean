import Astro.Evaluation

/-!
# Running programs

A machine is what a running program can change: the table of names, the output
and the trace. A program runs statement by statement and stops at the first that
fails. The statement that fails leaves the table as it was; what it wrote before
failing stays written.

The output is any. It may refuse to take more, and the statement whose write it
refuses fails. The trace records each statement before it runs and each assignment
after it, but only at the debug level.
-/

namespace Astro

/-- How much is traced. Records are kept at the debug level only. -/
inductive TraceLevel where
  | silent
  | info
  | debug
deriving DecidableEq, Repr

/-- What a trace records. Starts and assignments are recorded in the order in which they happen. -/
inductive Event where
  /-- A statement is about to run. -/
  | started (typeName : Text) (place : Position)
  /-- A name was assigned a number. -/
  | assigned (name : Text) (value : Float)

/-- The name of a statement's type in trace records. A node of an unknown type tells its own. -/
def Stmt.typeName : Stmt → Text
  | .assign _ _ _ => Text.ofString "*ast.AssignStmt"
  | .call _ _ => Text.ofString "*ast.CallStmt"
  | .print _ _ => Text.ofString "*ast.PrintStmt"
  | .foreign _ typeName => typeName

/-- A trace record on one line. Numbers are written here with the layout of traces, which is not
that of printed lines. -/
def Event.text : Event → Text
  | .started typeName place =>
    Text.ofString "level=DEBUG msg=exec stmt=" ++ typeName ++ Text.ofString " at=" ++ place.text
  | .assigned name value =>
    Text.ofString "level=DEBUG msg=assign name=" ++ name ++ Text.ofString " value=" ++
      Number.traceLayout.text value

/-- What a running program can change, with an output of some type. -/
structure Machine (σ : Type) where
  table : Table
  console : σ
  level : TraceLevel
  trace : List Event

namespace Machine

variable {σ : Type}

/-- The machine with one more trace record, if it traces. -/
def record (machine : Machine σ) (event : Event) : Machine σ :=
  if machine.level = .debug then { machine with trace := machine.trace ++ [event] } else machine

variable [Output σ]

/-- The machine after an action, and how the action failed if it did. -/
def act (machine : Machine σ) : Action → Machine σ × Option Failure
  | .define name value =>
    let defined := { machine with table := machine.table.define name (.number value true) }
    (defined.record (.assigned name value), none)
  | .perform performance =>
    let (console, failure) := performance.run machine.console
    ({ machine with console }, failure)

/-- The machine after one statement, and how it failed if it did. -/
def step (machine : Machine σ) (stmt : Stmt) : Machine σ × Option Failure :=
  let started := machine.record (.started stmt.typeName stmt.span.start)
  match stmt.action started.table with
  | .error failure => (started, some failure)
  | .ok action => started.act action

/-- The machine after statements up to the first that fails, and that failure. -/
def run (machine : Machine σ) : List Stmt → Machine σ × Option Failure
  | [] => (machine, none)
  | stmt :: rest =>
    match machine.step stmt with
    | (after, some failure) => (after, some failure)
    | (after, none) => after.run rest

end Machine

end Astro
