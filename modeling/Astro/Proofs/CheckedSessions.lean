import Astro.Proofs.CheckedEvaluation
import Astro.Proofs.CursorScan
import Astro.Proofs.CursorStatements
import Astro.Proofs.Sessions

/-!
# Sessions do not fail in themselves

A session is run once more over accesses that can fail: texts are scanned and read with
cursors, a program that was not read must not be run, statements are evaluated over
bindings that read their arguments by index, and reports cut excerpts out of the source.

Whatever the texts are, nothing of this fails, and every loop ends: what is written,
traced and reported is what the session writes, traces and reports (`talk?_eq`).
-/

namespace Astro.Checked

/-! ### Running and reporting -/

/-- What a running program can change. Its table is a function from names, and the rest is as in a
machine. -/
structure Runner (σ : Type) where
  table : Bindings
  console : σ
  level : TraceLevel
  trace : List Event

section Running

variable {σ : Type}

namespace Runner

/-- The runner with one more trace record, if it traces. -/
def record (runner : Runner σ) (event : Event) : Runner σ :=
  if runner.level = .debug then { runner with trace := runner.trace ++ [event] } else runner

variable [Output σ]

/-- The runner after an action, and how the action failed if it did. -/
def act (runner : Runner σ) : Action → Runner σ × Option Failure
  | .define name value =>
    let defined := { runner with table := runner.table.define name (.number value true) }
    (defined.record (.assigned name value), none)
  | .perform performance =>
    let (console, failure) := performance.run runner.console
    ({ runner with console }, failure)

/-- The runner after one statement, and how it failed if it did. -/
def step? (runner : Runner σ) (stmt : Stmt) : Option (Runner σ × Option Failure) := do
  let started := runner.record (.started stmt.typeName stmt.span.start)
  match ← (action? started.table stmt).run with
  | .error failure => some (started, some failure)
  | .ok action => some (started.act action)

/-- The runner after statements up to the first that fails, and that failure. -/
def run? (runner : Runner σ) : List Stmt → Option (Runner σ × Option Failure)
  | [] => some (runner, none)
  | stmt :: rest => do
    match ← runner.step? stmt with
    | (after, some failure) => some (after, some failure)
    | (after, none) => after.run? rest

end Runner

/-- The program that a text spells, if its characters are legal, and what is wrong with
it. -/
def parseAll? (dialect : Dialect) (source : Text) : Option (Option Program × List Diagnostic) := do
  let (tokens, problems) ← tokens? source
  if 0 < problems.length then some (none, problems)
  else do
    let (program, diagnostics) ← program? dialect tokens
    some (some program, diagnostics)

/-- The program that a text spells, or the first thing wrong with it. -/
def parse? (dialect : Dialect) (source : Text) : Run (Option Program) := do
  let (program, diagnostics) ← access (parseAll? dialect source)
  if 0 < diagnostics.length then do
    let first ← access (element? diagnostics 0)
    throw (.notAProgram first)
  else pure program

/-- The runner after running a text, and how that failed if it did. A program must be
there to be run. -/
def exec? [Output σ] (dialect : Dialect) (runner : Runner σ) (source : Text) :
    Option (Runner σ × Option Failure) := do
  match ← (parse? dialect source).run with
  | .error failure => some (runner, some failure)
  | .ok reference => do
    let program ← reference
    runner.run? program.body

/-- A text to run, and how its failure is to be reported. -/
structure Turn where
  source : Text
  name : Text
  context : Bool
  color : Bool

/-- What is reported about a failure. It is shown in its source where an excerpt is wanted and the
failure has a place there. -/
def report? (turn : Turn) (failure : Failure) : Option Text :=
  match failure.diagnostic? with
  | none => some (Text.ofString "error: " ++ failure.text ++ Text.ofString "\n")
  | some diagnostic => do
    let shown ← if turn.context then excerpt? diagnostic turn.name turn.source turn.color
      else some diagnostic.text
    let painted :=
      if turn.color then Text.ofString "\x1b[31m" ++ shown ++ Text.ofString "\x1b[0m" else shown
    some (painted ++ Text.ofString "\n")

/-- The runner after running texts one after another, and the reports of their failures. -/
def turns? [Output σ] (dialect : Dialect) (runner : Runner σ) :
    List Turn → Option (Runner σ × List (Option Text))
  | [] => some (runner, [])
  | turn :: rest => do
    let (after, failure) ← exec? dialect runner turn.source
    let shown ← failure.mapM (report? turn)
    let (last, others) ← turns? dialect after rest
    some (last, shown :: others)

/-- What is written, traced and reported when texts run in a new session. -/
def talk? [Output σ] (dialect : Dialect) (console : σ) (level : TraceLevel)
    (turns : List Turn) : Option (σ × List Event × List (Option Text)) := do
  let (last, reports) ← turns? dialect ⟨.initial dialect, console, level, []⟩ turns
  some (last.console, last.trace, reports)

/-! ### Nothing fails -/

/-- A runner is at the same point as a machine. -/
structure Runner.Tracks (runner : Runner σ) (machine : Machine σ) : Prop where
  table : runner.table.Implements machine.table
  console : runner.console = machine.console
  level : runner.level = machine.level
  trace : runner.trace = machine.trace

namespace Runner

variable {runner : Runner σ} {machine : Machine σ}

/-- A record in the trace leaves a runner tracking its machine, since it changes the trace alone. -/
theorem Tracks.record (tracks : runner.Tracks machine) (event : Event) :
    (runner.record event).Tracks (machine.record event) := by
  unfold Runner.record Machine.record
  rw [tracks.level]
  split
  · exact ⟨tracks.table, tracks.console, rfl, congrArg (· ++ [event]) tracks.trace⟩
  · exact tracks

variable [Output σ]

/-- An action takes a runner and the machine that it tracks to such a pair again, and both fail in
the same way or not at all. -/
theorem Tracks.act (tracks : runner.Tracks machine) (action : Action) :
    (runner.act action).1.Tracks (machine.act action).1 ∧
      (runner.act action).2 = (machine.act action).2 := by
  cases action with
  | define name value =>
    refine ⟨Tracks.record ?_ _, rfl⟩
    exact ⟨tracks.table.define name (.number value true), tracks.console, tracks.level,
      tracks.trace⟩
  | perform performance =>
    rw [Runner.act, Machine.act, tracks.console]
    exact ⟨⟨tracks.table, rfl, tracks.level, tracks.trace⟩, rfl⟩

/-- A statement can be run, and both are at the same point behind it. -/
theorem Tracks.step (tracks : runner.Tracks machine) (stmt : Stmt) :
    ∃ after, runner.step? stmt = some (after, (machine.step stmt).2) ∧
      after.Tracks (machine.step stmt).1 := by
  have started := tracks.record (.started stmt.typeName stmt.span.start)
  rw [step?, Machine.step, action?_eq started.table]
  cases stmt.action (machine.record (.started stmt.typeName stmt.span.start)).table with
  | error failure => exact ⟨_, rfl, started⟩
  | ok action =>
    obtain ⟨acted, same⟩ := started.act action
    exact ⟨_, congrArg (fun failure => some (_, failure)) same, acted⟩

/-- Statements can be run, and both are at the same point behind them. -/
theorem Tracks.run (tracks : runner.Tracks machine) (body : List Stmt) :
    ∃ after, runner.run? body = some (after, (machine.run body).2) ∧
      after.Tracks (machine.run body).1 := by
  induction body generalizing runner machine with
  | nil => exact ⟨runner, rfl, tracks⟩
  | cons stmt rest others =>
    obtain ⟨after, stepped, reached⟩ := tracks.step stmt
    rw [run?, stepped, Machine.run]
    generalize machine.step stmt = outcome at reached
    obtain ⟨machine, failure⟩ := outcome
    cases failure with
    | some failure => exact ⟨after, rfl, reached⟩
    | none => exact others reached

end Runner

/-- A text can be read. Neither the scanner nor the parser makes an access that is out of range,
and the result is the one of reading the text. -/
theorem parseAll?_eq (dialect : Dialect) (source : Text) :
    parseAll? dialect source = some (Program.ofText dialect source) := by
  rw [parseAll?, tokens?_eq, Program.ofText]
  change (if 0 < (Token.problems (Token.ofText source)).length then _ else _) = _
  cases Token.problems (Token.ofText source) with
  | cons problem others => exact if_pos (Nat.succ_pos others.length)
  | nil =>
    rw [program?_eq]
    rfl

/-- A text is parsed into a program that is there, or into the first thing wrong with it. -/
theorem parse?_eq (dialect : Dialect) (source : Text) :
    (parse? dialect source).run = some ((Session.parse dialect source).map some) := by
  rw [parse?, parseAll?_eq, Program.ofText, Session.parse]
  cases Token.problems (Token.ofText source) with
  | cons problem others => rfl
  | nil =>
    obtain ⟨program, diagnostics⟩ := Program.ofTokens dialect (Token.ofText source)
    cases diagnostics <;> rfl

/-- A text can be run, and both are at the same point behind it. -/
theorem exec?_eq [Output σ] {runner : Runner σ} {session : Session σ}
    (tracks : runner.Tracks session.machine) (source : Text) :
    ∃ after, exec? session.dialect runner source = some (after, (session.exec source).2) ∧
      after.Tracks (session.exec source).1.machine := by
  rw [exec?, parse?_eq]
  cases parsed : Session.parse session.dialect source with
  | error failure =>
    rw [Session.exec_of_refused parsed]
    exact ⟨runner, rfl, tracks⟩
  | ok program =>
    rw [Session.exec_of_parse parsed]
    exact tracks.run program.body

/-- A failure can be reported. Neither the excerpt nor the message makes an access that is out of
range. -/
theorem report?_eq (turn : Turn) (failure : Failure) :
    report? turn failure = some (failure.report turn.source turn.name turn.context turn.color) := by
  rw [report?, Failure.report]
  cases failure.diagnostic? with
  | none => rfl
  | some diagnostic =>
    dsimp only
    rw [excerpt?_eq]
    cases turn.context <;> rfl

/-- The session after running texts one after another, and the reports of their failures. -/
def turns [Output σ] (session : Session σ) : List Turn → Session σ × List (Option Text)
  | [] => (session, [])
  | turn :: rest =>
    let (after, failure) := session.exec turn.source
    let (last, others) := turns after rest
    (last, failure.map (·.report turn.source turn.name turn.context turn.color) :: others)

/-- What a new session writes, traces and reports when texts run in it. -/
def talk [Output σ] (dialect : Dialect) (console : σ) (level : TraceLevel)
    (texts : List Turn) : σ × List Event × List (Option Text) :=
  let (last, reports) := turns (Session.new dialect console level) texts
  (last.machine.console, last.machine.trace, reports)

/-- Texts can be run one after another, and the failure of each can be reported. -/
theorem turns?_eq [Output σ] {runner : Runner σ} {session : Session σ}
    (tracks : runner.Tracks session.machine) (texts : List Turn) :
    ∃ last, turns? session.dialect runner texts = some (last, (turns session texts).2) ∧
      last.Tracks (turns session texts).1.machine := by
  induction texts generalizing runner session with
  | nil => exact ⟨runner, rfl, tracks⟩
  | cons turn rest others =>
    obtain ⟨after, ran, reached⟩ := exec?_eq tracks turn.source
    obtain ⟨last, finished, ended⟩ := others reached
    rw [Session.exec_dialect] at finished
    refine ⟨last, ?_, ended⟩
    rw [turns?, ran, turns]
    cases failed : (session.exec turn.source).2 with
    | none => simp [finished, failed]
    | some failure => simp [finished, failed, report?_eq]

/-- What a new session does with texts does not fail. -/
theorem talk?_eq [Output σ] (dialect : Dialect) (console : σ) (level : TraceLevel)
    (texts : List Turn) :
    talk? dialect console level texts = some (talk dialect console level texts) := by
  have tracks : Runner.Tracks ⟨.initial dialect, console, level, []⟩
      (Session.new dialect console level).machine :=
    ⟨Bindings.initial_implements dialect, rfl, rfl, rfl⟩
  obtain ⟨last, finished, ended⟩ := turns?_eq tracks texts
  change turns? dialect _ texts = _ at finished
  rw [talk?, finished, talk]
  simp only [bind, Option.bind]
  rw [ended.console, ended.trace]

end Running

/-- Nothing fails on the way from texts to what is written, traced and reported: no
access is out of range, no repetition is negative, no program is missing, and no native
routine is given another number of arguments than it reads. An excerpt can be shown for
any span, also one that lies outside its source, and any number can be written, whichever
mantissa, sign and digits its exponent form has. -/
theorem nothing_fails :
    (∀ {σ : Type} [Output σ] (dialect : Dialect) (console : σ) (level : TraceLevel)
      (texts : List Turn),
      talk? dialect console level texts = some (talk dialect console level texts)) ∧
    (∀ diagnostic name source color,
      excerpt? diagnostic name source color = some (diagnostic.excerpt name source color)) ∧
    (∀ value, format? value = some (Number.format value)) ∧
    (∀ form : ExponentForm, trimExponent? form.text =
      some (form.mantissa ++ exponentMark :: form.sign :: trimZeros form.digits)) :=
  ⟨talk?_eq, excerpt?_eq, format?_eq, trimExponent?_eq⟩

end Astro.Checked
