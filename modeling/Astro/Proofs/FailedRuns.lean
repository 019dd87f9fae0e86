import Astro.Proofs.Bindings
import Astro.Proofs.Outputs

/-!
# What a failed run leaves behind

A text that is not a program leaves the session as it was, whatever part of it could
have been run. A program that fails stops at one of its statements. Those before it
have run to their end, those behind it do not matter, and the one that fails has
changed no name.

The statement that fails may have written something: a procedure all that it wrote before
it failed, and a statement that prints a line the part of this line that the output took
before it refused the rest. An output that takes no part of what it refuses has taken
nothing from a statement that only prints. That is an assumption on the output
(`Output.AllOrNothing`), and nothing else here rests on it.
-/

namespace Astro

/-- A statement calls a procedure, and its arguments fit that. -/
def Stmt.Calls (table : Table) (stmt : Stmt) (routine : NativeProcedure)
    (args : Vector Float routine.arity.toNat) : Prop :=
  ∃ span called values, stmt = .call span called ∧
    Expr.evaluateAll table called.args = .ok values ∧
    table.lookup? called.callee.text = some (.procedure routine) ∧
    fitArguments? routine.arity values = some args

/-- The statements that write nothing but whole lines: assignments, print statements and
calls of the procedure that prints. -/
inductive Stmt.Plain (table : Table) : Stmt → Prop where
  | assign (span : Span) (target : Name) (value : Expr) : Plain table (.assign span target value)
  | print (span : Span) (value : Expr) : Plain table (.print span value)
  | call (span : Span) (called : Call)
      (bound : table.lookup? called.callee.text = some (.procedure Table.printProcedure)) :
      Plain table (.call span called)

/-- What a procedure that is called by name does, when it can be called. The name is bound to the
procedure, and there are as many arguments as it takes. The performance is the procedure's own. -/
theorem Table.exists_of_performProcedure {table : Table} {callee : Name} {args : List Float}
    {argsSpan : Span} {performance : Performance}
    (performed : table.performProcedure callee args argsSpan = .ok performance) :
    ∃ routine fitting, table.lookup? callee.text = some (.procedure routine) ∧
      fitArguments? routine.arity args = some fitting ∧ performance = routine.perform fitting := by
  rw [performProcedure] at performed
  rcases table.resolve_cases callee with ⟨-, resolved⟩ | ⟨binding, bound, resolved⟩
  · rw [resolved] at performed
    cases performed
  · rw [resolved] at performed
    cases binding with
    | number value mutable => cases performed
    | function routine => cases performed
    | procedure routine =>
      cases fits : fitArguments? routine.arity args with
      | none => simp [Bind.bind, Except.bind, fits] at performed
      | some fitting =>
        refine ⟨routine, fitting, bound, fits, ?_⟩
        simpa [Bind.bind, Except.bind, fits] using performed.symm

/-- A statement that performs something prints a single line, or calls the procedure that does it.
An assignment performs nothing, and a node of an unknown type fails. -/
theorem Stmt.perform_cases {table : Table} {stmt : Stmt} {performance : Performance}
    (acts : stmt.action table = .ok (.perform performance)) :
    (∃ span value result, stmt = .print span value ∧
      value.evaluate table = .ok result ∧
      performance = .script [Table.printedLine result] none) ∨
    ∃ routine args, stmt.Calls table routine args ∧ performance = routine.perform args := by
  cases stmt with
  | assign span target value =>
    obtain ⟨result, -, acts⟩ := exists_of_bind acts
    obtain ⟨_, -, acts⟩ := exists_of_bind acts
    cases acts
  | call span called =>
    obtain ⟨values, evaluated, acts⟩ := exists_of_bind acts
    obtain ⟨_, performed, acts⟩ := exists_of_bind acts
    cases acts
    obtain ⟨routine, args, bound, fits, rfl⟩ := Table.exists_of_performProcedure performed
    exact .inr ⟨routine, args, ⟨span, called, values, rfl, evaluated, bound, fits⟩, rfl⟩
  | print span value =>
    obtain ⟨result, evaluated, acts⟩ := exists_of_bind acts
    cases acts
    exact .inl ⟨span, value, result, rfl, evaluated, rfl⟩
  | foreign span typeName => cases acts

namespace Machine

variable {σ : Type} [Output σ]

/-- How a statement fails on a machine, with the output that it leaves, its failure and what
it has written. There are three ways. -/
inductive Stops (machine : Machine σ) (stmt : Stmt) : σ → Failure → Text → Prop where
  /-- One of its checks fails, before anything is written. -/
  | check {failure : Failure} (refused : stmt.action machine.table = .error failure) :
      Stops machine stmt machine.console failure []
  /-- It prints a line, and the output refuses that. -/
  | line {span : Span} {value : Expr} {result : Float} {after : σ} {refusal wrote : Text}
      (prints : stmt = .print span value) (evaluated : value.evaluate machine.table = .ok result)
      (refuses : Output.Refuses machine.console (Table.printedLine result) after refusal wrote) :
      Stops machine stmt after (.refusedWrite refusal) wrote
  /-- It calls a procedure, and that fails. -/
  | procedure {routine : NativeProcedure} {args : Vector Float routine.arity.toNat} {after : σ}
      {failure : Failure} (calls : stmt.Calls machine.table routine args)
      (fails : (routine.perform args).run machine.console = (after, some failure)) :
      Stops machine stmt after failure ((routine.perform args).wrote machine.console)

/-- What a statement that fails leaves behind. Its fields hold of every output, except for the
last one, which is about outputs that take a text whole or not at all. -/
structure Fails (machine : Machine σ) (stmt : Stmt) (after : Machine σ) (failure : Failure) :
    Prop where
  /-- All names are as they were. -/
  table : after.table = machine.table
  /-- What it has written is what a procedure that it calls has written before that failed, or
  the part of its one line that was taken. -/
  output : machine.Stops stmt after.console failure (machine.wroteBy stmt)
  /-- An assignment writes nothing. -/
  assignment : ∀ span target value, stmt = .assign span target value →
    after.console = machine.console ∧ machine.wroteBy stmt = []
  /-- What only prints has not touched the output, or the one line that it prints is refused. -/
  plain : stmt.Plain machine.table →
    (after.console = machine.console ∧ machine.wroteBy stmt = []) ∨
    ∃ result refusal, failure = .refusedWrite refusal ∧
      Output.Refuses machine.console (Table.printedLine result) after.console refusal
        (machine.wroteBy stmt)
  /-- So it has written nothing, if the output takes texts whole or not at all. -/
  nothing : Output.AllOrNothing σ → stmt.Plain machine.table → machine.wroteBy stmt = []

variable {machine after reached : Machine σ} {stmt : Stmt} {failure : Failure}

/-- A statement that fails does so in one of the three ways.

Proof: the statement is recorded as started, which changes neither names nor output. If a check
fails, nothing is done. Otherwise the action is to perform something, because a definition
cannot fail, and performances come from print statements and from calls. -/
theorem stops_of_step (stepped : machine.step stmt = (after, some failure)) :
    machine.Stops stmt after.console failure (machine.wroteBy stmt) := by
  have started := agrees_record machine (.started stmt.typeName stmt.span.start)
  simp only [step, started.table] at stepped
  cases acts : stmt.action machine.table with
  | error refusal =>
    simp only [acts] at stepped
    cases stepped
    rw [wroteBy, acts, started.console]
    exact .check acts
  | ok action =>
    simp only [acts] at stepped
    cases action with
    | define name value => cases congrArg Prod.snd stepped
    | perform performance =>
      have fails : performance.run machine.console = (after.console, some failure) := by
        rw [← started.console]
        exact congrArg (fun outcome => (outcome.1.console, outcome.2)) stepped
      rw [wroteBy, acts]
      rcases Stmt.perform_cases acts with
        ⟨span, value, result, prints, evaluated, rfl⟩ | ⟨routine, args, calls, rfl⟩
      · obtain ⟨refusal, rfl, refuses⟩ := Performance.refuses_of_line fails
        exact .line prints evaluated refuses
      · exact .procedure calls fails

/-- An assignment can only fail in a check, before anything is written. -/
theorem Stops.assignment {span : Span} {target : Name} {value : Expr} {console : σ} {wrote : Text}
    (stops : machine.Stops (.assign span target value) console failure wrote) :
    console = machine.console ∧ wrote = [] := by
  cases stops with
  | check refused => exact ⟨rfl, rfl⟩
  | line prints evaluated refuses => cases prints
  | procedure calls fails =>
    obtain ⟨_, _, _, called, -⟩ := calls
    cases called

/-- A statement that fails has failed a check, or its failure has no place in the source. -/
theorem Stops.failure_cases {console : σ} {wrote : Text}
    (stops : machine.Stops stmt console failure wrote) :
    stmt.action machine.table = .error failure ∨ (∃ message, failure = .procedure message) ∨
      ∃ refusal, failure = .refusedWrite refusal := by
  cases stops with
  | check refused => exact .inl refused
  | line prints evaluated refuses => exact .inr (.inr ⟨_, rfl⟩)
  | procedure calls fails => exact .inr (Performance.failure_cases (congrArg Prod.snd fails))

/-- A statement that only prints fails before it writes, or by a refused line. -/
theorem Stops.plain {console : σ} {wrote : Text} (stops : machine.Stops stmt console failure wrote)
    (only : stmt.Plain machine.table) :
    (console = machine.console ∧ wrote = []) ∨
    ∃ result refusal, failure = .refusedWrite refusal ∧
      Output.Refuses machine.console (Table.printedLine result) console refusal wrote := by
  cases stops with
  | check refused => exact .inl ⟨rfl, rfl⟩
  | line prints evaluated refuses => exact .inr ⟨_, _, rfl, refuses⟩
  | procedure calls fails =>
    obtain ⟨span, called, values, rfl, -, bound, -⟩ := calls
    cases only with
    | call _ _ builtin =>
      obtain rfl := Binding.procedure.inj (Option.some.inj (bound.symm.trans builtin))
      obtain ⟨refusal, rfl, refuses⟩ := Performance.refuses_of_line fails
      exact .inr ⟨_, refusal, rfl, refuses⟩

/-- Every statement that fails leaves behind no more than that.

Proof: each clause reads a part of where the statement stops. What fails without a procedure of
its own is a check or the one line of a print statement, so that an output that takes texts whole
has taken nothing. -/
theorem fails_of_step (stepped : machine.step stmt = (after, some failure)) :
    machine.Fails stmt after failure := by
  have stops := stops_of_step stepped
  constructor
  case table =>
    have kept := @table_of_failed σ _ machine stmt failure (congrArg Prod.snd stepped)
    rwa [stepped] at kept
  case output => exact stops
  case assignment =>
    rintro span target value rfl
    exact stops.assignment
  case plain => exact stops.plain
  case nothing =>
    intro whole only
    rcases stops.plain only with ⟨-, nothing⟩ | ⟨result, refusal, -, refuses⟩
    · exact nothing
    · exact refuses.nothing whole

/-- A run that fails stops at a statement that fails, and those before it succeed.

Proof: induction on the statements. The first one fails, or it succeeds and stands before those
that the rest is split into. -/
theorem exists_failing {body : List Stmt} (ran : machine.run body = (after, some failure)) :
    ∃ before stmt later reached, body = before ++ stmt :: later ∧
      machine.run before = (reached, none) ∧ reached.step stmt = (after, some failure) := by
  induction body generalizing machine with
  | nil => cases ran
  | cons first rest others =>
    rw [run] at ran
    cases stepped : machine.step first with
    | mk next outcome =>
      rw [stepped] at ran
      cases outcome with
      | some failed =>
        cases ran
        exact ⟨[], first, rest, machine, rfl, rfl, stepped⟩
      | none =>
        obtain ⟨before, stmt, later, reached, rfl, earlier, fails⟩ := others ran
        refine ⟨first :: before, stmt, later, reached, rfl, ?_, fails⟩
        rw [run, stepped]
        exact earlier

/-- Behind a statement that fails, nothing is run. The machine is the one that it has left,
whatever the later statements are. -/
theorem run_of_failing {before : List Stmt} (earlier : machine.run before = (reached, none))
    (fails : reached.step stmt = (after, some failure)) (later : List Stmt) :
    machine.run (before ++ stmt :: later) = (after, some failure) := by
  rw [run_append, earlier]
  simp only [run, fails]

/-- Behind a statement that fails, nothing is written. What stands behind it is not run, whatever
that is. -/
theorem wrote_of_failing {before : List Stmt} (earlier : machine.run before = (reached, none))
    (fails : reached.step stmt = (after, some failure)) (later : List Stmt) :
    machine.wrote (before ++ stmt :: later) = machine.wrote before ++ reached.wroteBy stmt := by
  rw [wrote_append, earlier]
  simp only [wrote, fails]

/-- How a failed run stops at one of its statements: what it has done is what those before
that did, and what the failing statement leaves behind. -/
structure StopsAt (machine : Machine σ) (body : List Stmt) (after : Machine σ)
    (failure : Failure) (before : List Stmt) (stmt : Stmt) (later : List Stmt)
    (reached : Machine σ) : Prop where
  split : body = before ++ stmt :: later
  earlier : machine.run before = (reached, none)
  fails : reached.Fails stmt after failure
  /-- Whatever stands behind the failing statement, it has no effect. -/
  behind : ∀ others, machine.run (before ++ stmt :: others) = (after, some failure) ∧
    machine.wrote (before ++ stmt :: others) = machine.wrote before ++ reached.wroteBy stmt
  /-- Any view of the output shows what was written. -/
  shown : ∀ shown : σ → Text, Output.Shows shown →
    shown after.console =
      shown machine.console ++ (machine.wrote before ++ reached.wroteBy stmt)

/-- Every run that fails stops at one of its statements in this way. -/
theorem exists_stopsAt {body : List Stmt} (ran : machine.run body = (after, some failure)) :
    ∃ before stmt later reached, machine.StopsAt body after failure before stmt later reached := by
  obtain ⟨before, stmt, later, reached, split, earlier, fails⟩ := exists_failing ran
  refine ⟨before, stmt, later, reached, split, earlier, fails_of_step fails, ?_, ?_⟩
  · intro others
    exact ⟨run_of_failing earlier fails others, wrote_of_failing earlier fails others⟩
  · intro shown shows
    have whole := shown_run shows machine body
    rwa [ran, split, wrote_of_failing earlier fails] at whole

/-- On a console, a run that stops at a statement that only prints leaves the output of the
statements before it. -/
theorem StopsAt.output_eq {machine after reached : Machine Console} {body before later : List Stmt}
    (stops : machine.StopsAt body after failure before stmt later reached)
    (only : stmt.Plain reached.table) : after.console.output = reached.console.output := by
  have ends := stops.shown Console.output Console.shows_output
  have before := shown_run Console.shows_output machine before
  rw [stops.earlier] at before
  rw [ends, stops.fails.nothing Console.allOrNothing only, List.append_nil, before]

end Machine

namespace Session

/-- A text with something wrong in it is refused with the first diagnostic. Characters that start
no token are found before any statement is read, and either way the first diagnostic is the one
that is reported. -/
theorem parse_of_diagnostics {dialect : Dialect} {source : Text} {diagnostic : Diagnostic}
    {others : List Diagnostic}
    (wrong : (Program.ofText dialect source).2 = diagnostic :: others) :
    parse dialect source = .error (.notAProgram diagnostic) := by
  rw [Program.ofText] at wrong
  rw [parse]
  cases legal : Token.problems (Token.ofText source) with
  | cons problem rest =>
    rw [legal] at wrong
    cases wrong
    rfl
  | nil =>
    rw [legal] at wrong
    cases outcome : Program.ofTokens dialect (Token.ofText source) with
    | mk program diagnostics =>
      rw [outcome] at wrong
      cases wrong
      rfl

variable {σ : Type} [Output σ]

/-- An output that takes the first byte of every text and refuses the rest. -/
structure Narrow where
  /-- What was taken. -/
  taken : Text

instance : Output Narrow where
  write narrow text := (⟨narrow.taken ++ text.take 1⟩, ⟨1, some (Text.ofString "narrow")⟩)

end Session

end Astro
