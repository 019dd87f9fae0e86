import Astro.Proofs.NamesMentioned

/-!
# Traces are complete and harmless

A trace at the debug level records every statement when it is started and every assignment
when it has succeeded, and nothing else. So it accounts for a run: its records of started
statements go through the program up to its end or up to the statement that fails, and the
assignments that it records, made one after another, give the names as the run leaves them.

Tracing changes nothing else. A run that is traced writes the same, fails in the same way and
leaves the same names as one whose logger takes no records at the debug level, or that has no
logger.
-/

namespace Astro

/-- The type of a statement and the place where it starts. -/
def Stmt.start (stmt : Stmt) : Text × Position := (stmt.typeName, stmt.span.start)

/-- The record of a statement that is started. It tells the statement's type and the place where
it starts. -/
def Stmt.startRecord (stmt : Stmt) : Event := .started stmt.typeName stmt.span.start

/-- The statement whose start is recorded, by its type and place. -/
def Event.start? : Event → Option (Text × Position)
  | .started typeName place => some (typeName, place)
  | .assigned _ _ => none

/-- The assignment that is recorded. The record of a start tells none. -/
def Event.assignment? : Event → Option (Text × Float)
  | .started _ _ => none
  | .assigned name value => some (name, value)

/-- The record of an assignment. It tells the name and the value. -/
def Event.ofAssignment (entry : Text × Float) : Event := .assigned entry.1 entry.2

/-- No statement is started by the records of assignments. -/
theorem Event.start?_ofAssignment (entries : List (Text × Float)) :
    (entries.map ofAssignment).filterMap start? = [] := by
  rw [List.filterMap_map]
  exact List.filterMap_eq_nil_iff.mpr fun _ _ => rfl

/-- The records of assignments tell exactly these assignments, in their order. -/
theorem Event.assignment?_ofAssignment (entries : List (Text × Float)) :
    (entries.map ofAssignment).filterMap assignment? = entries := by
  rw [List.filterMap_map]
  exact List.filterMap_some

namespace Engine

variable {σ : Type}

/-- The engine with a logger of some level, or without one. -/
def withLogger (engine : Engine σ) (logger : Option TraceLevel) : Engine σ :=
  { engine with level := logger.getD .silent }

/-- A record that is made is behind the others. -/
theorem record_trace (engine : Engine σ) (event : Event) :
    (engine.record event).trace =
      engine.trace ++ if engine.level = .debug then [event] else [] := by
  unfold record
  split
  · rfl
  · exact (List.append_nil _).symm

variable [Output σ]

/-- What there is to record of one statement: that it is started, and what it assigns if it
succeeds. -/
def report (engine : Engine σ) (stmt : Stmt) : List Event :=
  match (engine.step stmt).2 with
  | none => stmt.startRecord :: (stmt.assigned engine.names.table).map Event.ofAssignment
  | some _ => [stmt.startRecord]

/-- What there is to record of statements up to the first that fails. -/
def account (engine : Engine σ) : List Stmt → List Event
  | [] => []
  | stmt :: rest =>
    match engine.step stmt with
    | (_, some _) => engine.report stmt
    | (after, none) => engine.report stmt ++ after.account rest

/-- A statement does not change how much is traced. -/
theorem step_level (engine : Engine σ) (stmt : Stmt) :
    (engine.step stmt).1.level = engine.level := by
  rcases engine.step_cases stmt with
    ⟨failure, steps⟩ | ⟨name, value, -, steps⟩ | ⟨performance, -, steps⟩
  · rw [steps, record_level]
  · rw [steps, act, record_level, record_level]
  · rw [steps, act, record_level]

/-- One statement adds what there is to record of it to the trace, at the debug level. The
statement is recorded when it starts, and the definition that it makes behind that. At the silent
level nothing is recorded. -/
theorem step_trace (engine : Engine σ) (stmt : Stmt) :
    (engine.step stmt).1.trace =
      engine.trace ++ if engine.level = .debug then engine.report stmt else [] := by
  rcases engine.step_cases stmt with
    ⟨failure, steps⟩ | ⟨name, value, assigned, steps⟩ | ⟨performance, assigned, steps⟩
  · have reported : engine.report stmt = [stmt.startRecord] := by
      rw [report, steps]
    rw [reported, steps, record_trace]
    rfl
  · have reported : engine.report stmt = [stmt.startRecord, .assigned name value] := by
      rw [report, steps, assigned]
      rfl
    rw [reported, steps, act, record_trace]
    simp only [record_trace, record_level]
    split
    · exact List.append_assoc _ _ _
    · exact List.append_nil _
  · have reported : engine.report stmt = [stmt.startRecord] := by
      rw [report, assigned]
      split <;> rfl
    rw [reported, steps, act, record_trace]
    rfl

/-- A program adds what there is to record of it to the trace, at the debug level.

Proof: induction on the statements. The level stays the same throughout, and a statement that
fails is the last one recorded. -/
theorem run_trace (engine : Engine σ) (body : List Stmt) :
    (engine.run body).1.trace =
      engine.trace ++ if engine.level = .debug then engine.account body else [] := by
  induction body generalizing engine with
  | nil => simp [run, account]
  | cons stmt rest others =>
    have here := @step_trace σ _ engine stmt
    have same := @step_level σ _ engine stmt
    rw [run, account]
    cases stepped : engine.step stmt with
    | mk after failure =>
      rw [stepped] at here same
      cases failure with
      | some failure => exact here
      | none =>
        simp only at here same ⊢
        rw [others, here, same]
        split <;> simp

/-- Every statement that is started has its start recorded once. -/
theorem starts_of_report (engine : Engine σ) (stmt : Stmt) :
    (engine.report stmt).filterMap Event.start? = [stmt.start] := by
  unfold report
  split
  · rw [List.filterMap_cons, Event.start?_ofAssignment]
    rfl
  · rfl

/-- The assignments among what there is to record are the definitions of the run.

Proof: induction on the statements. The record of a start tells no assignment, and the others are
those of the definitions. -/
theorem assignments_of_account (engine : Engine σ) (body : List Stmt) :
    (engine.account body).filterMap Event.assignment? = engine.definitions body := by
  induction body generalizing engine with
  | nil => rfl
  | cons stmt rest others =>
    rw [account, definitions, report]
    cases stepped : engine.step stmt with
    | mk after failure =>
      cases failure with
      | some failure => rfl
      | none =>
        simp only [List.filterMap_append, others, List.filterMap_cons,
          Event.assignment?_ofAssignment]
        rfl

/-- The starts among what there is to record of a run that succeeds are those of all its
statements.

Proof: induction on the statements, each of which succeeds and is recorded as started before its
assignments. -/
theorem starts_of_account {engine : Engine σ} {body : List Stmt}
    (succeeds : (engine.run body).2 = none) :
    (engine.account body).filterMap Event.start? = body.map Stmt.start := by
  induction body generalizing engine with
  | nil => rfl
  | cons stmt rest others =>
    rw [run] at succeeds
    rw [account]
    cases stepped : engine.step stmt with
    | mk after failure =>
      rw [stepped] at succeeds
      cases failure with
      | some failure => cases succeeds
      | none =>
        simp only [List.filterMap_append, starts_of_report, others succeeds]
        rfl

/-- What there is to record of a run that fails ends with the start of the statement that
fails, behind all there is to record of those before it. -/
theorem account_of_failure {engine : Engine σ} {body : List Stmt} {failure : Failure}
    (fails : (engine.run body).2 = some failure) :
    ∃ before stmt later reached, body = before ++ stmt :: later ∧
      engine.run before = (reached, none) ∧
      (reached.step stmt).2 = some failure ∧
      (engine.account before).filterMap Event.start? = before.map Stmt.start ∧
      engine.account body = engine.account before ++ [stmt.startRecord] := by
  induction body generalizing engine with
  | nil => cases fails
  | cons first rest others =>
    rw [run] at fails
    rw [account]
    cases stepped : engine.step first with
    | mk after outcome =>
      rw [stepped] at fails
      cases outcome with
      | some reason =>
        refine ⟨[], first, rest, engine, rfl, rfl, ?_, rfl, ?_⟩
        · rw [stepped, ← fails]
        · simp only [report, stepped]
          rfl
      | none =>
        obtain ⟨before, stmt, later, reached, rfl, earlier, here, -, accounted⟩ := others fails
        have arrives : engine.run (first :: before) = (reached, none) := by
          rw [run, stepped]
          exact earlier
        refine ⟨first :: before, stmt, later, reached, rfl, arrives, here, ?_, ?_⟩
        · exact starts_of_account (arrives ▸ rfl)
        · rw [account, stepped]
          simp only [accounted, List.append_assoc]

/-- A run that is traced does the same as one with a quiet logger, and its records account for
it. -/
structure Traced (body : List Stmt) (traced quiet : Engine σ) : Prop where
  state : (traced.run body).1.state = (quiet.run body).1.state
  failure : (traced.run body).2 = (quiet.run body).2
  names : (traced.run body).1.names = (quiet.run body).1.names
  /-- The quiet logger records nothing. -/
  nothing : (quiet.run body).1.trace = quiet.trace
  records : (traced.run body).1.trace = traced.trace ++ traced.account body
  /-- A run that succeeds has started every statement. -/
  complete : (traced.run body).2 = none →
    (traced.account body).filterMap Event.start? = body.map Stmt.start
  /-- A run that fails has started the statements up to the one that fails, and the start of
  that one is its last record. -/
  last : ∀ failure, (traced.run body).2 = some failure →
    ∃ before stmt later reached, body = before ++ stmt :: later ∧
      traced.run before = (reached, none) ∧
      (reached.step stmt).2 = some failure ∧
      (traced.account before).filterMap Event.start? = before.map Stmt.start ∧
      traced.account body = traced.account before ++ [stmt.startRecord]
  /-- The recorded assignments, made one after another, give the names at the end. -/
  replay : (traced.run body).1.names =
    traced.names.defineAll ((traced.account body).filterMap Event.assignment?)

/-- The trace is complete and harmless, on any output and wherever the run fails. The quiet
logger is none, a silent one or one at the info level. Every machine runs as an engine. -/
theorem run_traced (body : List Stmt) :
    (∀ {σ : Type} [Output σ] (machine : Machine σ), machine.run body =
      ((machine.engine.run body).1.machine, (machine.engine.run body).2)) ∧
    ∀ {σ : Type} [Output σ] (engine : Engine σ) (logger : Option TraceLevel),
      logger ≠ some .debug →
        Traced body (engine.withLogger (some .debug)) (engine.withLogger logger) := by
  refine ⟨fun machine => machine.run_engine body, ?_⟩
  intro σ _ engine logger other
  have debug : (engine.withLogger (some .debug)).level = .debug := rfl
  have quiet : (engine.withLogger logger).level ≠ .debug := by
    cases logger with
    | none => nofun
    | some level => exact fun same => other (congrArg some same)
  have alike : Alike (body.flatMap Stmt.names) (engine.withLogger (some .debug))
      (engine.withLogger logger) := ⟨fun _ _ => rfl, rfl⟩
  obtain ⟨ends, failure, definitions⟩ := @Alike.runAll σ _ _ _ body alike
  constructor
  case state => exact ends.state
  case failure => exact failure
  case names =>
    rw [run_names, run_names, definitions]
    rfl
  case nothing => rw [run_trace, if_neg quiet, List.append_nil]
  case records => rw [run_trace, if_pos debug]
  case complete => exact starts_of_account
  case last => exact fun _ => account_of_failure
  case replay => rw [run_names, assignments_of_account]

/-- The program `x = y; z = w; x = z;` fails at its second statement if only `y` is bound. A
logger at the info level records nothing of it. -/
theorem run_traced_undefined :
    let name (text : String) : Name := ⟨.nowhere, Text.ofString text⟩
    let assign (target source : String) : Stmt :=
      .assign .nowhere (name target) (.name (name source))
    let body : List Stmt := [assign "x" "y", assign "z" "w", assign "x" "z"]
    let engine : Engine Console :=
      ⟨References.empty.define (Text.ofString "y") (.number 5 true), .unlimited, .silent, []⟩
    some TraceLevel.info ≠ some .debug ∧
      (engine.withLogger (some .debug)).account body =
        [(assign "x" "y").startRecord, .assigned (Text.ofString "x") 5,
          (assign "z" "w").startRecord] ∧
      Traced body (engine.withLogger (some .debug)) (engine.withLogger (some .info)) := by
  intro name assign body engine
  exact ⟨nofun, rfl, (run_traced body).2 engine (some .info) nofun⟩

end Engine

end Astro
