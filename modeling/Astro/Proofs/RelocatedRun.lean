import Astro.Proofs.Relocation

/-!
# Running programs at other places

Running a program looks at the places in it only to report failures and to trace.
A program that is moved does the same to the table and to the console, and fails
in the same way, at the moved place. The trace is left out of account: it records
the place of every statement.
-/

namespace Astro

variable (move : Position → Position)

/-- What is computed in two steps, each failing at the other place, fails there as a whole. -/
theorem mapError_bind {α β : Type} (first : Except Failure α) (second : α → Except Failure β) :
    (first >>= second).mapError (Failure.relocate move) =
      first.mapError (Failure.relocate move) >>= fun value =>
        (second value).mapError (Failure.relocate move) := by
  cases first <;> rfl

namespace Table

variable (table : Table)

/-- A name is resolved wherever it stands. If it is unbound, its own place is reported. -/
theorem resolve_relocate (name : Name) :
    table.resolve (name.relocate move) =
      (table.resolve name).mapError (Failure.relocate move) := by
  unfold resolve
  cases found : table.lookup? name.text with
  | none => simp only [Name.relocate, found]; rfl
  | some binding => simp only [Name.relocate, found]; rfl

/-- A name has the same value wherever it stands, or fails at the moved place. -/
theorem valueOf_relocate (name : Name) :
    table.valueOf (name.relocate move) =
      (table.valueOf name).mapError (Failure.relocate move) := by
  rw [valueOf, valueOf, mapError_bind, resolve_relocate]
  congr 1
  funext binding
  cases binding <;> rfl

/-- A function gives the same value wherever it is called, or the call fails at the moved place of
the callee or of the arguments. -/
theorem applyFunction_relocate (callee : Name) (args : List Float) (argsSpan : Span) :
    table.applyFunction (callee.relocate move) args (argsSpan.relocate move) =
      (table.applyFunction callee args argsSpan).mapError (Failure.relocate move) := by
  rw [applyFunction, applyFunction, mapError_bind, resolve_relocate]
  congr 1
  funext binding
  cases binding with
  | number value mutable => rfl
  | procedure routine => rfl
  | function routine =>
    cases fits : fitArguments? routine.arity args <;> simp only [fits] <;> rfl

/-- A procedure does the same wherever it is called, or the call fails at the moved place of the
callee or of the arguments. -/
theorem performProcedure_relocate (callee : Name) (args : List Float) (argsSpan : Span) :
    table.performProcedure (callee.relocate move) args (argsSpan.relocate move) =
      (table.performProcedure callee args argsSpan).mapError (Failure.relocate move) := by
  rw [performProcedure, performProcedure, mapError_bind, resolve_relocate]
  congr 1
  funext binding
  cases binding with
  | number value mutable => rfl
  | function routine => rfl
  | procedure routine =>
    cases fits : fitArguments? routine.arity args <;> simp only [fits] <;> rfl

/-- A name can be assigned to wherever it stands, or the check fails at the moved place. -/
theorem checkAssignable_relocate (target : Name) :
    table.checkAssignable (target.relocate move) =
      (table.checkAssignable target).mapError (Failure.relocate move) := by
  unfold checkAssignable
  simp only [Name.relocate]
  split <;> rfl

end Table

mutual

/-- Expressions have the same value wherever they stand, and fail in the same way at the moved
place.

Proof: induction on expressions and lists of them together. Places are only passed on to failures.
-/
theorem Expr.evaluate_relocate (table : Table) (expr : Expr) :
    (expr.relocate move).evaluate table =
      (expr.evaluate table).mapError (Failure.relocate move) := by
  match expr with
  | .numeral span raw value => rfl
  | .name occurrence => exact table.valueOf_relocate move occurrence
  | .unary span op operand =>
    have inside := operand.evaluate_relocate table
    simp only [Expr.relocate, Expr.evaluate, mapError_bind, inside]
    rfl
  | .binary span op left right =>
    have before := left.evaluate_relocate table
    have behind := right.evaluate_relocate table
    simp only [Expr.relocate, Expr.evaluate, mapError_bind, before, behind]
    congr 2
    funext first
    congr 1
    funext second
    cases operation? op <;> rfl
  | .call span callee args argsSpan =>
    have inside := Expr.evaluateAll_relocate table args
    simp only [Expr.relocate, Expr.evaluate, mapError_bind, inside,
      Table.applyFunction_relocate]
  | .foreign span typeName => rfl

/-- Arguments have the same values wherever they stand. Or the first that fails does so at the
moved place. -/
theorem Expr.evaluateAll_relocate (table : Table) (exprs : List Expr) :
    Expr.evaluateAll table (Expr.relocateAll move exprs) =
      (Expr.evaluateAll table exprs).mapError (Failure.relocate move) := by
  match exprs with
  | [] => rfl
  | first :: rest =>
    have here := first.evaluate_relocate table
    have behind := Expr.evaluateAll_relocate table rest
    simp only [Expr.relocateAll, Expr.evaluateAll, mapError_bind, here, behind]
    rfl

end

/-- Statements do the same wherever they stand, or a check of them fails at the moved place.
Places occur only in failures. Names, values and operators decide what is done, and these do not
move. -/
theorem Stmt.action_relocate (table : Table) (stmt : Stmt) :
    (stmt.relocate move).action table = (stmt.action table).mapError (Failure.relocate move) := by
  cases stmt with
  | assign span target value =>
    simp only [Stmt.relocate, Stmt.action, mapError_bind, Expr.evaluate_relocate,
      Table.checkAssignable_relocate]
    rfl
  | call span called =>
    simp only [Stmt.relocate, Stmt.action, mapError_bind, Call.relocate, Expr.evaluateAll_relocate,
      Table.performProcedure_relocate]
    rfl
  | print span value =>
    simp only [Stmt.relocate, Stmt.action, mapError_bind, Expr.evaluate_relocate]
    rfl
  | foreign span typeName => rfl

namespace Machine

variable {σ : Type}

/-- Machines with the same names and the same output. They may differ in what they have traced. -/
structure Agrees (first second : Machine σ) : Prop where
  table : first.table = second.table
  console : first.console = second.console

/-- A machine agrees with itself. -/
theorem Agrees.refl (machine : Machine σ) : Agrees machine machine := ⟨rfl, rfl⟩

/-- Tracing changes neither names nor output, at any level. Machines may therefore be compared
without their traces. -/
theorem agrees_record (machine : Machine σ) (event : Event) :
    Agrees (machine.record event) machine := by
  unfold record
  split <;> exact ⟨rfl, rfl⟩

variable [Output σ]

/-- An action does the same on machines that agree, and they agree behind it. A definition changes
both tables in the same way and writes nothing, and a performance changes both outputs. -/
theorem Agrees.act {first second : Machine σ} (agree : Agrees first second) (action : Action) :
    Agrees (first.act action).1 (second.act action).1 ∧
      (first.act action).2 = (second.act action).2 := by
  obtain ⟨sameTable, sameConsole⟩ := agree
  cases action with
  | define name value =>
    have before := agrees_record
      { first with table := first.table.define name (.number value true) } (.assigned name value)
    have behind := agrees_record
      { second with table := second.table.define name (.number value true) } (.assigned name value)
    refine ⟨⟨?_, ?_⟩, rfl⟩
    · rw [Machine.act, Machine.act, before.table, behind.table, sameTable]
    · rw [Machine.act, Machine.act, before.console, behind.console, sameConsole]
  | perform performance =>
    simp only [Machine.act, sameConsole, and_true]
    exact ⟨sameTable, rfl⟩

/-- What goes wrong in an action has no place, because it is the error of a write or one of a
procedure. -/
theorem act_failure_relocate (machine : Machine σ) (action : Action) :
    (machine.act action).2.map (Failure.relocate move) = (machine.act action).2 := by
  cases action with
  | define name value => rfl
  | perform performance =>
    simp only [Machine.act]
    cases failed : (performance.run machine.console).2 with
    | none => rfl
    | some failure =>
      obtain ⟨message, rfl⟩ | ⟨refusal, rfl⟩ := Performance.failure_cases failed <;> rfl

/-- A moved statement does the same on a machine that agrees, and fails in the same
way at the moved place. -/
theorem Agrees.step_relocate {first second : Machine σ} (agree : Agrees first second)
    (stmt : Stmt) :
    Agrees (first.step stmt).1 (second.step (stmt.relocate move)).1 ∧
      (second.step (stmt.relocate move)).2 = (first.step stmt).2.map (Failure.relocate move) := by
  have before := agrees_record first (.started stmt.typeName stmt.span.start)
  have behind := agrees_record second
    (.started (stmt.relocate move).typeName (stmt.relocate move).span.start)
  have started : Agrees (first.record (.started stmt.typeName stmt.span.start))
      (second.record (.started (stmt.relocate move).typeName (stmt.relocate move).span.start)) :=
    ⟨before.table.trans (agree.table.trans behind.table.symm),
      before.console.trans (agree.console.trans behind.console.symm)⟩
  simp only [Machine.step, Stmt.action_relocate, ← started.table]
  cases acts : stmt.action (first.record (.started stmt.typeName stmt.span.start)).table with
  | error failure => exact ⟨started, rfl⟩
  | ok action =>
    obtain ⟨agreed, same⟩ := started.act action
    refine ⟨agreed, same.symm.trans ?_⟩
    exact (act_failure_relocate move _ action).symm

/-- A moved program does the same on a machine that agrees, and fails in the same way at the moved
place.

Proof: induction on the statements. Each of them leaves the machines in agreement, and both runs
stop at the same one. -/
theorem Agrees.run_relocate {first second : Machine σ} (agree : Agrees first second)
    (body : List Stmt) :
    Agrees (first.run body).1 (second.run (body.map (Stmt.relocate move))).1 ∧
      (second.run (body.map (Stmt.relocate move))).2 =
        (first.run body).2.map (Failure.relocate move) := by
  induction body generalizing first second with
  | nil => exact ⟨agree, rfl⟩
  | cons stmt rest others =>
    have step := agree.step_relocate move stmt
    rw [List.map_cons, Machine.run, Machine.run]
    cases here : first.step stmt with
    | mk after failure =>
      cases there : second.step (stmt.relocate move) with
      | mk movedAfter movedFailure =>
        rw [here, there] at step
        obtain ⟨agreed, rfl⟩ := step
        cases failure with
        | none => exact others agreed
        | some failure => exact ⟨agreed, rfl⟩

/-- Running two programs one after another is running the first and then, unless it failed, the
second from where the first has left the machine. -/
theorem run_append (machine : Machine σ) (first second : List Stmt) :
    machine.run (first ++ second) =
      match machine.run first with
      | (after, some failure) => (after, some failure)
      | (after, none) => after.run second := by
  induction first generalizing machine with
  | nil => rfl
  | cons stmt rest others =>
    rw [List.cons_append, Machine.run, Machine.run]
    cases stepped : machine.step stmt with
    | mk after failure =>
      cases failure with
      | none => exact others after
      | some failure => rfl

end Machine

end Astro
